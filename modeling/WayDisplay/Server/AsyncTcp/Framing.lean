import WayDisplay.Foundation.Runs
import WayDisplay.Server.AsyncTcp.Invariant

/-!
Framing of the TCP byte stream.

Every branch of the sender either moves bytes of the head to the wire, finishes
the head, or takes a frame out of the queue.  The framing is kept as long as
frames are only taken out before their first byte.  The sender itself does not
see to that: a kernel error on a partly sent frame removes the frame, and the
next frame follows on the same socket.
-/

namespace WayDisplay.Server.AsyncTcp

open WayDisplay.Common WayDisplay.Foundation

/--
What the kernel accepted on the bound socket is a prefix of the frames in
enqueue order, without those removed before their first byte, and no byte
follows a frame that was abandoned in the middle.
-/
def FramingKept (s : Sender) : Prop :=
  s.stream.Framed

/-! ### Two frames on one socket -/

def frameOf (byte : UInt8) : Frame :=
  ⟨1, List.replicate 12 byte, none, by simp [tcpHeaderWireSize],
    by simp [sizeMax]⟩

/-- Every ring operation succeeds; completions answer `results` in turn. -/
def scriptedKernel (results : Nat → SendRequest → Int) : Kernel where
  sqeAvailable := fun _ => true
  submit := fun _ => 1
  completion := results
  send := fun _ _ => -eagain

def sendOf (byte : UInt8) : SenderEvent :=
  .sendMessage
    { fd := 5, cookie := 7, frame := frameOf byte, userData := none
      wireSizeValid := true, allocated := true, binds := true, available := 0
      kernel := scriptedKernel fun _ _ => -eagain }

def restOf (request : SendRequest) : Int :=
  ((request.total - request.sent : Nat) : Int)

def enomem : Int := 12

def completedRun : List SenderEvent :=
  [sendOf 1, sendOf 2,
    .reap (scriptedKernel fun _ request =>
      if request.sent = 0 then 5 else restOf request) 4]

/--
The kernel takes five bytes of the first frame, then fails it with `ENOMEM`; the
second frame follows on the same socket.
-/
def abandonedRun : List SenderEvent :=
  [sendOf 1, sendOf 2,
    .reap (scriptedKernel fun calls request =>
      if calls = 1 then 5 else if calls = 3 then -enomem else restOf request) 3]

theorem advance_restOf (request : SendRequest)
    (short : request.sent < request.total) :
    (advance request.total request.sent (restOf request)).1 ≠ .sendFailed := by
  rcases advance_cases (restOf request) short with ⟨-, bad⟩ | h | h | h
  · simp only [restOf, Int.toNat_natCast] at bad
    omega
  all_goals simp [h.1]

theorem advance_eagain {total sent : Nat} (short : sent < total) :
    (advance total sent (-eagain)).1 ≠ .sendFailed := by
  simp [advance, Nat.not_lt.mpr (Nat.le_of_lt short), Nat.ne_of_lt short]

/--
As long as the kernel never fails a frame of which it has accepted bytes, every
run keeps the framing.
-/
theorem framingKept_of_sparesPartial (limit : Nat) (events : List SenderEvent)
    (spares : Along SenderEvent.step (fun _ event => event.SparesPartial)
      (senderCreate limit) events) :
    FramingKept (runFrom SenderEvent.step (senderCreate limit) events) :=
  have sound : Sound True
      (runFrom SenderEvent.step (senderCreate limit) events) :=
    invariant_runFrom (fun _ _ sound permitted => sound_step sound fun _ =>
      permitted) (sound_senderCreate limit) spares
  (sound.intact trivial).framed

theorem completedRun_framingKept :
    FramingKept (runFrom SenderEvent.step (senderCreate 0) completedRun) ∧
      (runFrom SenderEvent.step (senderCreate 0) completedRun).trace.wire =
        (frameOf 1).bytes ++ (frameOf 2).bytes := by
  refine ⟨framingKept_of_sparesPartial 0 completedRun ?_, by decide⟩
  refine ⟨?_, ?_, ?_, trivial⟩ <;> intro calls request positive short
  · exact ⟨advance_eagain short, Or.inr (advance_eagain short)⟩
  · exact ⟨advance_eagain short, Or.inr (advance_eagain short)⟩
  · refine ⟨advance_eagain short, Or.inr ?_⟩
    simpa [scriptedKernel, Nat.ne_of_gt positive] using
      advance_restOf request short

theorem abandonedRun_breaks_framing :
    ¬ FramingKept
      (runFrom SenderEvent.step (senderCreate 0) abandonedRun) := by
  intro kept
  exact absurd kept.1 (by decide)

end WayDisplay.Server.AsyncTcp
