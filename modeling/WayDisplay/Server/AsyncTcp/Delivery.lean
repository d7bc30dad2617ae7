import WayDisplay.Foundation.Runs
import WayDisplay.Server.AsyncTcp.Teardown

/-!
What a TCP sender owes for the messages it accepted.

Each accepted message is called back once, by the end of the teardown at the
latest.  On the way the byte counter equals the sizes of the pending messages, at
most the head is in flight, and a pending head is never left to nobody: it is on
the ring, or the sender has switched to system calls.
-/

namespace WayDisplay.Server.AsyncTcp

open WayDisplay.Common WayDisplay.Foundation

variable {s : Sender}

/-! ## Entry points -/

structure Answered (s : Sender) (call : SendCall) (sent : Sender × Bool) :
    Prop where
  attended : Attended sent.1
  taken : sent.1.taken =
    s.taken ++ if sent.2 then (newMessage s call).records else []
  limited : sent.2 = true → hasCapacity (readySender s call) call = true ∧
    sent = enqueueMessage (readySender s call) call

theorem SendOutcome.answered {call : SendCall} {sent : Sender × Bool}
    (outcome : SendOutcome s call sent) (sound : Sound False s)
    (attended : Attended s) :
    Answered s call sent := by
  have ready : Advances False s (readySender s call) :=
    sound.readySender False.elim
  -- A send that fails takes no record.
  have failed {s' : Sender} (advances : Advances False s s') :
      Answered s call (s', false) :=
    ⟨advances.attended attended,
      advances.taken.trans (List.append_nil _).symm,
      (absurd · Bool.false_ne_true)⟩
  cases outcome with
  | unusable => exact failed sound.stays
  | refused => exact failed (ready.trans ready.sound.refuse)
  | overflowed => exact failed (ready.trans ready.sound.refuseOverflow)
  | enqueued descriptor pinned capacity =>
      obtain ⟨ok, starts⟩ :=
        ready.sound.enqueueMessage False.elim descriptor pinned
      refine ⟨starts.attended, ?_, fun _ => ⟨capacity, rfl⟩⟩
      rw [starts.taken, ok, if_pos rfl, ← ready.taken]
      rfl

theorem attended_step (event : SenderEvent) (sound : Sound False s)
    (attended : Attended s) :
    Attended (SenderEvent.step s event) := by
  cases event with
  | sendMessage call =>
      exact ((sendMessageEx_outcome s call).answered sound attended).attended
  | sendOwnedMessage call =>
      exact ((sendOwnedMessageEx_outcome s call).answered sound
        attended).attended
  | sendPreparedMessage call =>
      exact ((sendMessageEx_outcome s _).answered sound attended).attended
  | reap kernel available =>
      exact (sound.senderReap False.elim available).attended attended
  | dropMessageType kernel messageType =>
      exact (sound.dropMessageType False.elim messageType).attended attended
  | setMaxPendingBytes limit => exact attended

/-! ## Whole runs -/

def SendCall.records (call : SendCall) : List (Nat × Nat) :=
  call.userData.toList.map fun record => (record, call.frame.messageType)

def SenderEvent.accepts (s : Sender) : SenderEvent → List (Nat × Nat)
  | .sendMessage call => if (sendMessageEx s call).2 then call.records else []
  | .sendOwnedMessage call =>
      if (sendOwnedMessageEx s call).2 then call.records else []
  | _ => []

def acceptStep (run : Sender × List (Nat × Nat)) (event : SenderEvent) :
    Sender × List (Nat × Nat) :=
  (SenderEvent.step run.1 event, run.2 ++ event.accepts run.1)

def senderRun (limit : Nat) (events : List SenderEvent) :
    Sender × List (Nat × Nat) :=
  runFrom acceptStep (senderCreate limit, []) events

theorem taken_step (event : SenderEvent) (sound : Sound False s)
    (attended : Attended s) :
    (SenderEvent.step s event).taken = s.taken ++ event.accepts s := by
  cases event with
  | sendMessage call =>
      exact ((sendMessageEx_outcome s call).answered sound attended).taken
  | sendOwnedMessage call =>
      exact ((sendOwnedMessageEx_outcome s call).answered sound attended).taken
  | sendPreparedMessage call =>
      exact (sendMessageEx_progresses sound rfl).taken.trans
        (List.append_nil _).symm
  | reap kernel available =>
      exact (sound.senderReap False.elim available).taken.trans
        (List.append_nil _).symm
  | dropMessageType kernel messageType =>
      exact (sound.dropMessageType False.elim messageType).taken.trans
        (List.append_nil _).symm
  | setMaxPendingBytes limit => exact (List.append_nil _).symm

structure RunSound (run : Sender × List (Nat × Nat)) : Prop where
  sound : Sound False run.1
  attended : Attended run.1
  taken : run.1.taken = run.2

theorem runSound_senderRun (limit : Nat) (events : List SenderEvent) :
    RunSound (senderRun limit events) := by
  have preserved : ∀ (run : Sender × List (Nat × Nat)) event, RunSound run →
      RunSound (acceptStep run event) := by
    intro run event kept
    refine ⟨sound_step kept.sound False.elim,
      attended_step event kept.sound kept.attended, ?_⟩
    rw [acceptStep, ← kept.taken]
    exact taken_step event kept.sound kept.attended
  have initial : RunSound (senderCreate limit, []) :=
    ⟨sound_senderCreate limit, fun _ _ => rfl, rfl⟩
  exact invariant_runFrom_of_step preserved initial events

/-! ## Shutdown -/

theorem senderDestroy_empty (kernel : Kernel) (drains : List Nat)
    (sound : Sound False s) :
    (senderDestroy kernel drains s).pending = [] ∧
      (senderDestroy kernel drains s).pendingBytes = 0 := by
  have drained := (sound.drainLoop kernel (drains.take drainLimit)).sound
  obtain ⟨emptied, bytes, -⟩ := failLoop_all (s := queueExit
    (drainLoop kernel (drains.take drainLimit) s)) rfl drained.serials
  exact ⟨emptied, bytes.trans (Nat.sub_eq_zero_of_le drained.balanced.le)⟩

structure DeliveryLaw (s : Sender) (accepted : List (Nat × Nat)) : Prop where
  /-- Each accepted completion is pending or has run, and no other has. -/
  called : (pendingRecords s.pending ++ calledRecords s.callbacks).Perm accepted
  /-- A teardown runs each accepted completion that has not run before. -/
  calledAtLast : ∀ kernel drains,
    (calledRecords (senderDestroy kernel drains s).callbacks).Perm accepted ∧
      (senderDestroy kernel drains s).pending = [] ∧
      (senderDestroy kernel drains s).pendingBytes = 0
  pendingBytes : s.pendingBytes = (s.pending.map Message.totalSize).sum
  oneInFlight : s.inflight ≤ 1 ∧
    s.inflight = (s.pending.filter fun msg => msg.submitted).length ∧
    ∀ msg ∈ s.pending.tail, msg.submitted = false
  /-- A message is enqueued only where the limit leaves room for it. -/
  limited : ∀ call,
    ((sendMessageEx s call).2 = true ∨ (sendOwnedMessageEx s call).2 = true ∨
      (sendPreparedMessage s call).2 = true) →
    (readySender s call).maxPendingBytes = 0 ∨
      (readySender s call).pendingBytes + call.frame.bytes.length ≤
        (readySender s call).maxPendingBytes
  headStarted : ∀ head rest, s.pending = head :: rest →
    s.syscallFallback = false → head.submitted = true

theorem Sound.oneInFlight (sound : Sound False s) :
    s.inflight ≤ 1 ∧
      s.inflight = (s.pending.filter fun msg => msg.submitted).length := by
  have inflight := sound.inflight
  cases hpending : s.pending with
  | nil => simp [inflight, hpending, headFlights]
  | cons head rest =>
      have idle : rest.filter (fun msg => msg.submitted) = [] := by
        refine List.filter_eq_nil_iff.mpr fun msg member => ?_
        simp [(sound.waiting hpending msg member).2.2]
      rw [inflight, hpending, headFlights, List.filter_cons, idle]
      split <;> simp

theorem hasCapacity_limit {call : SendCall}
    (capacity : hasCapacity s call = true) :
    s.maxPendingBytes = 0 ∨
      s.pendingBytes + call.frame.bytes.length ≤ s.maxPendingBytes := by
  simp only [hasCapacity, canEnqueue, Bool.and_eq_true, Bool.or_eq_true,
    beq_iff_eq, decide_eq_true_eq] at capacity
  omega

/--
In every run of a sender the completion of a message runs once if its send
returned true and never otherwise, the byte counter is exact, at most the head is
in flight, the limit holds at each enqueue, and outside the fallback a pending
head has been submitted.
-/
theorem deliveryLaw_of_run (limit : Nat) (events : List SenderEvent) :
    DeliveryLaw (senderRun limit events).1 (senderRun limit events).2 := by
  obtain ⟨sound, attended, taken⟩ := runSound_senderRun limit events
  generalize senderRun limit events = run at sound attended taken ⊢
  obtain ⟨s, accepted⟩ := run
  have accepted_eq : s.taken = accepted := taken
  subst accepted_eq
  refine ⟨sound.conserved, fun kernel drains => ?_, sound.balanced,
    ⟨sound.oneInFlight.1, sound.oneInFlight.2, sound.tailIdle⟩,
    fun call sent => ?_, fun head rest hpending off => ?_⟩
  · exact ⟨senderDestroy_called kernel drains sound,
      senderDestroy_empty kernel drains sound⟩
  · rcases sent with sent | sent | sent
    · exact hasCapacity_limit (((sendMessageEx_outcome s call).answered sound
        attended).limited sent).1
    · exact hasCapacity_limit (((sendOwnedMessageEx_outcome s call).answered
        sound attended).limited sent).1
    · exact hasCapacity_limit (((sendMessageEx_outcome s
        { call with allocated := true, userData := none }).answered sound
          attended).limited sent).1
  · by_contra idle
    have flights := sound.inflight
    rw [hpending, headFlights, if_neg idle] at flights
    have empty := attended off flights
    rw [hpending] at empty
    cases empty

end WayDisplay.Server.AsyncTcp
