import WayDisplay.Server.AsyncTcp.Invariant

/-!
Completion callbacks of the TCP sender.

Only an enqueue takes a new completion record.  A record can be called back from
inside the very call that enqueues its message, unless the kernel leaves unsent
frames of that type unfinished.
-/

namespace WayDisplay.Server.AsyncTcp

open WayDisplay.Common WayDisplay.Foundation

variable {s : Sender}

theorem sendMessageEx_cases (sound : Sound False s) (call : SendCall) :
    ((sendMessageEx s call).2 = false ∧
        Progresses s (sendMessageEx s call).1) ∨
      ∃ ready, Advances False s ready ∧ ready.socketPin.isSome = true ∧
        0 ≤ call.fd ∧ sendMessageEx s call = enqueueMessage ready call := by
  have ready : Advances False s (readySender s call) :=
    sound.readySender False.elim
  have outcome := sendMessageEx_outcome s call
  generalize sendMessageEx s call = sent at outcome ⊢
  cases outcome with
  | unusable => exact Or.inl ⟨rfl, .refl s⟩
  | refused =>
      exact Or.inl ⟨rfl, (ready.trans ready.sound.refuse).toProgresses⟩
  | overflowed =>
      exact Or.inl ⟨rfl, (ready.trans ready.sound.refuseOverflow).toProgresses⟩
  | enqueued descriptor pinned _ =>
      exact Or.inr ⟨_, ready, pinned, descriptor, rfl⟩

/-! ## Messages that outlive their own send -/

/--
A system call neither finishes nor fails a frame of this type that has no byte
sent.
-/
def Kernel.HoldsBack (kernel : Kernel) (messageType : Nat) : Prop :=
  ∀ calls request, request.messageType = messageType → request.sent = 0 →
    0 < request.total →
      (advance request.total 0 (kernel.send calls request)).1 = .sendPartial

def Holds (s : Sender) (record : Nat × Nat) : Prop :=
  record ∈ pendingRecords s.pending

/-- A message that the kernel holds back keeps its record pending. -/
structure HeldBack (messageType : Nat) (record : Nat × Nat) (msg : Message) :
    Prop where
  unsent : msg.bytesSent = 0
  messageType : msg.frame.messageType = messageType
  record : record ∈ msg.records

variable {record : Nat × Nat}

theorem holds_of_mem {msg : Message} (member : msg ∈ s.pending)
    (hrecord : record ∈ msg.records) :
    Holds s record :=
  List.mem_flatMap.mpr ⟨msg, member, hrecord⟩

theorem progressLoop_holds {kernel : Kernel} {messageType : Nat}
    (holdsBack : kernel.HoldsBack messageType) (budget : Nat)
    (sound : Sound False s) (idle : s.inflight = 0) {msg : Message}
    (member : msg ∈ s.pending) (held : HeldBack messageType record msg) :
    Holds (progressLoop kernel budget s).1 record := by
  induction budget generalizing s with
  | zero => exact holds_of_mem member held.record
  | succ budget ih =>
      obtain ⟨head, rest, hpending⟩ := List.exists_cons_of_ne_nil
        (List.ne_nil_of_mem member)
      have short := (sound.unfinished head (by simp [hpending])).1
      have answer := holdsBack s.kernelCalls head.request
      simp only [progressLoop, hpending, syscallSendOnce_eq sound kernel hpending]
      generalize kernel.send s.kernelCalls head.request = result at answer ⊢
      have answered := sound.syscallAnswered hpending idle result
      -- the head is finished only if it is another message than `msg`
      have behind : (advance head.totalSize head.bytesSent result).1 ≠
          .sendPartial → msg ∈ rest := by
        intro finished
        rw [hpending, List.mem_cons] at member
        rcases member with rfl | inRest
        · have spared := answer held.messageType held.unsent
            (Nat.zero_lt_of_lt short)
          rw [held.unsent] at finished
          exact absurd spared finished
        · exact inRest
      have stays : Holds ((s.kernelAccepts (head.frame.bytes.drop
          head.bytesSent) result).storeHead (head.advanced result)) record := by
        have before := holds_of_mem member held.record
        simp only [Holds, hpending, answered.pending, pendingRecords,
          List.flatMap_cons] at before ⊢
        exact before
      unfold Message.advanced at answered stays
      split
      · exact holds_of_mem member held.record
      · rcases advance_cases result short with
          ⟨hadvance, -⟩ | ⟨hadvance, -⟩ | ⟨hadvance, -, -⟩ |
          ⟨hadvance, -, -⟩ <;> simp only [hadvance] at answered behind stays ⊢
        · refine holds_of_mem ?_ held.record
          have remaining := answered.recordTransportFailure.filter_rest
          rw [← remaining] at behind
          exact behind (by simp)
        · exact stays
        · exact stays
        · refine ih (answered.finishMessage rfl) idle ?_
          have remaining := answered.filter_rest
          rw [← remaining] at behind
          exact behind (by simp)

theorem submitMessage_holds (kernel : Kernel) {head : Message}
    {rest : List Message} (hpending : s.pending = head :: rest)
    (held : Holds s record) :
    Holds (submitMessage kernel s head).1 record := by
  have sameRecords : ∀ head' : Message, head'.records = head.records →
      ∀ s' : Sender, s'.pending = head' :: rest → Holds s' record := by
    intro head' hrecords s' hpending'
    simp only [Holds, hpending, hpending', pendingRecords, List.flatMap_cons,
      hrecords] at held ⊢
    exact held
  unfold submitMessage
  split
  · exact held
  split
  · have retired := (retireRing_same s).pending.trans hpending
    exact sameRecords head rfl _ retired
  split
  · exact held
  split
  · exact held
  · rename_i bytes _ _
    have flushed := flushSubmit_same kernel (markSubmitted s head bytes.length)
    have marked := pending_markSubmitted hpending bytes.length
    generalize flushSubmit kernel (markSubmitted s head bytes.length) = outcome
      at flushed ⊢
    obtain ⟨progress, s'⟩ := outcome
    have hpending' := flushed.pending.trans marked
    cases progress with
    | submitFailed =>
        refine sameRecords
          { head with submitted := false, submittedSize := bytes.length } rfl _ ?_
        have retired := (retireRing_same s').pending.trans hpending'
        simp only [unmarkSubmitted, Sender.storeHead, retired, List.tail_cons]
    | submitRetry =>
        exact sameRecords
          { head with submitted := true, submittedSize := bytes.length } rfl s'
          hpending'
    | submitAccepted =>
        exact sameRecords
          { head with submitted := true, submittedSize := bytes.length } rfl s'
          hpending'

theorem tryStartHead_holds {kernel : Kernel} {messageType : Nat}
    (holdsBack : kernel.HoldsBack messageType) (sound : Sound False s)
    (suppress : Option Nat) {msg : Message} (member : msg ∈ s.pending)
    (held : HeldBack messageType record msg) :
    Holds (tryStartHead kernel s suppress).1 record := by
  have holds := holds_of_mem member held.record
  unfold tryStartHead
  cases hpending : s.pending with
  | nil => simp [hpending] at member
  | cons head rest =>
      simp only
      split
      · exact holds
      rename_i idle
      replace idle : s.inflight = 0 := by simpa using idle
      split
      · rename_i fallback
        simp only [progressSyscallFallback, fallback, idle, ne_eq,
          not_true_eq_false, Bool.not_true, decide_false, Bool.or_self,
          Bool.false_eq_true, if_false]
        exact progressLoop_holds holdsBack _ sound idle member held
      · rename_i noFallback
        have ready : s.ringReady = true := by
          have available := sound.available
          simpa [senderAvailable, noFallback] using available
        have answered := (sound.submitMessage kernel hpending idle ready).1
        have submitted := submitMessage_holds kernel hpending holds
        generalize submitMessage kernel s head = outcome at answered submitted ⊢
        obtain ⟨s', ok⟩ := outcome
        subst answered
        exact submitted

theorem enqueueMessage_holds (sound : Sound False s) {call : SendCall}
    (descriptor : 0 ≤ call.fd) (bound : s.socketPin.isSome = true)
    (holdsBack : call.kernel.HoldsBack call.frame.messageType) {record : Nat}
    (hrecord : call.userData = some record) :
    Holds (enqueueMessage s call).1 (record, call.frame.messageType) := by
  have added := sound.pendingAdd (newMessage s call) rfl rfl rfl descriptor
    bound
  have member : newMessage s call ∈ (pendingAdd s (newMessage s call)).pending :=
    List.mem_append_right _ List.mem_cons_self
  have held : HeldBack call.frame.messageType (record, call.frame.messageType)
      (newMessage s call) :=
    ⟨rfl, rfl, by simp [Message.records, newMessage, hrecord]⟩
  have started : Holds (tryStartHead call.kernel
      (pendingAdd s (newMessage s call)) (some s.nextSerial)).1
      (record, call.frame.messageType) :=
    tryStartHead_holds holdsBack added _ member held
  unfold enqueueMessage
  generalize tryStartHead call.kernel _ _ = outcome at started ⊢
  obtain ⟨s', ok, suppressed⟩ := outcome
  split
  · rename_i heq
    cases heq
    exact started
  · rename_i heq
    cases heq
    exact started

theorem sendMessageEx_progresses (sound : Sound False s) {call : SendCall}
    (bare : call.userData = none) :
    Progresses s (sendMessageEx s call).1 := by
  rcases sendMessageEx_cases sound call with ⟨-, progressed⟩ |
    ⟨ready, progressed, pinned, descriptor, heq⟩
  · exact progressed
  · have enqueued := (progressed.sound.enqueueMessage False.elim descriptor
      pinned).2.toProgresses
    rw [heq]
    refine progressed.toProgresses.trans
      ⟨enqueued.taken.trans ?_, enqueued.callbacks, enqueued.fallback⟩
    simp [pendingAdd, newMessage, Message.records, bare]

theorem sendMessageEx_callbacks (sound : Sound False s) (call : SendCall) :
    s.callbacks <+: (sendMessageEx s call).1.callbacks := by
  rcases sendMessageEx_cases sound call with ⟨-, progressed⟩ |
    ⟨ready, progressed, pinned, descriptor, heq⟩
  · exact progressed.callbacks
  · rw [heq]
    exact progressed.callbacks.trans (progressed.sound.enqueueMessage
      False.elim descriptor pinned).2.callbacks

end WayDisplay.Server.AsyncTcp
