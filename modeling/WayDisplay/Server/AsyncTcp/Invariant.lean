import WayDisplay.Server.AsyncTcp.Sender

/-!
The invariant of the TCP sender.

`Sound clean s` holds in every reachable state: at most the head is in flight,
pending frames are unfinished, and each completion record taken with a message
is either still pending or has been called back, once.  Where the kernel spares
partly sent frames (`clean`), the sender is in addition an intact framed stream.
-/

namespace WayDisplay.Server.AsyncTcp

open WayDisplay.Common WayDisplay.Foundation

def Message.queuedFrame (msg : Message) : QueuedFrame UInt8 :=
  ⟨msg.serial, msg.frame.bytes, msg.bytesSent⟩

def Sender.stream (s : Sender) : FramedStream UInt8 where
  nextKey := s.nextSerial
  wire := s.trace.wire
  queue := s.pending.map Message.queuedFrame
  admitted := s.trace.admitted
  finished := s.trace.finished
  withdrawn := s.trace.withdrawn

def headFlights : List Message → Nat
  | [] => 0
  | head :: _ => if head.submitted then 1 else 0

def Message.Waiting (msg : Message) : Prop :=
  msg.bytesSent < msg.totalSize ∧ 0 ≤ msg.fd ∧ msg.submitted = false

def pendingRecords (pending : List Message) : List (Nat × Nat) :=
  pending.flatMap Message.records

def pendingSize (pending : List Message) : Nat :=
  (pending.map Message.totalSize).sum

def calledRecords (callbacks : List Callback) : List (Nat × Nat) :=
  callbacks.map fun callback => (callback.record, callback.messageType)

/-- What holds of a sender whatever the ring does with its head. -/
structure Consistent (clean : Prop) (s : Sender) : Prop where
  intact : clean → s.stream.Intact
  serials : (s.pending.map Message.serial).Nodup
  serialsOld : ∀ msg ∈ s.pending, msg.serial < s.nextSerial
  conserved :
    (pendingRecords s.pending ++ calledRecords s.callbacks).Perm s.taken
  available : senderAvailable s = true
  bound : s.pending ≠ [] → s.socketPin.isSome = true
  balanced : s.pendingBytes = pendingSize s.pending

structure Sound (clean : Prop) (s : Sender) : Prop extends
    Consistent clean s where
  unfinished : ∀ msg ∈ s.pending, msg.bytesSent < msg.totalSize ∧ 0 ≤ msg.fd
  tailIdle : ∀ msg ∈ s.pending.tail, msg.submitted = false
  inflight : s.inflight = headFlights s.pending

/-- The kernel has answered for the head, which may be complete by now. -/
structure HeadAnswered (clean : Prop) (s : Sender) (msg : Message)
    (rest : List Message) : Prop extends Consistent clean s where
  pending : s.pending = msg :: rest
  idle : msg.submitted = false
  inflight : s.inflight = 0
  descriptor : 0 ≤ msg.fd
  waiting : ∀ other ∈ rest, other.Waiting

variable {clean : Prop}

theorem headFlights_waiting {pending : List Message}
    (waiting : ∀ msg ∈ pending, msg.Waiting) : headFlights pending = 0 := by
  cases pending with
  | nil => rfl
  | cons head rest =>
      simp [headFlights, (waiting head List.mem_cons_self).2.2]

variable {s : Sender} {msg : Message} {rest : List Message}

theorem Sound.waiting (sound : Sound clean s)
    (hpending : s.pending = msg :: rest) :
    ∀ other ∈ rest, other.Waiting := by
  intro other member
  have unfinished := sound.unfinished other (by simp [hpending, member])
  exact ⟨unfinished.1, unfinished.2,
    sound.tailIdle other (by simpa [hpending] using member)⟩

theorem Consistent.sound (consistent : Consistent clean s)
    (inflight : s.inflight = 0) (waiting : ∀ msg ∈ s.pending, msg.Waiting) :
    Sound clean s where
  toConsistent := consistent
  unfinished := fun msg member =>
    ⟨(waiting msg member).1, (waiting msg member).2.1⟩
  tailIdle := fun msg member =>
    (waiting msg (List.mem_of_mem_tail member)).2.2
  inflight := by rw [inflight, headFlights_waiting waiting]

theorem HeadAnswered.sound (answered : HeadAnswered clean s msg rest)
    (short : msg.bytesSent < msg.totalSize) : Sound clean s := by
  refine answered.toConsistent.sound answered.inflight ?_
  intro other member
  rw [answered.pending, List.mem_cons] at member
  rcases member with rfl | inRest
  · exact ⟨short, answered.descriptor, answered.idle⟩
  · exact answered.waiting other inRest

/-! ## Changes that leave the queue alone -/

structure SameQueue (s s' : Sender) : Prop where
  stream : s'.stream = s.stream
  pending : s'.pending = s.pending
  inflight : s'.inflight = s.inflight
  socketPin : s'.socketPin = s.socketPin
  taken : s'.taken = s.taken
  callbacks : s'.callbacks = s.callbacks
  pendingBytes : s'.pendingBytes = s.pendingBytes
  fallback : s.syscallFallback = true → s'.syscallFallback = true

variable {s s' : Sender}

theorem SameQueue.nextSerial (same : SameQueue s s') :
    s'.nextSerial = s.nextSerial :=
  congrArg FramedStream.nextKey same.stream

theorem SameQueue.trans {s s' s'' : Sender} (first : SameQueue s s')
    (second : SameQueue s' s'') : SameQueue s s'' where
  stream := second.stream.trans first.stream
  pending := second.pending.trans first.pending
  inflight := second.inflight.trans first.inflight
  socketPin := second.socketPin.trans first.socketPin
  taken := second.taken.trans first.taken
  callbacks := second.callbacks.trans first.callbacks
  pendingBytes := second.pendingBytes.trans first.pendingBytes
  fallback := second.fallback ∘ first.fallback

theorem Consistent.congr (consistent : Consistent clean s)
    (same : SameQueue s s') (available : senderAvailable s' = true) :
    Consistent clean s' where
  intact := fun hclean => same.stream ▸ consistent.intact hclean
  serials := same.pending ▸ consistent.serials
  serialsOld := by
    rw [same.pending, same.nextSerial]
    exact consistent.serialsOld
  conserved := by
    rw [same.pending, same.taken, same.callbacks]
    exact consistent.conserved
  available := available
  bound := by
    rw [same.pending, same.socketPin]
    exact consistent.bound
  balanced := by
    rw [same.pending, same.pendingBytes]
    exact consistent.balanced

theorem Sound.congr (sound : Sound clean s) (same : SameQueue s s')
    (available : senderAvailable s' = true) :
    Sound clean s' where
  toConsistent := sound.toConsistent.congr same available
  unfinished := by rw [same.pending]; exact sound.unfinished
  tailIdle := by rw [same.pending]; exact sound.tailIdle
  inflight := by rw [same.pending, same.inflight]; exact sound.inflight

theorem HeadAnswered.congr (answered : HeadAnswered clean s msg rest)
    (same : SameQueue s s') (available : senderAvailable s' = true) :
    HeadAnswered clean s' msg rest where
  toConsistent := answered.toConsistent.congr same available
  pending := same.pending.trans answered.pending
  idle := answered.idle
  inflight := same.inflight.trans answered.inflight
  descriptor := answered.descriptor
  waiting := answered.waiting

theorem retireRing_same (s : Sender) : SameQueue s (retireRing s) := by
  unfold retireRing
  split <;> exact ⟨rfl, rfl, rfl, rfl, rfl, rfl, rfl, id⟩

theorem flushSubmit_same (kernel : Kernel) (s : Sender) :
    SameQueue s (flushSubmit kernel s).2 := by
  unfold flushSubmit
  split <;> exact ⟨rfl, rfl, rfl, rfl, rfl, rfl, rfl, id⟩

theorem countPartialResubmit_same (s : Sender) (result : Int) (size : Nat) :
    SameQueue s (countPartialResubmit s result size) ∧
      (countPartialResubmit s result size).ringReady = s.ringReady := by
  unfold countPartialResubmit
  split <;> exact ⟨⟨rfl, rfl, rfl, rfl, rfl, rfl, rfl, id⟩, rfl⟩

theorem HeadAnswered.recordTransportFailure
    (answered : HeadAnswered clean s msg rest) :
    HeadAnswered clean (recordTransportFailure s) msg rest :=
  answered.congr ⟨rfl, rfl, rfl, rfl, rfl, rfl, rfl, id⟩ answered.available

/-! ## What a call leaves behind -/

/-- Outside the fallback, an idle ring means an empty queue. -/
def Attended (s : Sender) : Prop :=
  s.syscallFallback = false → s.inflight = 0 → s.pending = []

/-- Callbacks are only ever appended, no record is taken, and the fallback is
there to stay. -/
structure Progresses (s s' : Sender) : Prop where
  taken : s'.taken = s.taken
  callbacks : s.callbacks <+: s'.callbacks
  fallback : s.syscallFallback = true → s'.syscallFallback = true

/-- A sound progress that does not leave the head to nobody. -/
structure Advances (clean : Prop) (s s' : Sender) : Prop extends
    Progresses s s' where
  sound : Sound clean s'
  attended : Attended s → Attended s'

/-- A sound progress after which somebody attends to the head. -/
structure Starts (clean : Prop) (s s' : Sender) : Prop extends
    Progresses s s' where
  sound : Sound clean s'
  attended : Attended s'

theorem Progresses.refl (s : Sender) : Progresses s s :=
  ⟨rfl, List.prefix_rfl, id⟩

theorem Progresses.trans {s s' s'' : Sender} (first : Progresses s s')
    (second : Progresses s' s'') : Progresses s s'' :=
  ⟨second.taken.trans first.taken, first.callbacks.trans second.callbacks,
    second.fallback ∘ first.fallback⟩

theorem SameQueue.progresses (same : SameQueue s s') : Progresses s s' :=
  ⟨same.taken, same.callbacks ▸ List.prefix_rfl, same.fallback⟩

theorem Progresses.attended (progresses : Progresses s s')
    (fallback : s.syscallFallback = true) : Attended s' :=
  fun off => absurd ((progresses.fallback fallback).symm.trans off) (by decide)

theorem Progresses.off (progresses : Progresses s s')
    (off : s'.syscallFallback = false) : s.syscallFallback = false := by
  by_contra fallback
  rw [progresses.fallback (by simpa using fallback)] at off
  cases off

theorem Starts.after {s'' : Sender} (second : Starts clean s' s'')
    (first : Progresses s s') : Starts clean s s'' :=
  ⟨first.trans second.toProgresses, second.sound, second.attended⟩

theorem Starts.advances (starts : Starts clean s s') : Advances clean s s' :=
  ⟨starts.toProgresses, starts.sound, fun _ => starts.attended⟩

theorem Advances.trans {s'' : Sender} (first : Advances clean s s')
    (second : Advances clean s' s'') : Advances clean s s'' :=
  ⟨first.toProgresses.trans second.toProgresses, second.sound,
    second.attended ∘ first.attended⟩

theorem Sound.stays (sound : Sound clean s) : Advances clean s s :=
  ⟨.refl s, sound, id⟩

theorem Sound.moves (sound : Sound clean s) (same : SameQueue s s')
    (available : senderAvailable s' = true) : Advances clean s s' where
  toProgresses := same.progresses
  sound := sound.congr same available
  attended := fun attended off idle => same.pending.trans
    (attended (same.progresses.off off) (same.inflight ▸ idle))

/-! ## Removing a message -/

theorem perm_cons_filter {pending : List Message}
    (serials : (pending.map Message.serial).Nodup) (member : msg ∈ pending) :
    pending.Perm
      (msg :: pending.filter fun other => other.serial ≠ msg.serial) := by
  induction pending with
  | nil => cases member
  | cons head rest ih =>
      rw [List.map_cons, List.nodup_cons] at serials
      by_cases same : head.serial = msg.serial
      · have headIs : msg = head := by
          rcases List.mem_cons.mp member with isHead | inRest
          · exact isHead
          · exact False.elim (serials.1 (same ▸ List.mem_map_of_mem inRest))
        have kept : (rest.filter fun other => other.serial ≠ msg.serial) =
            rest := by
          refine List.filter_eq_self.mpr fun other inRest => ?_
          have differs : other.serial ≠ msg.serial := fun equal =>
            serials.1 (same.trans equal.symm ▸ List.mem_map_of_mem inRest)
          simpa using differs
        rw [List.filter_cons_of_neg (by simp [same]), kept, headIs]
      · have inRest : msg ∈ rest := by
          rcases List.mem_cons.mp member with isHead | inRest
          · exact absurd (congrArg Message.serial isHead).symm same
          · exact inRest
        rw [List.filter_cons_of_pos (by simpa using same)]
        exact ((ih serials.2 inRest).cons head).trans (List.Perm.swap _ _ _)

theorem pendingSize_removed {pending : List Message}
    (serials : (pending.map Message.serial).Nodup) (member : msg ∈ pending) :
    pendingSize pending = msg.totalSize + pendingSize
      (pending.filter fun other => other.serial ≠ msg.serial) :=
  ((perm_cons_filter serials member).map Message.totalSize).sum_nat

theorem Consistent.removed {s s' : Sender} (consistent : Consistent clean s)
    {msg : Message} (member : msg ∈ s.pending) (success : Bool)
    (intact : clean → s'.stream.Intact)
    (pending : s'.pending =
      s.pending.filter fun other => other.serial ≠ msg.serial)
    (callbacks : s'.callbacks = s.callbacks ++
      msg.records.map fun record => ⟨record.1, record.2, success⟩)
    (taken : s'.taken = s.taken) (nextSerial : s'.nextSerial = s.nextSerial)
    (available : senderAvailable s' = true)
    (pin : s'.socketPin = s.socketPin)
    (pendingBytes : s'.pendingBytes = s.pendingBytes - msg.totalSize) :
    Consistent clean s' where
  intact := intact
  serials := by
    rw [pending]
    exact consistent.serials.sublist (List.filter_sublist.map _)
  serialsOld := by
    rw [pending, nextSerial]
    exact fun other inFilter =>
      consistent.serialsOld other (List.mem_of_mem_filter inFilter)
  conserved := by
    have split : (pendingRecords s.pending).Perm
        (msg.records ++ pendingRecords s'.pending) := by
      rw [pending]
      exact (perm_cons_filter consistent.serials member).flatMap_right _
    have called : calledRecords s'.callbacks =
        calledRecords s.callbacks ++ msg.records := by
      simp [calledRecords, callbacks, Function.comp_def]
    rw [taken, called, ← List.append_assoc]
    refine List.perm_append_comm.trans (List.Perm.trans ?_ consistent.conserved)
    rw [← List.append_assoc]
    exact split.symm.append_right _
  available := available
  bound := fun _ => pin ▸ consistent.bound (List.ne_nil_of_mem member)
  balanced := by
    rw [pendingBytes, consistent.balanced, pending,
      pendingSize_removed consistent.serials member, Nat.add_sub_cancel_left]

theorem HeadAnswered.filter_rest (answered : HeadAnswered clean s msg rest) :
    (s.pending.filter fun other => other.serial ≠ msg.serial) = rest := by
  have serials := answered.serials
  rw [answered.pending, List.map_cons, List.nodup_cons] at serials
  rw [answered.pending, List.filter_cons_of_neg (by simp)]
  refine List.filter_eq_self.mpr fun other member => ?_
  have differs : other.serial ≠ msg.serial := fun equal =>
    serials.1 (equal ▸ List.mem_map_of_mem member)
  simpa using differs

theorem stream_removeUnfinished (s : Sender) (msg : Message) :
    (removeUnfinished s msg).stream = s.stream.withdraw msg.queuedFrame := by
  simp only [removeUnfinished, pendingRemove, Sender.stream,
    FramedStream.withdraw, Message.queuedFrame, List.filter_map,
    Function.comp_def]
  rfl

theorem Consistent.failMessage (consistent : Consistent clean s)
    (member : msg ∈ s.pending) (unsent : clean → msg.bytesSent = 0) :
    Consistent clean (failMessage s msg) := by
  refine consistent.removed member false ?_ rfl rfl rfl rfl
    consistent.available rfl rfl
  intro hclean
  have withdrawn := (consistent.intact hclean).withdraw
    (List.mem_map_of_mem member) (unsent hclean)
  rw [← stream_removeUnfinished] at withdrawn
  exact withdrawn

theorem HeadAnswered.failMessage (answered : HeadAnswered clean s msg rest)
    (unsent : clean → msg.bytesSent = 0) : Sound clean (failMessage s msg) := by
  refine (answered.toConsistent.failMessage (by simp [answered.pending])
    unsent).sound answered.inflight ?_
  change ∀ other ∈ s.pending.filter _, other.Waiting
  rw [answered.filter_rest]
  exact answered.waiting

theorem HeadAnswered.finishMessage (answered : HeadAnswered clean s msg rest)
    (complete : msg.bytesSent = msg.totalSize) :
    Sound clean (finishMessage s msg) := by
  have member : msg ∈ s.pending := by simp [answered.pending]
  have consistent : Consistent clean (AsyncTcp.finishMessage s msg) := by
    refine answered.toConsistent.removed member true ?_ rfl rfl rfl rfl
      answered.available rfl rfl
    intro hclean
    have queue : s.stream.queue =
        msg.queuedFrame :: rest.map Message.queuedFrame := by
      simp only [Sender.stream, answered.pending, List.map_cons]
    have finished := (answered.intact hclean).finish queue
      (Nat.le_of_eq complete.symm)
    simp only [FramedStream.finish, queue] at finished
    simp only [AsyncTcp.finishMessage, completeMessage, pendingRemove,
      Sender.stream, answered.filter_rest]
    exact finished
  refine consistent.sound answered.inflight ?_
  change ∀ other ∈ s.pending.filter _, other.Waiting
  rw [answered.filter_rest]
  exact answered.waiting

theorem Sound.failMessage (sound : Sound clean s) (member : msg ∈ s.pending)
    (idle : msg.submitted = false) (unsent : clean → msg.bytesSent = 0) :
    Advances clean s (failMessage s msg) := by
  refine ⟨⟨rfl, List.prefix_append _ _, id⟩, ?_, fun attended off none => ?_⟩
  swap
  · exact absurd (attended off none) (List.ne_nil_of_mem member)
  obtain ⟨head, rest, hpending⟩ := List.exists_cons_of_ne_nil
    (List.ne_nil_of_mem member)
  have idleRest := fun other inRest => (sound.waiting hpending other inRest).2.2
  have flights := sound.inflight
  rw [hpending, headFlights] at flights
  have removed : (AsyncTcp.failMessage s msg).pending =
      (head :: rest).filter fun other => other.serial ≠ msg.serial := by
    rw [← hpending]
    rfl
  refine ⟨sound.toConsistent.failMessage member unsent, ?_, ?_, ?_⟩
  · exact fun other inQueue =>
      sound.unfinished other (List.mem_of_mem_filter inQueue)
  · rw [removed, List.filter_cons]
    intro other inTail
    split at inTail
    · exact idleRest other (List.mem_of_mem_filter inTail)
    · exact idleRest other (List.mem_of_mem_filter (List.mem_of_mem_tail inTail))
  · rw [removed, List.filter_cons]
    split
    · exact flights
    · -- the head itself is dropped, so nothing was in flight
      rename_i same
      have headIs : head = msg := by
        have distinct := sound.serials
        rw [hpending] at member distinct
        exact List.inj_on_of_nodup_map distinct List.mem_cons_self member
          (by simpa using same)
      rw [headIs, if_neg (by simp [idle])] at flights
      refine flights.trans (headFlights_waiting fun other inFilter => ?_).symm
      exact sound.waiting hpending other (List.mem_of_mem_filter inFilter)

/-! ## Kernel answers -/

theorem remainingBytes_eq (msg : Message) (h : msg.bytesSent < msg.totalSize) :
    msg.remainingBytes = some (msg.frame.bytes.drop msg.bytesSent) := by
  have fits := msg.frame.fits
  simp only [Message.totalSize, Frame.bytes, List.length_append] at h
  unfold Message.remainingBytes Frame.bytes
  cases hpayload : msg.frame.ownedPayload with
  | none => simp
  | some payload =>
      simp only [hpayload, Option.getD_some] at h fits ⊢
      have small : ¬ msg.frame.inlineBytes.length > sizeMax - payload.length := by
        omega
      by_cases inHeader : msg.bytesSent < msg.frame.inlineBytes.length
      · have nonzero : msg.frame.inlineBytes.length - msg.bytesSent ≠ 0 := by
          omega
        have taken : (msg.frame.inlineBytes.drop msg.bytesSent).take
            (msg.frame.inlineBytes.length - msg.bytesSent) =
            msg.frame.inlineBytes.drop msg.bytesSent :=
          List.take_of_length_le (by simp)
        simp [planOwnedSend, small, h, inHeader, nonzero, taken,
          List.drop_append_of_le_length (Nat.le_of_lt inHeader)]
      · have offset : ¬ msg.bytesSent - msg.frame.inlineBytes.length ≥
            payload.length := by omega
        have nonzero : payload.length -
            (msg.bytesSent - msg.frame.inlineBytes.length) ≠ 0 := by omega
        have taken : (payload.drop
            (msg.bytesSent - msg.frame.inlineBytes.length)).take
            (payload.length - (msg.bytesSent - msg.frame.inlineBytes.length)) =
            payload.drop (msg.bytesSent - msg.frame.inlineBytes.length) :=
          List.take_of_length_le (by simp)
        simp [planOwnedSend, small, h, inHeader, offset, nonzero, taken,
          List.drop_append, List.drop_of_length_le (Nat.le_of_not_lt inHeader)]

/-- `advance` counts exactly the bytes that the kernel accepted. -/
theorem acceptedBytes_advance (bytes : List UInt8) {sent : Nat} (result : Int)
    (h : sent < bytes.length) :
    acceptedBytes (bytes.drop sent) result =
      (bytes.drop sent).take ((advance bytes.length sent result).2 - sent) := by
  unfold acceptedBytes
  simp only [List.length_drop]
  rcases advance_cases result h with
    ⟨hadvance, bad⟩ | ⟨hadvance, negative⟩ | ⟨hadvance, positive, short⟩ |
    ⟨hadvance, positive, last⟩
  · rw [hadvance, if_neg (by omega)]
    simp
  · rw [hadvance, if_neg (by omega)]
    simp
  · rw [hadvance, if_pos (by omega)]
    simp
  · rw [hadvance, if_pos (by omega), last]

def Message.advanced (msg : Message) (result : Int) : Message :=
  { msg with bytesSent := (advance msg.totalSize msg.bytesSent result).2 }

theorem intact_answer (intact : s.stream.Intact) {msg msg' : Message}
    (hpending : s.pending = msg :: rest) (short : msg.bytesSent < msg.totalSize)
    (result : Int) (hserial : msg'.serial = msg.serial)
    (hframe : msg'.frame = msg.frame)
    (hsent : msg'.bytesSent = (advance msg.totalSize msg.bytesSent result).2) :
    ((s.kernelAccepts (msg.frame.bytes.drop msg.bytesSent) result).storeHead
        msg').stream.Intact := by
  have grows : msg.bytesSent ≤ (advance msg.totalSize msg.bytesSent result).2 := by
    rcases advance_cases result short with h | h | h | h <;>
      simp only [h.1] <;> omega
  have accepted := intact.accept
    ((advance msg.totalSize msg.bytesSent result).2 - msg.bytesSent)
  simp only [FramedStream.accept, Sender.stream, hpending, List.map_cons,
    Message.queuedFrame, Nat.add_sub_cancel' grows] at accepted
  simp only [Sender.kernelAccepts, Sender.storeHead, Sender.stream, hpending,
    List.map_cons, List.tail_cons, Message.queuedFrame, hserial, hframe, hsent,
    acceptedBytes_advance msg.frame.bytes result short]
  exact accepted

theorem Consistent.storeHead (consistent : Consistent clean s)
    (hpending : s.pending = msg :: rest) (msg' : Message)
    (intact : clean → s'.stream.Intact) (hpending' : s'.pending = msg' :: rest)
    (hserial : msg'.serial = msg.serial) (hrecords : msg'.records = msg.records)
    (hframe : msg'.frame = msg.frame) (available : senderAvailable s' = true)
    (hpin : s'.socketPin = s.socketPin) (htaken : s'.taken = s.taken)
    (hcallbacks : s'.callbacks = s.callbacks)
    (hnext : s'.nextSerial = s.nextSerial)
    (hbytes : s'.pendingBytes = s.pendingBytes) : Consistent clean s' where
  intact := intact
  serials := by
    have serials := consistent.serials
    simpa [hpending, hpending', hserial] using serials
  serialsOld := by
    have serialsOld := consistent.serialsOld
    simpa [hpending, hpending', hserial, hnext] using serialsOld
  conserved := by
    have conserved := consistent.conserved
    simpa [hpending, hpending', pendingRecords, hrecords, htaken, hcallbacks]
      using conserved
  available := available
  bound := fun _ => hpin ▸ consistent.bound (by simp [hpending])
  balanced := by
    rw [hbytes, consistent.balanced, hpending, hpending']
    simp only [pendingSize, List.map_cons, Message.totalSize, hframe]

/-! ## Preservation -/

/-- The kernel never fails a frame of which it has accepted some bytes. -/
def Kernel.SparesPartial (kernel : Kernel) : Prop :=
  ∀ calls request, 0 < request.sent → request.sent < request.total →
    (advance request.total request.sent (kernel.send calls request)).1 ≠
        .sendFailed ∧
      (cqeShouldTrySyscall (kernel.completion calls request) = true ∨
        (advance request.total request.sent
          (kernel.completion calls request)).1 ≠ .sendFailed)

theorem syscallSendOnce_eq (sound : Sound clean s) (kernel : Kernel)
    (hpending : s.pending = msg :: rest) :
    syscallSendOnce kernel s msg =
      (kernel.send s.kernelCalls msg.request,
        s.kernelAccepts (msg.frame.bytes.drop msg.bytesSent)
          (kernel.send s.kernelCalls msg.request)) := by
  have bound := sound.bound (by simp [hpending])
  have short := (sound.unfinished msg (by simp [hpending])).1
  have notNone : s.socketPin.isNone = false := by
    simpa using bound
  simp [syscallSendOnce, notNone, Nat.not_le.mpr short,
    remainingBytes_eq msg short]

theorem Sound.kernelAccepts_nonpositive (sound : Sound clean s)
    (bytes : List UInt8) {result : Int} (nonpositive : result ≤ 0) :
    Sound clean (s.kernelAccepts bytes result) := by
  have nothing : acceptedBytes bytes result = [] :=
    if_neg fun accepted => absurd accepted.1 (by omega)
  have sameStream : (s.kernelAccepts bytes result).stream = s.stream := by
    simp [Sender.kernelAccepts, Sender.stream, nothing]
  exact sound.congr ⟨sameStream, rfl, rfl, rfl, rfl, rfl, rfl, id⟩
    sound.available

theorem Sound.headAnswered (sound : Sound clean s)
    (hpending : s.pending = msg :: rest) (msg' : Message)
    (consistent : Consistent clean s') (hpending' : s'.pending = msg' :: rest)
    (idle : msg'.submitted = false) (inflight : s'.inflight = 0)
    (descriptor : msg'.fd = msg.fd) : HeadAnswered clean s' msg' rest where
  toConsistent := consistent
  pending := hpending'
  idle := idle
  inflight := inflight
  descriptor := descriptor ▸ (sound.unfinished msg (by simp [hpending])).2
  waiting := sound.waiting hpending

theorem Sound.syscallAnswered (sound : Sound clean s)
    (hpending : s.pending = msg :: rest) (idle : s.inflight = 0) (result : Int) :
    HeadAnswered clean
      ((s.kernelAccepts (msg.frame.bytes.drop msg.bytesSent) result).storeHead
        (msg.advanced result)) (msg.advanced result) rest := by
  have short := (sound.unfinished msg (by simp [hpending])).1
  have notSubmitted : msg.submitted = false := by
    simpa [hpending, headFlights, idle] using sound.inflight
  have stored : ((s.kernelAccepts (msg.frame.bytes.drop msg.bytesSent)
      result).storeHead (msg.advanced result)).pending =
      msg.advanced result :: rest := by
    simp only [Sender.storeHead, Sender.kernelAccepts, hpending, List.tail_cons]
  refine sound.headAnswered hpending _ ?_ stored notSubmitted idle rfl
  refine sound.toConsistent.storeHead hpending _ ?_ stored rfl rfl rfl
    sound.available rfl rfl rfl rfl rfl
  exact fun hclean => intact_answer (sound.intact hclean) hpending short result
    rfl rfl rfl

variable {kernel : Kernel}

theorem Sound.progressLoop (spares : clean → kernel.SparesPartial)
    (budget : Nat) (sound : Sound clean s) (idle : s.inflight = 0) :
    Sound clean (progressLoop kernel budget s).1 ∧
      Progresses s (progressLoop kernel budget s).1 := by
  induction budget generalizing s with
  | zero => exact ⟨sound, .refl s⟩
  | succ budget ih =>
      cases hpending : s.pending with
      | nil =>
          simpa [AsyncTcp.progressLoop, hpending] using
            ⟨sound, Progresses.refl s⟩
      | cons msg rest =>
          have short := (sound.unfinished msg (by simp [hpending])).1
          have spared := fun hclean => spares hclean s.kernelCalls msg.request
          simp only [AsyncTcp.progressLoop, hpending,
            syscallSendOnce_eq sound kernel hpending]
          generalize kernel.send s.kernelCalls msg.request = result at spared ⊢
          have answered := sound.syscallAnswered hpending idle result
          split
          · rename_i again
            refine ⟨sound.kernelAccepts_nonpositive _ ?_, rfl, List.prefix_rfl,
              id⟩
            rcases again with rfl | rfl <;> decide
          · unfold Message.advanced at answered
            rcases advance_cases result short with
              ⟨hadvance, -⟩ | ⟨hadvance, -⟩ | ⟨hadvance, -, last⟩ |
              ⟨hadvance, -, -⟩ <;> simp only [hadvance] at answered ⊢
            · refine ⟨answered.recordTransportFailure.failMessage fun hclean => ?_,
                rfl, List.prefix_append _ _, id⟩
              by_contra nonzero
              exact (spared hclean (Nat.pos_of_ne_zero nonzero) short).1
                (by simp [Message.request, hadvance])
            · exact ⟨(answered.sound short).congr
                ⟨rfl, rfl, rfl, rfl, rfl, rfl, rfl, id⟩ answered.available,
                rfl, List.prefix_rfl, id⟩
            · have stillShort : msg.bytesSent + result.toNat < msg.totalSize := by
                omega
              exact ⟨(answered.sound stillShort).congr
                ⟨rfl, rfl, rfl, rfl, rfl, rfl, rfl, id⟩ answered.available,
                rfl, List.prefix_rfl, id⟩
            · obtain ⟨after, progressed⟩ :=
                ih (answered.finishMessage rfl) idle
              exact ⟨after, progressed.taken,
                (List.prefix_append _ _).trans progressed.callbacks,
                progressed.fallback⟩

theorem Sound.progressSyscallFallback (spares : clean → kernel.SparesPartial)
    (sound : Sound clean s) (fallback : s.syscallFallback = true) :
    Starts clean s (progressSyscallFallback kernel s).1 := by
  unfold AsyncTcp.progressSyscallFallback
  split
  · exact ⟨.refl s, sound, (Progresses.refl s).attended fallback⟩
  · rename_i active
    have idle : s.inflight = 0 := by
      by_contra busy
      exact active (by simp [busy])
    obtain ⟨after, progressed⟩ := sound.progressLoop spares progressBudget idle
    exact ⟨progressed, after, progressed.attended fallback⟩

/-! ## The ring -/

theorem stream_storeHead (s : Sender) (hpending : s.pending = msg :: rest)
    (msg' : Message) (hframe : msg'.queuedFrame = msg.queuedFrame) :
    (s.storeHead msg').stream = s.stream := by
  simp only [Sender.stream, Sender.storeHead, hpending, List.map_cons,
    List.tail_cons, hframe]

theorem pending_markSubmitted (hpending : s.pending = msg :: rest) (size : Nat) :
    (markSubmitted s msg size).pending =
      { msg with submitted := true, submittedSize := size } :: rest := by
  simp only [markSubmitted, Sender.storeHead, hpending, List.tail_cons]

theorem stream_markSubmitted (hpending : s.pending = msg :: rest) (size : Nat) :
    (markSubmitted s msg size).stream = s.stream :=
  stream_storeHead s hpending
    { msg with submitted := true, submittedSize := size } rfl

theorem Sound.markSubmitted (sound : Sound clean s)
    (hpending : s.pending = msg :: rest) (idle : s.inflight = 0) (size : Nat) :
    Sound clean (markSubmitted s msg size) := by
  have stored := pending_markSubmitted hpending size
  refine ⟨sound.toConsistent.storeHead hpending _ ?_ stored rfl rfl rfl
    sound.available rfl rfl rfl rfl rfl, ?_, ?_, ?_⟩
  · rw [stream_markSubmitted hpending]
    exact sound.intact
  · have unfinished := sound.unfinished
    rw [hpending, List.forall_mem_cons] at unfinished
    rw [stored, List.forall_mem_cons]
    exact unfinished
  · rw [stored, List.tail_cons]
    exact fun other member => (sound.waiting hpending other member).2.2
  · rw [stored, headFlights, if_pos rfl]
    simp only [AsyncTcp.markSubmitted, idle]

theorem Sound.unmarkSubmitted (sound : Sound clean s)
    (hpending : s.pending = msg :: rest) (idle : s.inflight = 0) (size : Nat)
    (same : SameQueue (AsyncTcp.markSubmitted s msg size) s') :
    Sound clean (unmarkSubmitted s' msg size) := by
  have pending' := same.pending.trans (pending_markSubmitted hpending size)
  have stream' := (stream_storeHead s' pending'
    { msg with submitted := false, submittedSize := size } rfl).trans
      (same.stream.trans (stream_markSubmitted hpending size))
  have stored : (AsyncTcp.unmarkSubmitted s' msg size).pending =
      { msg with submitted := false, submittedSize := size } :: rest := by
    simp only [AsyncTcp.unmarkSubmitted, Sender.storeHead, pending',
      List.tail_cons]
  refine HeadAnswered.sound (sound.headAnswered hpending _
    (sound.toConsistent.storeHead hpending _
      (fun hclean => stream' ▸ sound.intact hclean) stored rfl rfl rfl ?_
      same.socketPin same.taken same.callbacks same.nextSerial
      same.pendingBytes)
    stored rfl ?_ rfl) (sound.unfinished msg (by simp [hpending])).1
  · simp [senderAvailable, AsyncTcp.unmarkSubmitted]
  · simp only [AsyncTcp.unmarkSubmitted, Sender.storeHead, same.inflight,
      AsyncTcp.markSubmitted, idle]

theorem Sound.submitMessage (sound : Sound clean s) (kernel : Kernel)
    (hpending : s.pending = msg :: rest) (idle : s.inflight = 0)
    (ready : s.ringReady = true) :
    (submitMessage kernel s msg).2 = true ∧
      Starts clean s (submitMessage kernel s msg).1 := by
  obtain ⟨short, descriptor⟩ := sound.unfinished msg (by simp [hpending])
  have notSubmitted : msg.submitted = false := by
    simpa [hpending, headFlights, idle] using sound.inflight
  have nonempty : (msg.frame.bytes.drop msg.bytesSent).length ≠ 0 := by
    have positive : 0 < msg.totalSize - msg.bytesSent := by omega
    simpa [Message.totalSize] using Nat.ne_of_gt positive
  have marked := sound.markSubmitted hpending idle
    (msg.frame.bytes.drop msg.bytesSent).length
  unfold AsyncTcp.submitMessage
  rw [if_neg (by simp [ready, notSubmitted, descriptor, short])]
  split
  · have same : SameQueue s { retireRing s with syscallFallback := true } :=
      (retireRing_same s).trans
        ⟨rfl, rfl, rfl, rfl, rfl, rfl, rfl, fun _ => rfl⟩
    exact ⟨rfl, same.progresses, sound.congr same (by simp [senderAvailable]),
      (Progresses.refl _).attended rfl⟩
  simp only [remainingBytes_eq msg short, if_neg nonempty]
  have flushed := flushSubmit_same kernel
    (AsyncTcp.markSubmitted s msg (msg.frame.bytes.drop msg.bytesSent).length)
  have ringKept : (flushSubmit kernel (AsyncTcp.markSubmitted s msg
      (msg.frame.bytes.drop msg.bytesSent).length)).2.ringReady = true := by
    simp [flushSubmit, AsyncTcp.markSubmitted, Sender.storeHead, ready]
  generalize flushSubmit kernel (AsyncTcp.markSubmitted s msg
    (msg.frame.bytes.drop msg.bytesSent).length) = outcome at flushed ringKept ⊢
  obtain ⟨progress, s'⟩ := outcome
  change s'.ringReady = true at ringKept
  -- A submitted head keeps the ring busy.
  have busy : Starts clean s s' := by
    have progressed := flushed.progresses
    refine ⟨⟨progressed.taken, progressed.callbacks, progressed.fallback⟩,
      marked.congr flushed (by simp [senderAvailable, ringKept]),
      fun _ none => ?_⟩
    rw [flushed.inflight] at none
    exact absurd none (Nat.succ_ne_zero _)
  cases progress with
  | submitFailed =>
      have retired := flushed.trans (retireRing_same s')
      exact ⟨rfl, ⟨retired.taken, retired.progresses.callbacks, fun _ => rfl⟩,
        sound.unmarkSubmitted hpending idle _ retired,
        (Progresses.refl _).attended rfl⟩
  | submitRetry => exact ⟨rfl, busy⟩
  | submitAccepted => exact ⟨rfl, busy⟩

theorem Sound.tryStartHead (spares : clean → kernel.SparesPartial)
    (sound : Sound clean s) (suppress : Option Nat) :
    (tryStartHead kernel s suppress).2.2 = false ∧
      Starts clean s (tryStartHead kernel s suppress).1 := by
  unfold AsyncTcp.tryStartHead
  cases hpending : s.pending with
  | nil => exact ⟨rfl, .refl s, sound, fun _ _ => hpending⟩
  | cons head rest =>
      simp only
      split
      · rename_i busy
        exact ⟨rfl, .refl s, sound, fun _ none => absurd none busy⟩
      rename_i idle
      split
      · rename_i fallback
        exact ⟨rfl, sound.progressSyscallFallback spares fallback⟩
      rename_i noFallback
      have ready : s.ringReady = true := by
        have available := sound.available
        simpa [senderAvailable, noFallback] using available
      have submitted :=
        sound.submitMessage kernel hpending (by simpa using idle) ready
      generalize AsyncTcp.submitMessage kernel s head = outcome at submitted ⊢
      obtain ⟨s', ok⟩ := outcome
      obtain ⟨hok, starts⟩ := submitted
      subst hok
      exact ⟨rfl, starts⟩

/-! ## Completions -/

theorem Sound.takeCompletion (sound : Sound clean s)
    (hpending : s.pending = msg :: rest) (flying : msg.submitted = true)
    (ready : s.ringReady = true) (result : Int) :
    HeadAnswered clean
      ((takeCompletion s msg result).storeHead (msg.landed.advanced result))
      (msg.landed.advanced result) rest := by
  have short := (sound.unfinished msg (by simp [hpending])).1
  have stored : ((AsyncTcp.takeCompletion s msg result).storeHead
      (msg.landed.advanced result)).pending =
      msg.landed.advanced result :: rest := by
    simp only [AsyncTcp.takeCompletion, Sender.storeHead, Sender.kernelAccepts,
      hpending, List.tail_cons]
  refine sound.headAnswered hpending _ ?_ stored rfl ?_ rfl
  · refine sound.toConsistent.storeHead hpending _ ?_ stored rfl rfl rfl ?_ rfl
      rfl rfl rfl rfl
    · intro hclean
      have intact := intact_answer (sound.intact hclean) hpending short result
        (rfl : (msg.landed.advanced result).serial = msg.serial) rfl rfl
      simp only [AsyncTcp.takeCompletion, remainingBytes_eq msg short]
      exact intact
    · simp [senderAvailable, AsyncTcp.takeCompletion, Sender.storeHead,
        Sender.kernelAccepts, ready]
  · change s.inflight - 1 = 0
    rw [sound.inflight, hpending, headFlights, if_pos flying]

theorem HeadAnswered.settleHead (spares : clean → kernel.SparesPartial)
    (answered : HeadAnswered clean s msg rest) (ready : s.ringReady = true)
    {progress : SendProgress} (result : Int) (size : Nat)
    (failed : clean → progress = .sendFailed → msg.bytesSent = 0)
    (bounded : msg.bytesSent ≤ msg.totalSize) :
    Starts clean s (settleHead kernel s msg progress result size) := by
  unfold AsyncTcp.settleHead
  split
  · rename_i hfailed
    exact ((answered.recordTransportFailure.failMessage fun hclean =>
      failed hclean hfailed).tryStartHead spares none).2.after
        ⟨rfl, List.prefix_append _ _, id⟩
  split
  · rename_i complete
    exact ((answered.finishMessage complete).tryStartHead spares none).2.after
      ⟨rfl, List.prefix_append _ _, id⟩
  rename_i incomplete
  obtain ⟨same, ringKept⟩ := countPartialResubmit_same s result size
  rw [ready] at ringKept
  have counted := answered.congr same (by simp [senderAvailable, ringKept])
  have submitted := (counted.sound (by omega)).submitMessage kernel
    counted.pending counted.inflight ringKept
  generalize AsyncTcp.submitMessage kernel (countPartialResubmit s result size)
    msg = outcome at submitted ⊢
  obtain ⟨s', ok⟩ := outcome
  obtain ⟨hok, starts⟩ := submitted
  subst hok
  exact starts.after same.progresses

theorem advanced_of_trySyscall {result : Int}
    (short : msg.bytesSent < msg.totalSize)
    (fallback : cqeShouldTrySyscall result = true) :
    msg.landed.advanced result = msg.landed := by
  have negative : result < 0 := by
    simp only [cqeShouldTrySyscall, Bool.or_eq_true, beq_iff_eq] at fallback
    rcases fallback with rfl | rfl <;> decide
  have sent : (advance msg.totalSize msg.bytesSent result).2 =
      msg.bytesSent := by
    rcases advance_cases result short with h | h | h | h <;>
      simp only [h.1] <;> omega
  exact congrArg (fun sent => { msg.landed with bytesSent := sent }) sent

theorem advanced_le (result : Int) (short : msg.bytesSent < msg.totalSize) :
    (msg.landed.advanced result).bytesSent ≤ msg.landed.totalSize := by
  change (advance msg.totalSize msg.bytesSent result).2 ≤ msg.totalSize
  rcases advance_cases result short with h | h | h | h <;>
    simp only [h.1] <;> omega

theorem Sound.handleCompletion (spares : clean → kernel.SparesPartial)
    (sound : Sound clean s) (hpending : s.pending = msg :: rest)
    (flying : msg.submitted = true) (ready : s.ringReady = true) :
    Starts clean s (handleCompletion kernel s msg) := by
  have short := (sound.unfinished msg (by simp [hpending])).1
  have spared := fun hclean => spares hclean s.kernelCalls msg.request
  simp only [AsyncTcp.handleCompletion]
  generalize kernel.completion s.kernelCalls msg.request = result at spared ⊢
  have answered := sound.takeCompletion hpending flying ready result
  have cases := advance_cases result short
  split
  · rename_i fallback
    rw [advanced_of_trySyscall short fallback] at answered
    have fallen : Sound clean { AsyncTcp.takeCompletion s msg result with
        syscallFallback := true } :=
      (answered.sound short).congr
        ⟨rfl, rfl, rfl, rfl, rfl, rfl, rfl, fun _ => rfl⟩
        (by simp [senderAvailable])
    exact (fallen.progressSyscallFallback spares rfl).after
      ⟨rfl, List.prefix_rfl, fun _ => rfl⟩
  · rename_i noSyscall
    refine (HeadAnswered.settleHead spares answered ready result _ ?_ ?_).after
      ⟨rfl, List.prefix_rfl, id⟩
    · intro hclean hfailed
      have sent : (advance msg.totalSize msg.bytesSent result).2 =
          msg.bytesSent := by
        rcases cases with h | h | h | h <;> simp [h.1] at hfailed ⊢
      refine sent.trans ?_
      by_contra nonzero
      rcases (spared hclean (Nat.pos_of_ne_zero nonzero) short).2 with
        syscall | spared
      · exact noSyscall syscall
      · exact spared hfailed
    · exact advanced_le result short

theorem Sound.reapLoop (spares : clean → kernel.SparesPartial) (available : Nat)
    (sound : Sound clean s) :
    Advances clean s (reapLoop kernel available s) := by
  induction available generalizing s with
  | zero => exact sound.stays
  | succ available ih =>
      unfold AsyncTcp.reapLoop
      cases hpending : s.pending with
      | nil => exact sound.stays
      | cons head rest =>
          simp only
          split
          · exact sound.stays
          · rename_i flying
            simp only [Bool.or_eq_true, Bool.not_eq_true', not_or,
              Bool.not_eq_false] at flying
            have handled := sound.handleCompletion spares hpending flying.2
              flying.1.1
            exact handled.advances.trans (ih handled.sound)

theorem Sound.recallHead (sound : Sound clean s) (same : SameQueue s s') :
    Sound clean (recallHead s') := by
  unfold AsyncTcp.recallHead
  dsimp only
  split
  · rename_i hnil
    refine sound.congr ⟨same.stream, same.pending, ?_, same.socketPin,
      same.taken, same.callbacks, same.pendingBytes, fun _ => rfl⟩
      (by simp [senderAvailable])
    rw [sound.inflight, ← same.pending, hnil, headFlights]
  · rename_i head rest hcons
    have hpending := same.pending.symm.trans hcons
    have stream' := (stream_storeHead s' hcons
      { head with submitted := false } rfl).trans same.stream
    have stored : (s'.storeHead { head with submitted := false }).pending =
        { head with submitted := false } :: rest := by
      simp only [Sender.storeHead, hcons, List.tail_cons]
    refine HeadAnswered.sound (sound.headAnswered hpending _
      (sound.toConsistent.storeHead hpending _
        (fun hclean => stream' ▸ sound.intact hclean) stored rfl rfl rfl
        (by simp [senderAvailable]) same.socketPin same.taken same.callbacks
        same.nextSerial same.pendingBytes) stored rfl rfl rfl)
      (sound.unfinished head (by simp [hpending])).1

theorem recallHead_progresses (s : Sender) : Progresses s (recallHead s) := by
  unfold recallHead
  dsimp only
  split <;> exact ⟨rfl, List.prefix_rfl, fun _ => rfl⟩

theorem Sound.senderReap (spares : clean → kernel.SparesPartial)
    (available : Nat) (sound : Sound clean s) :
    Advances clean s (senderReap kernel available s) := by
  unfold AsyncTcp.senderReap
  split
  · rename_i fallback
    simp only [Bool.and_eq_true] at fallback
    exact (sound.progressSyscallFallback spares fallback.1).advances
  split
  · exact sound.stays
  rename_i ring
  have ready : s.ringReady = true := by simpa using ring
  split
  · have flushed := flushSubmit_same kernel s
    have moved := sound.moves flushed
      (by simp [senderAvailable, flushSubmit, ready])
    generalize flushSubmit kernel s = outcome at flushed moved ⊢
    obtain ⟨progress, s'⟩ := outcome
    cases progress with
    | submitRetry => exact moved
    | submitAccepted => exact moved.trans (moved.sound.reapLoop spares available)
    | submitFailed =>
        have retired := flushed.trans (retireRing_same s')
        exact (((sound.recallHead retired).progressSyscallFallback spares
          rfl).after (retired.progresses.trans
            (recallHead_progresses _))).advances
  · exact sound.reapLoop spares available

/-! ## Entry points -/

theorem Sound.bindSocket (sound : Sound clean s) (fd : Int) (cookie : Nat)
    (binds : Bool) :
    Advances clean s (bindSocket s fd cookie binds).1 := by
  unfold AsyncTcp.bindSocket
  split
  · exact sound.stays
  split
  · exact sound.stays
  split
  · exact sound.stays
  rename_i empty
  split
  · simp only [Bool.or_eq_true, Bool.not_eq_true', not_or,
      Bool.not_eq_false, List.isEmpty_iff, decide_eq_true_eq, ne_eq,
      Decidable.not_not] at empty
    refine ⟨⟨rfl, List.prefix_rfl, id⟩, Consistent.sound ⟨fun _ => ?_,
      sound.serials, sound.serialsOld, sound.conserved, sound.available,
      by simp, sound.balanced⟩ empty.2 (by simp [empty.1]),
      fun _ _ _ => empty.1⟩
    simp only [Sender.stream, empty.1, List.map_nil]
    exact FramedStream.intact_empty s.nextSerial
  · exact sound.stays

theorem bindSocket_bound {fd : Int} {cookie : Nat} {binds : Bool}
    (ok : (bindSocket s fd cookie binds).2 = true) :
    (bindSocket s fd cookie binds).1.socketPin.isSome = true := by
  unfold bindSocket at ok ⊢
  split_ifs at ok ⊢ with negative pinned busy binds
  · simp only [socketPinMatches, Bool.and_eq_true, beq_iff_eq] at pinned
    simp [pinned.2]
  · rfl

theorem stream_pendingAdd (s : Sender) (msg : Message)
    (hserial : msg.serial = s.nextSerial) (unsent : msg.bytesSent = 0) :
    (pendingAdd s msg).stream = s.stream.push msg.frame.bytes := by
  simp [pendingAdd, Sender.stream, FramedStream.push, Message.queuedFrame,
    hserial, unsent]

theorem Consistent.pendingAdd (consistent : Consistent clean s) (msg : Message)
    (hserial : msg.serial = s.nextSerial) (unsent : msg.bytesSent = 0)
    (bound : s.socketPin.isSome = true) :
    Consistent clean (pendingAdd s msg) where
  intact := by
    rw [stream_pendingAdd s msg hserial unsent]
    exact fun hclean => (consistent.intact hclean).push msg.frame.bytes
  serials := by
    simp only [AsyncTcp.pendingAdd, List.map_append, List.map_cons,
      List.map_nil]
    refine List.nodup_append.mpr ⟨consistent.serials, by simp, ?_⟩
    intro old inOld new inNew
    obtain ⟨other, member, rfl⟩ := List.mem_map.mp inOld
    rw [List.mem_singleton.mp inNew, hserial]
    exact Nat.ne_of_lt (consistent.serialsOld other member)
  serialsOld := by
    intro other member
    simp only [AsyncTcp.pendingAdd, List.mem_append, List.mem_singleton]
      at member ⊢
    rcases member with old | rfl
    · exact Nat.lt_succ_of_lt (consistent.serialsOld other old)
    · exact hserial ▸ Nat.lt_succ_self _
  conserved := by
    simp only [AsyncTcp.pendingAdd, pendingRecords, List.flatMap_append,
      List.flatMap_cons, List.flatMap_nil, List.append_nil, List.append_assoc]
    refine (List.Perm.append_left _ List.perm_append_comm).trans ?_
    rw [← List.append_assoc]
    exact consistent.conserved.append_right _
  available := consistent.available
  bound := fun _ => bound
  balanced := by
    simp [AsyncTcp.pendingAdd, pendingSize, consistent.balanced]

theorem Sound.pendingAdd (sound : Sound clean s) (msg : Message)
    (hserial : msg.serial = s.nextSerial) (unsent : msg.bytesSent = 0)
    (idle : msg.submitted = false) (descriptor : 0 ≤ msg.fd)
    (bound : s.socketPin.isSome = true) : Sound clean (pendingAdd s msg) where
  toConsistent := sound.toConsistent.pendingAdd msg hserial unsent bound
  unfinished := by
    intro other member
    simp only [AsyncTcp.pendingAdd, List.mem_append, List.mem_singleton]
      at member
    rcases member with old | rfl
    · exact sound.unfinished other old
    · have header := other.frame.hasHeader
      refine ⟨?_, descriptor⟩
      simp only [Message.totalSize, Frame.bytes, List.length_append, unsent,
        tcpHeaderWireSize] at header ⊢
      omega
  tailIdle := by
    intro other member
    cases hpending : s.pending with
    | nil => simp [AsyncTcp.pendingAdd, hpending] at member
    | cons head rest =>
        simp only [AsyncTcp.pendingAdd, hpending, List.cons_append,
          List.tail_cons, List.mem_append, List.mem_singleton] at member
        rcases member with old | rfl
        · exact (sound.waiting hpending other old).2.2
        · exact idle
  inflight := by
    have flights := sound.inflight
    cases hpending : s.pending with
    | nil =>
        simpa [AsyncTcp.pendingAdd, hpending, headFlights, idle] using flights
    | cons head rest =>
        simpa [AsyncTcp.pendingAdd, hpending, headFlights] using flights

variable {call : SendCall}

theorem Sound.enqueueMessage (sound : Sound clean s)
    (spares : clean → call.kernel.SparesPartial) (descriptor : 0 ≤ call.fd)
    (bound : s.socketPin.isSome = true) :
    (enqueueMessage s call).2 = true ∧
      Starts clean (AsyncTcp.pendingAdd s (newMessage s call))
        (enqueueMessage s call).1 := by
  have started := (sound.pendingAdd (newMessage s call) rfl rfl rfl descriptor
    bound).tryStartHead spares (some s.nextSerial)
  unfold AsyncTcp.enqueueMessage
  generalize AsyncTcp.tryStartHead call.kernel _ _ = outcome at started ⊢
  obtain ⟨s', ok, suppressed⟩ := outcome
  obtain ⟨hsuppressed, starts⟩ := started
  subst hsuppressed
  have counted : Advances clean s' { s' with queued := s'.queued + 1 } :=
    starts.sound.moves ⟨rfl, rfl, rfl, rfl, rfl, rfl, rfl, id⟩
      starts.sound.available
  cases ok <;>
    exact ⟨rfl, starts.toProgresses.trans counted.toProgresses, counted.sound,
      counted.attended starts.attended⟩

theorem Sound.refuse (sound : Sound clean s) :
    Advances clean s (refuse s).1 :=
  sound.moves ⟨rfl, rfl, rfl, rfl, rfl, rfl, rfl, id⟩ sound.available

theorem Sound.refuseOverflow (sound : Sound clean s) :
    Advances clean s (refuseOverflow s).1 :=
  sound.moves ⟨rfl, rfl, rfl, rfl, rfl, rfl, rfl, id⟩ sound.available

def readySender (s : Sender) (call : SendCall) : Sender :=
  (bindSocket (senderReap call.kernel call.available s) call.fd call.cookie
    call.binds).1

theorem Sound.readySender (sound : Sound clean s) {call : SendCall}
    (spares : clean → call.kernel.SparesPartial) :
    Advances clean s (readySender s call) :=
  have reaped := sound.senderReap spares call.available
  reaped.trans (reaped.sound.bindSocket call.fd call.cookie call.binds)

inductive SendOutcome (s : Sender) (call : SendCall) : Sender × Bool → Prop
  | unusable : SendOutcome s call (s, false)
  | refused : SendOutcome s call (refuse (readySender s call))
  | overflowed : SendOutcome s call (refuseOverflow (readySender s call))
  | enqueued (descriptor : 0 ≤ call.fd)
      (pinned : (readySender s call).socketPin.isSome = true)
      (capacity : hasCapacity (readySender s call) call = true) :
      SendOutcome s call (enqueueMessage (readySender s call) call)

/-- A send compares the size of its message with the capacity first. -/
def ChecksCapacity (attempt : Sender → SendCall → Sender × Bool) : Prop :=
  ∀ s call, (attempt s call = enqueueMessage s call ∧
      hasCapacity s call = true) ∨
    attempt s call = refuse s ∨ attempt s call = refuseOverflow s

theorem sendWith_outcome {attempt : Sender → SendCall → Sender × Bool}
    (checks : ChecksCapacity attempt) (s : Sender) (call : SendCall) :
    SendOutcome s call (sendWith attempt s call) := by
  have refusal := @SendOutcome.refused s call
  have overflow := @SendOutcome.overflowed s call
  have success := @SendOutcome.enqueued s call
  unfold sendWith
  split
  · exact .unusable
  rename_i usable
  have descriptor : 0 ≤ call.fd := by
    by_contra negative
    exact usable (by simp; omega)
  unfold readySender at refusal overflow success
  cases hbind : bindSocket (senderReap call.kernel call.available s) call.fd
      call.cookie call.binds with
  | mk ready ok =>
      have pinned := @bindSocket_bound (senderReap call.kernel call.available s)
        call.fd call.cookie call.binds
      rw [hbind] at refusal overflow success pinned
      cases ok with
      | false => exact refusal
      | true =>
          dsimp only
          rcases checks ready call with ⟨h, capacity⟩ | h | h <;> rw [h]
          · exact success descriptor (pinned rfl) capacity
          · exact refusal
          · exact overflow

theorem sendMessageEx_outcome (s : Sender) (call : SendCall) :
    SendOutcome s call (sendMessageEx s call) := by
  refine sendWith_outcome (fun ready call' => ?_) s call
  split_ifs with invalid full missing
  · exact Or.inr (Or.inl rfl)
  · exact Or.inr (Or.inr rfl)
  · exact Or.inr (Or.inl rfl)
  · exact Or.inl ⟨rfl, by simpa using full⟩

theorem sendOwnedMessageEx_outcome (s : Sender) (call : SendCall) :
    SendOutcome s call (sendOwnedMessageEx s call) := by
  refine sendWith_outcome (fun ready call' => ?_) s call
  split_ifs with invalid full
  · exact Or.inr (Or.inl rfl)
  · exact Or.inr (Or.inr rfl)
  · exact Or.inl ⟨rfl, by simpa using full⟩

theorem SendOutcome.sound {sent : Sender × Bool}
    (outcome : SendOutcome s call sent) (sound : Sound clean s)
    (spares : clean → call.kernel.SparesPartial) : Sound clean sent.1 := by
  have ready := (sound.readySender spares).sound
  cases outcome with
  | unusable => exact sound
  | refused => exact ready.refuse.sound
  | overflowed => exact ready.refuseOverflow.sound
  | enqueued descriptor pinned _ =>
      exact (ready.enqueueMessage spares descriptor pinned).2.sound

theorem Sound.sendMessageEx (sound : Sound clean s)
    (spares : clean → call.kernel.SparesPartial) :
    Sound clean (sendMessageEx s call).1 :=
  (sendMessageEx_outcome s call).sound sound spares

theorem sublist_failMessage (serials : (s.pending.map Message.serial).Nodup)
    (sublist : (msg :: rest).Sublist s.pending) :
    rest.Sublist (failMessage s msg).pending := by
  have distinct := serials.sublist (sublist.map Message.serial)
  rw [List.map_cons, List.nodup_cons] at distinct
  have kept : rest.filter (fun other => other.serial ≠ msg.serial) = rest := by
    refine List.filter_eq_self.mpr fun other inRest => ?_
    have differs : other.serial ≠ msg.serial := fun same =>
      distinct.1 (same ▸ List.mem_map_of_mem inRest)
    simpa using differs
  rw [← kept]
  exact ((List.sublist_cons_self msg rest).trans sublist).filter _

theorem Sound.dropLoop (messageType : Nat) {msgs : List Message}
    (sound : Sound clean s) (sublist : msgs.Sublist s.pending) :
    Advances clean s (dropLoop messageType msgs s).1 := by
  induction msgs generalizing s with
  | nil => exact sound.stays
  | cons msg rest ih =>
      simp only [AsyncTcp.dropLoop]
      split
      · rename_i replaceable
        have idle := replaceable.2
        simp only [messageIsReplaceable, Bool.and_eq_true, Bool.not_eq_true',
          beq_iff_eq] at idle
        have failed := sound.failMessage (sublist.subset List.mem_cons_self)
          idle.1 fun _ => idle.2
        exact failed.trans
          (ih failed.sound (sublist_failMessage sound.serials sublist))
      · exact ih sound ((List.sublist_cons_self msg rest).trans sublist)

theorem Sound.dropMessageType (spares : clean → kernel.SparesPartial)
    (sound : Sound clean s) (messageType : Nat) :
    Advances clean s (dropMessageType kernel s messageType).1 := by
  have dropped := sound.dropLoop messageType (List.Sublist.refl s.pending)
  simp only [AsyncTcp.dropMessageType]
  split
  · exact dropped.trans (dropped.sound.tryStartHead spares none).2.advances
  · exact dropped

def SenderEvent.SparesPartial : SenderEvent → Prop
  | .sendMessage call => call.kernel.SparesPartial
  | .sendOwnedMessage call => call.kernel.SparesPartial
  | .sendPreparedMessage call => call.kernel.SparesPartial
  | .reap kernel _ => kernel.SparesPartial
  | .dropMessageType kernel _ => kernel.SparesPartial
  | .setMaxPendingBytes _ => True

theorem sound_step {event : SenderEvent} (sound : Sound clean s)
    (spares : clean → event.SparesPartial) :
    Sound clean (SenderEvent.step s event) := by
  cases event with
  | sendMessage call => exact sound.sendMessageEx spares
  | sendOwnedMessage call =>
      exact (sendOwnedMessageEx_outcome s call).sound sound spares
  | sendPreparedMessage call => exact sound.sendMessageEx spares
  | reap kernel available => exact (sound.senderReap spares available).sound
  | dropMessageType kernel messageType =>
      exact (sound.dropMessageType spares messageType).sound
  | setMaxPendingBytes limit =>
      exact sound.congr ⟨rfl, rfl, rfl, rfl, rfl, rfl, rfl, id⟩ sound.available

theorem sound_senderCreate (limit : Nat) : Sound clean (senderCreate limit) :=
  Consistent.sound
    ⟨fun _ => FramedStream.intact_empty 0, by simp [senderCreate],
      by simp [senderCreate], List.Perm.refl _, rfl, by simp [senderCreate],
      rfl⟩
    rfl (by simp [senderCreate])

end WayDisplay.Server.AsyncTcp
