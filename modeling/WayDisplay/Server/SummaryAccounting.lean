import WayDisplay.Server.Summary

/-!
Accounting of outstanding summaries.

A summary is outstanding from the send that accepted it to its completion.  The
server counts it after the send has returned, so the count is right as long as
the completion does not run inside the send itself.  In the system-call fallback
it can: then the completion finds a record that is not marked yet, and the count
that follows is never taken back.
-/

namespace WayDisplay.Server.Summary

open WayDisplay.Common WayDisplay.Foundation WayDisplay.Server.AsyncTcp

/-- The summaries accepted by a send whose completion has not run yet. -/
def outstandingExcept (called : List Nat) (s : SummaryState) :
    List (Nat × Bool) :=
  s.accepted.filter fun summary => !called.contains summary.1

def calledBack (s : SummaryState) : List Nat :=
  s.controlTx.callbacks.map Callback.record

def outstanding (s : SummaryState) : List (Nat × Bool) :=
  outstandingExcept (calledBack s) s

def deltaBlocked (s : SummaryState) : Bool :=
  s.asyncPendingCount ≠ 0 && s.asyncPendingFull

/--
The count is the number of outstanding summaries, the flag stands for an
outstanding full summary, and a delta is blocked by an outstanding one only.
-/
structure AccountingExact (s : SummaryState) : Prop where
  count : s.asyncPendingCount = (outstanding s).length
  full : s.asyncPendingFull = true → ∃ summary ∈ outstanding s, summary.2 = true
  delta : deltaBlocked s = true → outstanding s ≠ []

/-! ## Completions -/

structure Balanced (called : List Nat) (s : SummaryState) : Prop where
  live : (s.records.map fun completion =>
    (completion.record, completion.fullSummary)) = outstandingExcept called s
  marked : ∀ completion ∈ s.records, completion.asyncPending = true
  single : s.records.length ≤ 1
  count : s.asyncPendingCount = s.records.length
  full : s.asyncPendingFull = true →
    ∃ completion ∈ s.records, completion.fullSummary = true

theorem outstandingExcept_snoc (called : List Nat) (record : Nat)
    (s : SummaryState) :
    outstandingExcept (called ++ [record]) s =
      (outstandingExcept called s).filter fun summary =>
        summary.1 ≠ record := by
  simp only [outstandingExcept, List.filter_filter]
  refine List.filter_congr fun summary _ => ?_
  by_cases same : summary.1 = record <;> simp [same]

structure SameLedger (s s' : SummaryState) : Prop where
  controlTx : s'.controlTx = s.controlTx
  accepted : s'.accepted = s.accepted
  nextRecord : s'.nextRecord = s.nextRecord

theorem SameLedger.trans {s s' s'' : SummaryState} (first : SameLedger s s')
    (second : SameLedger s' s'') : SameLedger s s'' :=
  ⟨second.controlTx.trans first.controlTx,
    second.accepted.trans first.accepted,
    second.nextRecord.trans first.nextRecord⟩

theorem SameLedger.outstandingExcept {s s' : SummaryState}
    (same : SameLedger s s') (called : List Nat) :
    outstandingExcept called s' = outstandingExcept called s := by
  simp only [Summary.outstandingExcept, same.accepted]

theorem summaryCompletion_found {s : SummaryState} {record : Nat}
    {completion : SummaryCompletion} (success : Bool)
    (found : s.records.find? (fun completion => completion.record == record) =
      some completion) :
    SameLedger s (summaryCompletion s record success) ∧
      (summaryCompletion s record success).records =
        s.records.filter (fun other => other.record ≠ record) ∧
      (summaryCompletion s record success).asyncPendingCount =
        (releasePending s completion).asyncPendingCount ∧
      (summaryCompletion s record success).asyncPendingFull =
        (releasePending s completion).asyncPendingFull := by
  have released : SameLedger s (releasePending s completion) ∧
      (releasePending s completion).records = s.records := by
    unfold releasePending
    split <;> exact ⟨⟨rfl, rfl, rfl⟩, rfl⟩
  simp only [summaryCompletion, found]
  generalize releasePending s completion = released' at released ⊢
  unfold settleInput clearReported refundBudget rebuildDirtyQueue
  split_ifs <;> exact ⟨⟨released.1.controlTx, released.1.accepted,
    released.1.nextRecord⟩, by simp only [released.2], rfl, rfl⟩

variable {s : SummaryState}

theorem summaryCompletion_unknown {record : Nat} (success : Bool)
    (unknown : ∀ completion ∈ s.records, completion.record ≠ record) :
    summaryCompletion s record success = s := by
  have absent : s.records.find? (fun completion =>
      completion.record == record) = none := by
    simpa using unknown
  simp only [summaryCompletion, absent]

theorem Balanced.summaryCompletion {called : List Nat}
    (balanced : Balanced called s) (record : Nat) (success : Bool) :
    Balanced (called ++ [record]) (summaryCompletion s record success) := by
  have ids : (s.records.map fun completion =>
      (completion.record, completion.fullSummary)) =
      Summary.outstandingExcept called s := balanced.live
  by_cases known : ∃ completion ∈ s.records, completion.record = record
  · obtain ⟨completion, member, hrecord⟩ := known
    -- the one live record is this one, so the balance goes to zero
    have only : s.records = [completion] := by
      have single := balanced.single
      match hrecords : s.records with
      | [] => simp [hrecords] at member
      | [other] =>
          rw [hrecords, List.mem_singleton] at member
          rw [member]
      | _ :: _ :: _ => simp [hrecords] at single
    have found : s.records.find? (fun completion =>
        completion.record == record) = some completion := by
      simp [only, hrecord]
    obtain ⟨same, records, count, full⟩ :=
      summaryCompletion_found success found
    have marked := balanced.marked completion member
    have counted : s.asyncPendingCount = 1 := by simp [balanced.count, only]
    have emptied : (Summary.summaryCompletion s record success).records =
        [] := by
      rw [records, only]
      simp [hrecord]
    refine ⟨?_, by simp [emptied], by simp [emptied], ?_, ?_⟩
    · rw [emptied, same.outstandingExcept, outstandingExcept_snoc, ← ids, only]
      simp [hrecord]
    · rw [count, emptied]
      simp [releasePending, marked, counted]
    · rw [full]
      simp [releasePending, marked, counted]
  · push Not at known
    rw [summaryCompletion_unknown success known]
    refine ⟨?_, balanced.marked, balanced.single, balanced.count,
      balanced.full⟩
    rw [outstandingExcept_snoc, ← ids]
    refine (List.filter_eq_self.mpr ?_).symm
    intro summary member
    obtain ⟨completion, inRecords, rfl⟩ := List.mem_map.mp member
    simpa using known completion inRecords

def complete (s : SummaryState) (callback : Callback) : SummaryState :=
  summaryCompletion s callback.record callback.success

theorem complete_sameLedger (s : SummaryState) (callback : Callback) :
    SameLedger s (complete s callback) := by
  cases found : s.records.find? (fun completion =>
      completion.record == callback.record) with
  | none => simpa only [complete, summaryCompletion, found] using ⟨rfl, rfl, rfl⟩
  | some completion => exact (summaryCompletion_found _ found).1

theorem foldl_complete_sameLedger (callbacks : List Callback)
    (s : SummaryState) : SameLedger s (callbacks.foldl complete s) := by
  induction callbacks generalizing s with
  | nil => exact ⟨rfl, rfl, rfl⟩
  | cons callback rest ih => exact (complete_sameLedger s callback).trans (ih _)

theorem Balanced.foldl_complete {called : List Nat}
    (balanced : Balanced called s) (callbacks : List Callback) :
    Balanced (called ++ callbacks.map Callback.record)
      (callbacks.foldl complete s) := by
  induction callbacks generalizing called s with
  | nil => simpa using balanced
  | cons callback rest ih =>
      have step := ih (balanced.summaryCompletion callback.record
        callback.success)
      rw [List.map_cons, List.append_cons]
      exact step

theorem foldl_complete_unknown {callbacks : List Callback} {s : SummaryState}
    (unknown : ∀ callback ∈ callbacks, ∀ completion ∈ s.records,
      completion.record ≠ callback.record) :
    callbacks.foldl complete s = s := by
  induction callbacks with
  | nil => rfl
  | cons callback rest ih =>
      have first := summaryCompletion_unknown callback.success
        (unknown callback List.mem_cons_self)
      rw [List.foldl_cons, complete, first]
      exact ih fun other inRest => unknown other (List.mem_cons_of_mem _ inRest)

variable {sender : Sender}

theorem withSender_eq (s : SummaryState)
    (appended : s.controlTx.callbacks <+: sender.callbacks) :
    ∃ delivered, sender.callbacks = s.controlTx.callbacks ++ delivered ∧
      withSender s sender =
        delivered.foldl complete { s with controlTx := sender } := by
  obtain ⟨delivered, hcallbacks⟩ := appended
  refine ⟨delivered, hcallbacks.symm, ?_⟩
  simp only [withSender, ← hcallbacks, List.drop_left]
  rfl

theorem withSender_unknown {s : SummaryState} {sender : Sender}
    (appended : s.controlTx.callbacks <+: sender.callbacks)
    (unknown : ∀ callback ∈ sender.callbacks, ∀ completion ∈ s.records,
      completion.record ≠ callback.record) :
    withSender s sender = { s with controlTx := sender } := by
  obtain ⟨delivered, hcallbacks, heq⟩ := withSender_eq s appended
  rw [heq]
  refine foldl_complete_unknown fun callback member => ?_
  exact unknown callback (hcallbacks ▸ List.mem_append_right _ member)

/-! ## The invariant -/

structure Recorded (s : SummaryState) : Prop where
  balanced : Balanced (calledBack s) s
  accepted : ∀ summary ∈ s.accepted,
    (summary.1, messageTileGenerationSummary) ∈ s.controlTx.taken
  distinct : (s.controlTx.taken.map Prod.fst).Nodup
  fresh : ∀ record ∈ s.controlTx.taken, record.1 < s.nextRecord

structure Accounted (s : SummaryState) : Prop extends Recorded s where
  sound : Sound False s.controlTx

theorem Accounted.exact (accounted : Accounted s) :
    AccountingExact s := by
  have live := accounted.balanced.live
  refine ⟨?_, ?_, ?_⟩
  · rw [accounted.balanced.count, outstanding, ← live, List.length_map]
  · intro full
    obtain ⟨completion, member, isFull⟩ := accounted.balanced.full full
    refine ⟨(completion.record, completion.fullSummary), ?_, isFull⟩
    rw [outstanding, ← live]
    exact List.mem_map_of_mem member
  · intro blocked none
    have empty : s.records = [] := by
      rw [outstanding, ← live] at none
      exact List.map_eq_nil_iff.mp none
    simp [deltaBlocked, accounted.balanced.count, empty] at blocked

theorem Recorded.withSender (recorded : Recorded s)
    (progressed : Progresses s.controlTx sender) :
    Recorded (withSender s sender) ∧
      (withSender s sender).controlTx = sender := by
  obtain ⟨delivered, hcallbacks, heq⟩ := withSender_eq s progressed.callbacks
  have same := foldl_complete_sameLedger delivered
    { s with controlTx := sender }
  have before : Balanced (calledBack s) { s with controlTx := sender } :=
    ⟨recorded.balanced.live, recorded.balanced.marked,
      recorded.balanced.single, recorded.balanced.count,
      recorded.balanced.full⟩
  have balanced := before.foldl_complete delivered
  rw [← heq] at same balanced
  refine ⟨⟨?_, ?_, ?_, ?_⟩, same.controlTx⟩
  · have called : calledBack (Summary.withSender s sender) =
        calledBack s ++ delivered.map Callback.record := by
      simp only [calledBack, same.controlTx, hcallbacks, List.map_append]
    rw [called]
    exact balanced
  · rw [same.accepted, same.controlTx, progressed.taken]
    exact recorded.accepted
  · rw [same.controlTx, progressed.taken]
    exact recorded.distinct
  · rw [same.controlTx, progressed.taken, same.nextRecord]
    exact recorded.fresh

theorem Accounted.withSender (accounted : Accounted s)
    (sound : Sound False sender) (progressed : Progresses s.controlTx sender) :
    Accounted (withSender s sender) := by
  obtain ⟨recorded, controlTx⟩ := accounted.toRecorded.withSender progressed
  refine ⟨recorded, ?_⟩
  rw [controlTx]
  exact sound

theorem Accounted.rotateSender (accounted : Accounted s) (kernel : Kernel)
    (drains : List Nat) (limit : Nat) :
    Accounted (rotateSender s kernel drains limit) := by
  have progressed := senderDestroy_progresses kernel drains accounted.sound
  obtain ⟨recorded, controlTx⟩ := accounted.toRecorded.withSender progressed
  have called := senderDestroy_called kernel drains accounted.sound
  rw [← progressed.taken, ← controlTx] at called
  have balanced := recorded.balanced
  exact ⟨⟨⟨balanced.live, balanced.marked, balanced.single, balanced.count,
    balanced.full⟩, recorded.accepted, recorded.distinct, recorded.fresh⟩,
    sound_replaceSender limit called⟩

theorem Accounted.congr {s s' : SummaryState} (accounted : Accounted s)
    (same : SameLedger s s') (records : s'.records = s.records)
    (count : s'.asyncPendingCount = s.asyncPendingCount)
    (full : s'.asyncPendingFull = s.asyncPendingFull) : Accounted s' := by
  have called : calledBack s' = calledBack s := by
    simp only [calledBack, same.controlTx]
  refine ⟨⟨?_, ?_, same.controlTx ▸ accounted.distinct, ?_⟩,
    same.controlTx ▸ accounted.sound⟩
  · rw [called]
    refine ⟨?_, records ▸ accounted.balanced.marked,
      records ▸ accounted.balanced.single, ?_, ?_⟩
    · rw [records, same.outstandingExcept]
      exact accounted.balanced.live
    · rw [count, records]
      exact accounted.balanced.count
    · rw [full, records]
      exact accounted.balanced.full
  · rw [same.accepted, same.controlTx]
    exact accounted.accepted
  · rw [same.controlTx, same.nextRecord]
    exact accounted.fresh

/-! ## Sends -/

theorem Accounted.hasMessageType (accounted : Accounted s)
    (live : s.records ≠ []) :
    hasMessageType s.controlTx messageTileGenerationSummary = true := by
  obtain ⟨completion, rest, hrecords⟩ := List.exists_cons_of_ne_nil live
  have member : (completion.record, completion.fullSummary) ∈ outstanding s := by
    rw [outstanding, ← accounted.balanced.live, hrecords]
    exact List.mem_cons_self
  obtain ⟨accepted, notCalled⟩ := List.mem_filter.mp member
  have taken := accounted.sound.conserved.mem_iff.mpr
    (accounted.accepted _ accepted)
  rcases List.mem_append.mp taken with pending | called
  · obtain ⟨msg, inPending, hrecord⟩ := List.mem_flatMap.mp pending
    obtain ⟨record, -, hpair⟩ := List.mem_map.mp hrecord
    have isSummary : msg.frame.messageType = messageTileGenerationSummary :=
      congrArg Prod.snd hpair
    exact List.any_eq_true.mpr ⟨msg, inPending, by simp [isSummary]⟩
  · obtain ⟨callback, inCallbacks, hpair⟩ := List.mem_map.mp called
    have isCalled : completion.record ∈ calledBack s :=
      List.mem_map.mpr ⟨callback, inCallbacks, congrArg Prod.fst hpair⟩
    simp [isCalled] at notCalled

theorem Accounted.coalesceSummaries (accounted : Accounted s)
    (fullSummary : Bool) (kernel : Kernel) :
    Accounted (coalesceSummaries s fullSummary kernel).1 ∧
      ((coalesceSummaries s fullSummary kernel).2 = true →
        (coalesceSummaries s fullSummary kernel).1.records = []) := by
  unfold Summary.coalesceSummaries
  split
  · rename_i zero
    refine ⟨accounted, fun _ => ?_⟩
    rw [accounted.balanced.count] at zero
    exact List.length_eq_zero_iff.mp zero
  split
  · exact ⟨accounted, nofun⟩
  · have drops : Advances False s.controlTx (AsyncTcp.dropMessageType kernel
        s.controlTx messageTileGenerationSummary).1 :=
      accounted.sound.dropMessageType False.elim _
    have dropped := accounted.withSender drops.sound drops.toProgresses
    refine ⟨dropped, fun none => ?_⟩
    by_contra live
    simp [dropped.hasMessageType live] at none

theorem Accounted.uncalled (accounted : Accounted s)
    (sound : Sound False sender) (taken : sender.taken = s.controlTx.taken) :
    ∀ callback ∈ sender.callbacks, callback.record < s.nextRecord := by
  intro callback member
  have called : (callback.record, callback.messageType) ∈
      calledRecords sender.callbacks :=
    List.mem_map.mpr ⟨callback, member, rfl⟩
  have inTaken := sound.conserved.mem_iff.mp (List.mem_append_right _ called)
  rw [taken] at inTaken
  exact accounted.fresh _ inTaken

theorem holds_uncalled (sound : Sound False sender)
    (distinct : (sender.taken.map Prod.fst).Nodup) {record messageType : Nat}
    (holds : Holds sender (record, messageType)) :
    ∀ callback ∈ sender.callbacks, callback.record ≠ record := by
  intro callback member same
  have split := (sound.conserved.map Prod.fst).nodup_iff.mpr distinct
  rw [List.map_append] at split
  refine (List.nodup_append.mp split).2.2 record
    (List.mem_map.mpr ⟨_, holds, rfl⟩) record ?_ rfl
  exact List.mem_map.mpr ⟨_, List.mem_map_of_mem member, same⟩

theorem outstandingExcept_of_subset {before after : List Nat}
    (subset : before ⊆ after) (none : outstandingExcept before s = []) :
    outstandingExcept after s = [] := by
  simp only [outstandingExcept, List.filter_eq_nil_iff, Bool.not_eq_true',
    Bool.not_eq_false, List.contains_iff_mem] at none ⊢
  exact fun summary member => subset (none summary member)

theorem Accounted.outstanding_nil (accounted : Accounted s)
    (none : s.records = [])
    (appended : s.controlTx.callbacks <+: sender.callbacks) :
    outstandingExcept (sender.callbacks.map Callback.record) s = [] := by
  refine outstandingExcept_of_subset (appended.map _).subset ?_
  have live := accounted.balanced.live
  rw [none] at live
  exact live.symm

theorem Accounted.flag_clear (accounted : Accounted s) (none : s.records = []) :
    s.asyncPendingCount = 0 ∧ s.asyncPendingFull = false := by
  refine ⟨by simp [accounted.balanced.count, none], ?_⟩
  by_contra set
  obtain ⟨_, member, _⟩ := accounted.balanced.full (by simpa using set)
  simp [none] at member

theorem Accounted.refused (accounted : Accounted s) (none : s.records = [])
    (sound : Sound False sender) (progressed : Progresses s.controlTx sender)
    {completion : SummaryCompletion}
    (hrecord : completion.record = s.nextRecord)
    (unmarked : completion.asyncPending = false) :
    Accounted (summaryCompletion
      (Summary.withSender (allocateRecord s completion) sender)
      completion.record false) := by
  have records : (allocateRecord s completion).records = [completion] := by
    simp [allocateRecord, none]
  have uncalled := accounted.uncalled sound progressed.taken
  rw [withSender_unknown (s := allocateRecord s completion)
    progressed.callbacks]
  swap
  · intro callback member other inRecords
    rw [records, List.mem_singleton] at inRecords
    rw [inRecords, hrecord]
    exact Nat.ne_of_gt (uncalled callback member)
  obtain ⟨clear, unset⟩ := accounted.flag_clear none
  have found : { allocateRecord s completion with
      controlTx := sender }.records.find? (fun other =>
        other.record == completion.record) = some completion := by
    simp [records]
  obtain ⟨same, freed, count, full⟩ := summaryCompletion_found false found
  generalize summaryCompletion { allocateRecord s completion with
    controlTx := sender } completion.record false = s' at same freed count full ⊢
  have emptied : s'.records = [] := by
    rw [freed, records]
    simp
  have ledger : s'.accepted = s.accepted := same.accepted
  have nextRecord : s'.nextRecord = s.nextRecord + 1 := same.nextRecord
  have controlTx : s'.controlTx = sender := same.controlTx
  refine ⟨⟨⟨?_, ?_, ?_, ?_, ?_⟩, ?_, ?_, ?_⟩, controlTx ▸ sound⟩
  · have gone := accounted.outstanding_nil none progressed.callbacks
    simp only [outstandingExcept] at gone
    simp only [emptied, List.map_nil, calledBack, controlTx, outstandingExcept,
      ledger, gone]
  · simp [emptied]
  · simp [emptied]
  · rw [count, emptied]
    simp [releasePending, unmarked, allocateRecord, clear]
  · rw [full]
    simp [releasePending, unmarked, allocateRecord, unset]
  · rw [ledger, controlTx, progressed.taken]
    exact accounted.accepted
  · rw [controlTx, progressed.taken]
    exact accounted.distinct
  · rw [controlTx, progressed.taken, nextRecord]
    exact fun record member => Nat.lt_succ_of_lt (accounted.fresh record member)

theorem Accounted.countPending {s : SummaryState} (accounted : Accounted s)
    (none : s.records = []) {sender : Sender} (sound : Sound False sender)
    (appended : s.controlTx.callbacks <+: sender.callbacks)
    (taken : sender.taken =
      s.controlTx.taken ++ [(s.nextRecord, messageTileGenerationSummary)])
    (holds : Holds sender (s.nextRecord, messageTileGenerationSummary))
    {completion : SummaryCompletion}
    (hrecord : completion.record = s.nextRecord) :
    Accounted (countPending
      (Summary.withSender (allocateRecord s completion) sender)
      completion.record completion.fullSummary) := by
  have records : (allocateRecord s completion).records = [completion] := by
    simp [allocateRecord, none]
  have distinct : (sender.taken.map Prod.fst).Nodup := by
    rw [taken, List.map_append]
    refine accounted.distinct.append (List.nodup_singleton _) ?_
    intro record old new
    obtain ⟨pair, member, rfl⟩ := List.mem_map.mp old
    have older := accounted.fresh pair member
    simp at new
    omega
  have uncalled := holds_uncalled sound distinct holds
  rw [withSender_unknown (s := allocateRecord s completion) appended]
  swap
  · intro callback member other inRecords
    rw [records, List.mem_singleton] at inRecords
    rw [inRecords, hrecord]
    exact (uncalled callback member).symm
  obtain ⟨clear, -⟩ := accounted.flag_clear none
  have notCalled : s.nextRecord ∉ sender.callbacks.map Callback.record := by
    intro member
    obtain ⟨callback, inCallbacks, same⟩ := List.mem_map.mp member
    exact uncalled callback inCallbacks same
  have gone := accounted.outstanding_nil none appended
  refine ⟨⟨⟨?_, ?_, ?_, ?_, ?_⟩, ?_, distinct, ?_⟩, sound⟩
  · have kept : outstandingExcept (sender.callbacks.map Callback.record)
        { s with accepted :=
          s.accepted ++ [(s.nextRecord, completion.fullSummary)] } =
        [(s.nextRecord, completion.fullSummary)] := by
      simp only [outstandingExcept, List.filter_append] at gone ⊢
      rw [gone, List.nil_append, List.filter_cons_of_pos (by simpa using
        notCalled), List.filter_nil]
    simp only [Summary.countPending, calledBack, outstandingExcept,
      allocateRecord, hrecord] at kept ⊢
    rw [kept, none]
    simp [hrecord]
  · simp [Summary.countPending, records]
  · simp [Summary.countPending, records]
  · simp [Summary.countPending, allocateRecord, none, clear]
  · simp [Summary.countPending, accounted.flag_clear none, allocateRecord, none]
  · intro summary member
    simp only [Summary.countPending, allocateRecord, List.mem_append,
      List.mem_singleton] at member
    simp only [Summary.countPending, taken, List.mem_append, List.mem_singleton]
    rcases member with old | new
    · exact Or.inl (accounted.accepted summary old)
    · exact Or.inr (by simp [new, hrecord])
  · intro record member
    simp only [Summary.countPending, allocateRecord, taken, List.mem_append,
      List.mem_singleton] at member ⊢
    rcases member with old | new
    · exact Nat.lt_succ_of_lt (accounted.fresh record old)
    · simp [new]

theorem Accounted.submitSummary (accounted : Accounted s)
    (none : s.records = []) (fullSummary : Bool) {call : SummaryCall}
    (holdsBack : call.kernel.HoldsBack messageTileGenerationSummary)
    (entries : List GenerationEntry) {frame : Frame}
    (isSummary : frame.messageType = messageTileGenerationSummary) :
    Accounted (submitSummary s fullSummary call entries frame).1 := by
  have spares : False → (sendCall s call frame).kernel.SparesPartial :=
    False.elim
  have sound := accounted.sound.sendMessageEx spares
  have cases := sendMessageEx_cases accounted.sound (sendCall s call frame)
  simp only [Summary.submitSummary]
  rcases cases with ⟨notOk, progressed⟩ |
    ⟨ready, progressed, pinned, descriptor, heq⟩
  · generalize sendMessageEx s.controlTx (sendCall s call frame) = outcome
      at sound notOk progressed ⊢
    obtain ⟨sender, ok⟩ := outcome
    subst notOk
    exact accounted.refused none sound progressed rfl rfl
  · obtain ⟨enqueued, starts⟩ :=
      progressed.sound.enqueueMessage spares descriptor pinned
    have taken := starts.taken
    have appended := starts.callbacks
    have holds : Holds (enqueueMessage ready (sendCall s call frame)).1
        (s.nextRecord, frame.messageType) :=
      enqueueMessage_holds progressed.sound descriptor pinned
        (isSummary ▸ holdsBack)
        rfl
    rw [isSummary] at holds
    rw [heq] at sound ⊢
    generalize enqueueMessage ready (sendCall s call frame) = outcome
      at sound enqueued taken appended holds ⊢
    obtain ⟨sender, ok⟩ := outcome
    subst enqueued
    refine accounted.countPending none sound
      (progressed.callbacks.trans appended) ?_ holds rfl
    rw [taken, pendingAdd, progressed.taken]
    simp [newMessage, Message.records, sendCall, isSummary]

theorem Accounted.buildSummary (accounted : Accounted s) (none : s.records = [])
    (fullSummary : Bool) {call : SummaryCall}
    (holdsBack : call.kernel.HoldsBack messageTileGenerationSummary) :
    Accounted (buildSummary s fullSummary call).1 := by
  simp only [Summary.buildSummary]
  split_ifs
  · exact accounted
  · exact accounted
  · exact accounted.congr ⟨rfl, rfl, rfl⟩ rfl rfl rfl
  · exact accounted
  · exact accounted.congr ⟨rfl, rfl, rfl⟩ rfl rfl rfl
  · exact accounted.submitSummary none fullSummary holdsBack _ rfl
  · exact accounted

theorem Accounted.sendGenerationSummaryKind (accounted : Accounted s)
    (fullSummary : Bool) {call : SummaryCall}
    (holdsBack : call.kernel.HoldsBack messageTileGenerationSummary) :
    Accounted (sendGenerationSummaryKind s fullSummary call).1 := by
  have coalesced := accounted.coalesceSummaries fullSummary call.kernel
  unfold Summary.sendGenerationSummaryKind
  split
  · exact accounted
  split
  · exact accounted
  generalize Summary.coalesceSummaries s fullSummary call.kernel = outcome
    at coalesced ⊢
  obtain ⟨s', ok⟩ := outcome
  cases ok with
  | false => exact coalesced.1
  | true => exact coalesced.1.buildSummary (coalesced.2 rfl) fullSummary holdsBack

/-! ## Runs -/

/-- No system call settles an unsent summary inside the summary's own send. -/
def SummaryEvent.HoldsBack : SummaryEvent → Prop
  | .sendGenerationSummary call =>
      call.kernel.HoldsBack messageTileGenerationSummary
  | .sendPendingGenerationSummary call =>
      call.kernel.HoldsBack messageTileGenerationSummary
  | _ => True

theorem accounted_step {event : SummaryEvent} (accounted : Accounted s)
    (holdsBack : event.HoldsBack) :
    Accounted (SummaryEvent.step s event) := by
  cases event with
  | sendGenerationSummary call =>
      simp only [SummaryEvent.step, sendGenerationSummary]
      split
      · exact accounted
      · exact accounted.sendGenerationSummaryKind true holdsBack
  | sendPendingGenerationSummary call =>
      simp only [SummaryEvent.step, sendPendingGenerationSummary]
      split
      · exact accounted
      · exact accounted.sendGenerationSummaryKind false holdsBack
  | sendOther call =>
      exact accounted.withSender (accounted.sound.sendMessageEx False.elim)
        (sendMessageEx_progresses accounted.sound rfl)
  | reap kernel available =>
      have reaps : Advances False s.controlTx
          (senderReap kernel available s.controlTx) :=
        accounted.sound.senderReap False.elim available
      exact accounted.withSender reaps.sound reaps.toProgresses
  | dropMessageType kernel messageType =>
      have drops : Advances False s.controlTx
          (dropMessageType kernel s.controlTx messageType).1 :=
        accounted.sound.dropMessageType False.elim messageType
      exact accounted.withSender drops.sound drops.toProgresses
  | rotateSender kernel drains limit =>
      exact accounted.rotateSender kernel drains limit
  | updateSession session => exact accounted.congr ⟨rfl, rfl, rfl⟩ rfl rfl rfl
  | markSummaryDirty tile =>
      simp only [SummaryEvent.step, markSummaryDirty]
      split_ifs
      · exact accounted
      · exact accounted
      · exact accounted
      · exact accounted.congr ⟨rfl, rfl, rfl⟩ rfl rfl rfl
  | resetSummaryDirty => exact accounted.congr ⟨rfl, rfl, rfl⟩ rfl rfl rfl
  | noteInput sequence injectNs =>
      exact accounted.congr ⟨rfl, rfl, rfl⟩ rfl rfl rfl
  | forgetInput => exact accounted.congr ⟨rfl, rfl, rfl⟩ rfl rfl rfl

theorem accounted_initial (session : Session) (limit : Nat) :
    Accounted (initial session limit) :=
  ⟨⟨⟨rfl, by simp [initial], by simp [initial], rfl, by simp [initial]⟩,
    by simp [initial], by simp [initial, senderCreate],
    by simp [initial, senderCreate]⟩, sound_senderCreate limit⟩

/-! ### One summary after another -/

def oneTileSession : Session where
  clientConnected := true
  tcpFd := 5
  cookie := 7
  configUpdatePending := false
  videoOwnsDisplay := false
  sessionId := 1
  connectionToken := 9
  epoch := ⟨1, 1, 1, 1⟩
  summaryEpoch := 1
  totalTiles := 1
  generation := fun _ => 1
  summaryInputSequence := 0
  lastInputSequence := 0
  lastInputInjectNs := 0

def summaryCallWith (kernel : Kernel) : SummaryCall where
  nowNs := 1000
  payloadAllocated := true
  budgetGranted := true
  recordAllocated := true
  wireSizeValid := true
  messageAllocated := true
  binds := true
  available := 0
  kernel := kernel

/-- The ring sends whole frames; a system call would have to wait. -/
def ringKernel : Kernel where
  sqeAvailable := fun _ => true
  submit := fun _ => 1
  completion := fun _ request => (request.total - request.sent : Nat)
  send := fun _ _ => -eagain

/-- The ring has no entry left; a system call sends whole frames at once. -/
def syscallKernel : Kernel where
  sqeAvailable := fun _ => false
  submit := fun _ => 1
  completion := fun _ _ => -eagain
  send := fun _ request => (request.total - request.sent : Nat)

def ringRun : List SummaryEvent :=
  [.sendGenerationSummary (summaryCallWith ringKernel), .reap ringKernel 1,
    .sendGenerationSummary (summaryCallWith ringKernel)]

/--
The first summary retires the ring and is completed by the next reap.  The
second is sent by the fallback, and completed, inside its own send.
-/
def fallbackRun : List SummaryEvent :=
  [.sendGenerationSummary (summaryCallWith syscallKernel),
    .reap syscallKernel 0,
    .sendGenerationSummary (summaryCallWith syscallKernel)]

/--
In every run in which no system call settles an unsent summary inside its own
send, the accounting of outstanding summaries is exact.
-/
theorem accountingExact_of_holdsBack (session : Session) (limit : Nat)
    (events : List SummaryEvent)
    (holdsBack : Along SummaryEvent.step (fun _ event => event.HoldsBack)
      (initial session limit) events) :
    AccountingExact
      (runFrom SummaryEvent.step (initial session limit) events) :=
  have accounted : Accounted
      (runFrom SummaryEvent.step (initial session limit) events) :=
    invariant_runFrom (fun _ _ accounted permitted =>
      accounted_step accounted permitted) (accounted_initial session limit)
      holdsBack
  accounted.exact

theorem ringRun_accountingExact :
    AccountingExact
        (runFrom SummaryEvent.step (initial oneTileSession 0) ringRun) ∧
      (runFrom SummaryEvent.step (initial oneTileSession 0)
        ringRun).asyncPendingCount = 1 := by
  have waits : ringKernel.HoldsBack messageTileGenerationSummary := by
    intro calls request _ _ nonempty
    simp [advance, ringKernel, Nat.ne_of_lt nonempty]
  refine ⟨accountingExact_of_holdsBack oneTileSession 0 ringRun ?_, by decide⟩
  exact ⟨waits, trivial, waits, trivial⟩

theorem fallbackRun_breaks_accounting :
    ¬ AccountingExact
      (runFrom SummaryEvent.step (initial oneTileSession 0) fallbackRun) := by
  intro accounts
  exact absurd accounts.count (by decide)

end WayDisplay.Server.Summary
