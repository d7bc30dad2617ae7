import WayDisplay.Foundation.Flags
import WayDisplay.Server.SummaryAccounting

/-!
What a clear summary flag means.

A tile that is sent is flagged until a summary with its generation has been
delivered.  The completion of a summary may come after the tile was sent again;
it compares the generations and leaves the flag of such a tile alone.  Flags are
dropped without a report only where the whole summary state is reset.
-/

namespace WayDisplay.Server.Summary

open WayDisplay.Common WayDisplay.Foundation WayDisplay.Server.AsyncTcp

structure Report where
  record : Nat
  summaryEpoch : Nat
  entries : List GenerationEntry
  deriving DecidableEq, Repr

def SummaryCompletion.report (completion : SummaryCompletion) : Report where
  record := completion.record
  summaryEpoch := completion.summaryEpoch
  entries := completion.entries

/--
The state with its history: which tiles were sent since the last reset of the
flags or of the summary epoch, and which summaries were ever handed out.
-/
structure Reporting where
  state : SummaryState
  sent : Nat → Bool
  issued : List Report

/-! ## Sending tiles -/

def nextGenerationForResult (session : Session) (tiles : List Nat) : Nat :=
  nextGeneration session.totalTiles session.generation tiles

def Session.withGeneration (session : Session) (tile generation : Nat) :
    Session :=
  { session with
    generation := fun other =>
      if other = tile then generation else session.generation other }

def SummaryState.withSession (s : SummaryState) (session : Session) :
    SummaryState :=
  { s with session := session }

def commitTile (generation : Nat) (s : SummaryState) (tile : Nat) :
    SummaryState :=
  if s.session.totalTiles ≤ tile then s
  else
    markSummaryDirty
      (s.withSession (s.session.withGeneration tile generation)) tile

def commitTiles (s : SummaryState) (tiles : List Nat) : SummaryState :=
  tiles.foldl (commitTile (nextGenerationForResult s.session tiles)) s

/-! ## The system -/

/--
Tiles are sent and summaries pass through the control sender.  A session starts
with a new summary epoch and a reset of the flags, a resize with a new summary
epoch and, when the encoders are idle, new tiles.
-/
inductive ReportingEvent where
  | sendTiles (tiles : List Nat)
  | summary (event : SummaryEvent)
  | startSummaryEpoch
  | replaceTiles (totalTiles : Nat) (generation : Nat → Nat)

/-- Session changes leave tiles and the summary epoch to the other events. -/
def keepTiles (s : SummaryState) : SummaryEvent → SummaryEvent
  | .updateSession session =>
      .updateSession
        { session with
          summaryEpoch := s.session.summaryEpoch
          totalTiles := s.session.totalTiles
          generation := s.session.generation }
  | event => event

def issuedKind (s : SummaryState) (fullSummary : Bool) (call : SummaryCall) :
    List Report :=
  let ready := (coalesceSummaries s fullSummary call.kernel).1
  if (sendGenerationSummaryKind s fullSummary call).1.nextRecord =
      s.nextRecord then []
  else
    [⟨s.nextRecord, ready.session.summaryEpoch,
      summaryEntries ready fullSummary⟩]

def issuedBy (s : SummaryState) : SummaryEvent → List Report
  | .sendGenerationSummary call =>
      if s.session.videoOwnsDisplay then [] else issuedKind s true call
  | .sendPendingGenerationSummary call =>
      if s.session.videoOwnsDisplay then [] else issuedKind s false call
  | _ => []

def sentAfter (sent : Nat → Bool) : SummaryEvent → Nat → Bool
  | .resetSummaryDirty => fun _ => false
  | _ => sent

def startSummaryEpoch (s : SummaryState) : SummaryState :=
  s.withSession
    { s.session with summaryEpoch := s.session.summaryEpoch + 1 }

def replaceTiles (s : SummaryState) (totalTiles : Nat)
    (generation : Nat → Nat) : SummaryState :=
  { s with
    session :=
      { s.session with totalTiles := totalTiles, generation := generation }
    dirtyTiles := fun _ => false
    dirtyQueue := [] }

def Reporting.step (r : Reporting) : ReportingEvent → Reporting
  | .sendTiles tiles =>
      { r with
        state := commitTiles r.state tiles
        sent := fun tile => tiles.contains tile || r.sent tile }
  | .summary event =>
      { state := SummaryEvent.step r.state (keepTiles r.state event)
        sent := sentAfter r.sent event
        issued := r.issued ++ issuedBy r.state event }
  | .startSummaryEpoch =>
      { r with state := startSummaryEpoch r.state, sent := fun _ => false }
  | .replaceTiles totalTiles generation =>
      { r with
        state := replaceTiles r.state totalTiles generation
        sent := fun _ => false }

def Reporting.initial (session : Session) (limit : Nat) : Reporting where
  state := Summary.initial session limit
  sent := fun _ => false
  issued := []

def Told (issued : List Report) (callbacks : List Callback)
    (summaryEpoch : Nat) (entry : GenerationEntry) : Prop :=
  ∃ report ∈ issued, report.summaryEpoch = summaryEpoch ∧
    entry ∈ report.entries ∧
    ∃ callback ∈ callbacks, callback.record = report.record ∧
      callback.success = true

theorem Told.mono {issued issued' : List Report}
    {callbacks callbacks' : List Callback} {summaryEpoch : Nat}
    {entry : GenerationEntry} (told : Told issued callbacks summaryEpoch entry)
    (reports : issued ⊆ issued') (more : callbacks ⊆ callbacks') :
    Told issued' callbacks' summaryEpoch entry := by
  obtain ⟨report, listed, epoch, named, callback, called, delivered⟩ := told
  exact ⟨report, reports listed, epoch, named, callback, more called, delivered⟩

/-! ## The sender under the summaries -/

variable {s : SummaryState}

theorem withSender_controlTx {sender : Sender}
    (appended : s.controlTx.callbacks <+: sender.callbacks) :
    (withSender s sender).controlTx = sender := by
  obtain ⟨delivered, -, complete⟩ := withSender_eq s appended
  rw [complete]
  exact (foldl_complete_sameLedger delivered _).controlTx

theorem sendKind_cases (s : SummaryState) (fullSummary : Bool)
    (call : SummaryCall) :
    (sendGenerationSummaryKind s fullSummary call).1 = s ∨
      (sendGenerationSummaryKind s fullSummary call).1 =
        (coalesceSummaries s fullSummary call.kernel).1 ∨
      sendGenerationSummaryKind s fullSummary call =
        buildSummary (coalesceSummaries s fullSummary call.kernel).1 fullSummary
          call := by
  unfold sendGenerationSummaryKind
  split_ifs
  · exact .inl rfl
  · exact .inl rfl
  · generalize coalesceSummaries s fullSummary call.kernel = outcome
    obtain ⟨ready, go⟩ := outcome
    cases go with
    | false => exact .inr (.inl rfl)
    | true => exact .inr (.inr rfl)

/-! ## The invariant -/

structure Reported (issued : List Report) (sent : Nat → Bool)
    (s : SummaryState) : Prop where
  numbered : issued.map Report.record = List.range s.nextRecord
  queued : s.dirtyQueue.Nodup
  flagged : ∀ tile ∈ s.dirtyQueue,
    tile < s.session.totalTiles ∧ s.dirtyTiles tile = true
  live : ∀ completion ∈ s.records, completion.report ∈ issued
  clear : ∀ tile < s.session.totalTiles, s.dirtyTiles tile = false →
    sent tile = true → Told issued s.controlTx.callbacks
      s.session.summaryEpoch ⟨tile, s.session.generation tile⟩

theorem reported_initial (session : Session) (limit : Nat) :
    Reported [] (fun _ => false) (initial session limit) where
  numbered := rfl
  queued := List.nodup_nil
  flagged _ member := absurd member List.not_mem_nil
  live _ member := absurd member List.not_mem_nil
  clear _ _ _ sent := absurd sent (by decide)

namespace Reported

variable {issued : List Report} {sent : Nat → Bool}

theorem room (reported : Reported issued sent s) {tile : Nat}
    (inside : tile < s.session.totalTiles)
    (unflagged : s.dirtyTiles tile = false) :
    s.dirtyQueue.length < s.session.totalTiles := by
  refine length_lt_of_absent reported.queued
    (fun other member => (reported.flagged other member).1) inside ?_
  intro member
  have set := (reported.flagged tile member).2
  rw [unflagged] at set
  contradiction

theorem nextRecord_eq (reported : Reported issued sent s) :
    s.nextRecord = issued.length := by
  have same := congrArg List.length reported.numbered
  rw [List.length_map, List.length_range] at same
  exact same.symm

theorem congr {s' : SummaryState} (reported : Reported issued sent s)
    (session : s'.session.totalTiles = s.session.totalTiles ∧
      s'.session.generation = s.session.generation ∧
      s'.session.summaryEpoch = s.session.summaryEpoch)
    (flags : s'.dirtyTiles = s.dirtyTiles)
    (queue : s'.dirtyQueue = s.dirtyQueue) (records : s'.records = s.records)
    (controlTx : s'.controlTx = s.controlTx)
    (nextRecord : s'.nextRecord = s.nextRecord) : Reported issued sent s' := by
  obtain ⟨total, generation, epoch⟩ := session
  refine ⟨nextRecord ▸ reported.numbered, queue ▸ reported.queued, ?_,
    records ▸ reported.live, ?_⟩
  · rw [queue, total, flags]
    exact reported.flagged
  · rw [total, flags, controlTx, epoch, generation]
    exact reported.clear

/-! ### Tiles -/

theorem markSummaryDirty_eq (reported : Reported issued sent s) {tile : Nat}
    (inside : tile < s.session.totalTiles)
    (unflagged : s.dirtyTiles tile = false) :
    markSummaryDirty s tile =
      { s with
        dirtyTiles := fun other => other == tile || s.dirtyTiles other
        dirtyQueue := s.dirtyQueue ++ [tile] } := by
  have place := reported.room inside unflagged
  rw [Summary.markSummaryDirty, if_neg (by omega), unflagged,
    if_neg Bool.false_ne_true, if_neg (by omega)]

theorem markSummaryDirty_flagged (reported : Reported issued sent s)
    {tile : Nat} (inside : tile < s.session.totalTiles) :
    (markSummaryDirty s tile).dirtyTiles tile = true := by
  cases flag : s.dirtyTiles tile with
  | true => rw [Summary.markSummaryDirty, if_neg (by omega), flag, if_pos rfl, flag]
  | false =>
      rw [reported.markSummaryDirty_eq inside flag]
      simp

theorem markSummaryDirty (reported : Reported issued sent s) (tile : Nat) :
    Reported issued sent (markSummaryDirty s tile) := by
  by_cases outside : s.session.totalTiles ≤ tile
  · rw [Summary.markSummaryDirty, if_pos outside]
    exact reported
  have inside : tile < s.session.totalTiles := Nat.lt_of_not_le outside
  cases flag : s.dirtyTiles tile with
  | true =>
      rw [Summary.markSummaryDirty, if_neg outside, flag, if_pos rfl]
      exact reported
  | false =>
      rw [reported.markSummaryDirty_eq inside flag]
      refine ⟨reported.numbered, ?_, ?_, reported.live, ?_⟩
      · refine List.nodup_append.mpr ⟨reported.queued, List.nodup_singleton _, ?_⟩
        rintro other member last same rfl
        rw [List.mem_singleton] at same
        have flagged := (reported.flagged other member).2
        rw [same, flag] at flagged
        contradiction
      · intro other member
        rcases List.mem_append.mp member with old | new
        · obtain ⟨within, flagged⟩ := reported.flagged other old
          exact ⟨within, by simp [flagged]⟩
        · rw [List.mem_singleton.mp new]
          exact ⟨inside, by simp⟩
      · intro other within unflagged was
        rw [Bool.or_eq_false_iff] at unflagged
        exact reported.clear other within unflagged.2 was

theorem withGeneration (reported : Reported issued sent s)
    (tile generation : Nat) :
    Reported issued (fun other => other != tile && sent other)
      (s.withSession (s.session.withGeneration tile generation)) := by
  refine { reported with clear := ?_ }
  intro other inside unflagged was
  rw [Bool.and_eq_true, bne_iff_ne] at was
  have told := reported.clear other inside unflagged was.2
  change Told _ _ _ ⟨other, if other = tile then generation else _⟩
  rw [if_neg was.1]
  exact told

theorem commitTile (reported : Reported issued sent s) (generation tile : Nat) :
    Reported issued (fun other => other == tile || sent other)
      (Summary.commitTile generation s tile) := by
  unfold Summary.commitTile
  split_ifs with outside
  · refine { reported with clear := ?_ }
    intro other inside unflagged was
    have apart : other ≠ tile := by omega
    rw [beq_eq_false_iff_ne.mpr apart, Bool.false_or] at was
    exact reported.clear other inside unflagged was
  · have inside : tile < s.session.totalTiles := Nat.lt_of_not_le outside
    have changed := reported.withGeneration tile generation
    have marked := changed.markSummaryDirty tile
    have flagged := changed.markSummaryDirty_flagged inside
    refine { marked with clear := ?_ }
    intro other within unflagged was
    have apart : other ≠ tile := by
      rintro rfl
      exact Bool.false_ne_true (unflagged.symm.trans flagged)
    rw [beq_eq_false_iff_ne.mpr apart, Bool.false_or] at was
    exact marked.clear other within unflagged
      (by rw [bne_iff_ne.mpr apart, was]; rfl)

theorem commitTiles (reported : Reported issued sent s) (tiles : List Nat) :
    Reported issued (fun tile => tiles.contains tile || sent tile)
      (Summary.commitTiles s tiles) := by
  unfold Summary.commitTiles
  generalize nextGenerationForResult s.session tiles = generation
  induction tiles generalizing s sent with
  | nil => exact reported
  | cons first rest ih =>
      have after := ih (reported.commitTile generation first)
      have same : (fun tile => rest.contains tile || (tile == first ||
          sent tile)) = fun tile => (first :: rest).contains tile ||
            sent tile := by
        funext tile
        rw [List.contains_cons, ← Bool.or_assoc,
          Bool.or_comm (rest.contains tile)]
      rw [same] at after
      exact after

/-! ### Completions -/

theorem clearReported {completion : SummaryCompletion}
    (reported : Reported issued sent s)
    (known : completion.report ∈ issued) (success : Bool)
    (called : success = true → ∃ callback ∈ s.controlTx.callbacks,
      callback.record = completion.record ∧ callback.success = true) :
    Reported issued sent (clearReported s completion success) := by
  unfold Summary.clearReported
  split_ifs with matching
  · obtain ⟨-, delivered, epoch⟩ := matching
    refine ⟨reported.numbered, List.nodup_range.filter _, ?_, reported.live, ?_⟩
    · intro tile member
      obtain ⟨inside, flagged⟩ := List.mem_filter.mp member
      exact ⟨List.mem_range.mp inside, flagged⟩
    · intro tile inside unflagged was
      by_cases before : s.dirtyTiles tile = true
      · -- The flag went because an entry names the tile's generation.
        have named : completion.entries.any (fun entry =>
            entry.tileId == tile && tile < s.session.totalTiles &&
              s.session.generation tile == entry.tileGeneration) = true := by
          simpa [rebuildDirtyQueue, before] using unflagged
        obtain ⟨entry, listed, exactly⟩ := List.any_eq_true.mp named
        simp only [Bool.and_eq_true, beq_iff_eq, decide_eq_true_eq] at exactly
        have entryEq : (⟨tile, s.session.generation tile⟩ : GenerationEntry) =
            entry := by
          rw [exactly.2, ← exactly.1.1]
        obtain ⟨callback, inCallbacks, record, done⟩ := called delivered
        exact ⟨completion.report, known, epoch.symm, entryEq ▸ listed, callback,
          inCallbacks, record, done⟩
      · rw [Bool.not_eq_true] at before
        exact reported.clear tile inside before was
  · exact reported

theorem releasePending (reported : Reported issued sent s)
    (completion : SummaryCompletion) :
    Reported issued sent (releasePending s completion) := by
  unfold Summary.releasePending
  split_ifs <;> exact reported.congr ⟨rfl, rfl, rfl⟩ rfl rfl rfl rfl rfl

theorem refundBudget (reported : Reported issued sent s)
    (completion : SummaryCompletion) (success : Bool) :
    Reported issued sent (refundBudget s completion success) := by
  unfold Summary.refundBudget
  split_ifs <;> exact reported.congr ⟨rfl, rfl, rfl⟩ rfl rfl rfl rfl rfl

theorem settleInput (reported : Reported issued sent s)
    (completion : SummaryCompletion) (success : Bool) :
    Reported issued sent (settleInput s completion success) := by
  unfold Summary.settleInput
  split_ifs <;> exact reported.congr ⟨rfl, rfl, rfl⟩ rfl rfl rfl rfl rfl

theorem freeRecords {records : List SummaryCompletion}
    (reported : Reported issued sent s) (fewer : records ⊆ s.records) :
    Reported issued sent { s with records := records } :=
  { reported with
    live := fun completion member => reported.live completion (fewer member) }

theorem summaryCompletion (reported : Reported issued sent s) {record : Nat}
    {success : Bool}
    (called : success = true → ∃ callback ∈ s.controlTx.callbacks,
      callback.record = record ∧ callback.success = true) :
    Reported issued sent (summaryCompletion s record success) := by
  unfold Summary.summaryCompletion
  cases found : s.records.find? fun completion =>
      completion.record == record with
  | none => exact reported
  | some completion =>
      have known := reported.live completion (List.mem_of_find?_eq_some found)
      have own : completion.record = record := by
        simpa using List.find?_some found
      have same : (Summary.refundBudget (Summary.releasePending s completion)
          completion success).controlTx = s.controlTx := by
        unfold Summary.refundBudget Summary.releasePending
        split_ifs <;> rfl
      have refunded :=
        (reported.releasePending completion).refundBudget completion success
      have cleared := refunded.clearReported known success
        (by rw [same, own]; exact called)
      exact (cleared.settleInput completion success).freeRecords
        fun other member => (List.mem_filter.mp member).1

theorem foldl_complete (reported : Reported issued sent s)
    {callbacks : List Callback}
    (called : ∀ callback ∈ callbacks, callback ∈ s.controlTx.callbacks) :
    Reported issued sent (callbacks.foldl complete s) := by
  induction callbacks generalizing s with
  | nil => exact reported
  | cons callback rest ih =>
      have first : Reported issued sent (complete s callback) :=
        reported.summaryCompletion fun success =>
          ⟨callback, called callback List.mem_cons_self, rfl, success⟩
      refine ih first fun other member => ?_
      rw [(complete_sameLedger s callback).controlTx]
      exact called other (List.mem_cons_of_mem _ member)

theorem withSender (reported : Reported issued sent s) {sender : Sender}
    (appended : s.controlTx.callbacks <+: sender.callbacks) :
    Reported issued sent (withSender s sender) := by
  obtain ⟨delivered, split, complete⟩ := withSender_eq s appended
  rw [complete]
  refine foldl_complete ?_ ?_
  · refine { reported with clear := ?_ }
    intro tile inside unflagged was
    exact (reported.clear tile inside unflagged was).mono
      (List.Subset.refl _) appended.subset
  · intro callback member
    change callback ∈ sender.callbacks
    rw [split]
    exact List.mem_append_right _ member

theorem allocateRecord (reported : Reported issued sent s)
    {completion : SummaryCompletion}
    (fresh : completion.record = s.nextRecord) :
    Reported (issued ++ [completion.report]) sent
      (allocateRecord s completion) where
  numbered := by
    rw [List.map_append, reported.numbered]
    exact (congrArg (_ ++ [·]) fresh).trans List.range_succ.symm
  queued := reported.queued
  flagged := reported.flagged
  live := by
    intro other member
    rcases List.mem_append.mp member with old | new
    · exact List.mem_append_left _ (reported.live other old)
    · rw [List.mem_singleton.mp new]
      exact List.mem_append_right _ (List.mem_singleton.mpr rfl)
  clear := fun tile inside unflagged was =>
    (reported.clear tile inside unflagged was).mono
      (List.subset_append_left _ _) (List.Subset.refl _)

theorem countPending (reported : Reported issued sent s) (record : Nat)
    (fullSummary : Bool) :
    Reported issued sent (countPending s record fullSummary) := by
  refine { reported with live := ?_ }
  intro completion member
  obtain ⟨before, listed, same⟩ := List.mem_map.mp member
  have report : completion.report = before.report := by
    rw [← same]
    split_ifs <;> rfl
  rw [report]
  exact reported.live before listed

end Reported

/-! ## Events -/

structure Good (issued : List Report) (sent : Nat → Bool) (s : SummaryState) :
    Prop extends Reported issued sent s where
  sound : Sound False s.controlTx

namespace Good

variable {issued : List Report} {sent : Nat → Bool}

theorem withSender (good : Good issued sent s) {sender : Sender}
    (sound : Sound False sender)
    (appended : s.controlTx.callbacks <+: sender.callbacks) :
    Good issued sent (withSender s sender) :=
  ⟨good.toReported.withSender appended, by
    rw [withSender_controlTx appended]
    exact sound⟩

theorem advances (good : Good issued sent s) {sender : Sender}
    (advances : Advances False s.controlTx sender) :
    Good issued sent (Summary.withSender s sender) :=
  good.withSender advances.sound advances.callbacks

theorem rotateSender (good : Good issued sent s) (kernel : Kernel)
    (drains : List Nat) (limit : Nat) :
    Good issued sent (rotateSender s kernel drains limit) := by
  have progressed := senderDestroy_progresses kernel drains good.sound
  have torn := good.toReported.withSender progressed.callbacks
  have all := senderDestroy_called kernel drains good.sound
  rw [← progressed.taken, ← withSender_controlTx progressed.callbacks] at all
  exact ⟨{ torn with clear := torn.clear }, sound_replaceSender limit all⟩

theorem coalesceSummaries (good : Good issued sent s) (fullSummary : Bool)
    (kernel : Kernel) :
    Good issued sent (coalesceSummaries s fullSummary kernel).1 := by
  unfold Summary.coalesceSummaries
  split_ifs
  · exact good
  · exact good
  · exact good.advances (good.sound.dropMessageType False.elim _)

theorem submitSummary (good : Good issued sent s) (fullSummary : Bool)
    (call : SummaryCall) (entries : List GenerationEntry) (frame : Frame) :
    Good (issued ++ [⟨s.nextRecord, s.session.summaryEpoch, entries⟩]) sent
      (submitSummary s fullSummary call entries frame).1 := by
  have appended := sendMessageEx_callbacks good.sound (sendCall s call frame)
  have after : Sound False (sendMessageEx s.controlTx
      (sendCall s call frame)).1 := good.sound.sendMessageEx False.elim
  have allocated : Good _ sent (allocateRecord s (newCompletion s fullSummary
      call.nowNs entries frame.bytes.length)) :=
    ⟨good.allocateRecord rfl, good.sound⟩
  unfold Summary.submitSummary
  dsimp only
  generalize sendMessageEx s.controlTx (sendCall s call frame) = outcome
    at appended after ⊢
  obtain ⟨sender, ok⟩ := outcome
  have kept := allocated.withSender after appended
  cases ok with
  | true => exact ⟨kept.countPending _ _, kept.sound⟩
  | false =>
      have freed := complete_sameLedger (Summary.withSender (allocateRecord s
        (newCompletion s fullSummary call.nowNs entries frame.bytes.length))
          sender) ⟨s.nextRecord, 0, false⟩
      exact ⟨kept.summaryCompletion (absurd · Bool.false_ne_true),
        freed.controlTx.symm ▸ kept.sound⟩

theorem buildSummary (good : Good issued sent s) (fullSummary : Bool)
    (call : SummaryCall) :
    Good issued sent (buildSummary s fullSummary call).1 ∨
      Good (issued ++ [⟨s.nextRecord, s.session.summaryEpoch,
        summaryEntries s fullSummary⟩]) sent
        (buildSummary s fullSummary call).1 := by
  unfold Summary.buildSummary
  dsimp only
  split_ifs
  · exact .inl good
  · exact .inl good
  · exact .inl { good with
      queued := List.nodup_nil
      flagged := fun _ member => absurd member List.not_mem_nil }
  · exact .inl good
  · exact .inl { good with clear := good.clear }
  · exact .inr (good.submitSummary fullSummary call _ _)
  · exact .inl good

theorem sendKind (good : Good issued sent s) (fullSummary : Bool)
    (call : SummaryCall) :
    Good (issued ++ issuedKind s fullSummary call) sent
      (sendGenerationSummaryKind s fullSummary call).1 := by
  have ready := good.coalesceSummaries fullSummary call.kernel
  -- whether a record was taken shows in their number
  have unissued (kept : Good issued sent
      (sendGenerationSummaryKind s fullSummary call).1) :
      Good (issued ++ issuedKind s fullSummary call) sent
        (sendGenerationSummaryKind s fullSummary call).1 := by
    rw [issuedKind, if_pos (kept.nextRecord_eq.trans good.nextRecord_eq.symm),
      List.append_nil]
    exact kept
  rcases sendKind_cases s fullSummary call with same | refused | built
  · exact unissued (same.symm ▸ good)
  · exact unissued (refused.symm ▸ ready)
  · rcases ready.buildSummary fullSummary call with kept | kept <;>
      rw [← built] at kept
    · exact unissued kept
    · have moved : (sendGenerationSummaryKind s fullSummary
          call).1.nextRecord ≠ s.nextRecord := by
        rw [kept.nextRecord_eq, good.nextRecord_eq, List.length_append]
        exact Nat.succ_ne_self _
      rw [ready.nextRecord_eq, ← good.nextRecord_eq] at kept
      rw [issuedKind, if_neg moved]
      exact kept

theorem summaryEvent (good : Good issued sent s) (event : SummaryEvent) :
    Good (issued ++ issuedBy s event) (sentAfter sent event)
      (SummaryEvent.step s (keepTiles s event)) := by
  have quiet {sent : Nat → Bool} {s' : SummaryState}
      (kept : Good issued sent s') : Good (issued ++ []) sent s' := by
    rw [List.append_nil]
    exact kept
  cases event with
  | sendGenerationSummary call =>
      change Good (issued ++ if s.session.videoOwnsDisplay then [] else
        issuedKind s true call) sent (sendGenerationSummary s call).1
      rw [sendGenerationSummary]
      split_ifs
      · exact quiet good
      · exact good.sendKind true call
  | sendPendingGenerationSummary call =>
      change Good (issued ++ if s.session.videoOwnsDisplay then [] else
        issuedKind s false call) sent (sendPendingGenerationSummary s call).1
      rw [sendPendingGenerationSummary]
      split_ifs
      · exact quiet good
      · exact good.sendKind false call
  | sendOther call =>
      exact quiet (good.withSender (good.sound.sendMessageEx False.elim)
        (sendMessageEx_progresses good.sound rfl).callbacks)
  | reap kernel available =>
      exact quiet (good.advances (good.sound.senderReap False.elim available))
  | dropMessageType kernel messageType =>
      exact quiet (good.advances
        (good.sound.dropMessageType False.elim messageType))
  | rotateSender kernel drains limit =>
      exact quiet (good.rotateSender kernel drains limit)
  | updateSession session => exact quiet { good with clear := good.clear }
  | markSummaryDirty tile =>
      refine quiet ⟨good.markSummaryDirty tile, ?_⟩
      simp only [keepTiles, SummaryEvent.step, Summary.markSummaryDirty]
      split_ifs <;> exact good.sound
  | resetSummaryDirty =>
      exact quiet { good with
        queued := List.nodup_nil
        flagged := fun _ member => absurd member List.not_mem_nil
        clear := fun _ _ _ sent => absurd sent Bool.false_ne_true }
  | noteInput sequence injectNs => exact quiet { good with clear := good.clear }
  | forgetInput => exact quiet { good with clear := good.clear }

end Good

theorem commitTiles_controlTx (s : SummaryState) (tiles : List Nat) :
    (commitTiles s tiles).controlTx = s.controlTx := by
  unfold commitTiles
  generalize nextGenerationForResult s.session tiles = generation
  induction tiles generalizing s with
  | nil => rfl
  | cons tile rest ih =>
      have first : (commitTile generation s tile).controlTx = s.controlTx := by
        unfold commitTile markSummaryDirty
        split_ifs <;> rfl
      exact (ih _).trans first

theorem Reporting.good_step (r : Reporting) (event : ReportingEvent)
    (good : Good r.issued r.sent r.state) :
    Good (r.step event).issued (r.step event).sent (r.step event).state := by
  cases event with
  | sendTiles tiles =>
      exact ⟨good.commitTiles tiles,
        (commitTiles_controlTx r.state tiles).symm ▸ good.sound⟩
  | summary event => exact good.summaryEvent event
  | startSummaryEpoch =>
      exact { good with
        clear := fun _ _ _ sent => absurd sent Bool.false_ne_true }
  | replaceTiles totalTiles generation =>
      exact { good with
        queued := List.nodup_nil
        flagged := fun _ member => absurd member List.not_mem_nil
        clear := fun _ _ _ sent => absurd sent Bool.false_ne_true }

theorem Reporting.good_run (session : Session) (limit : Nat)
    (events : List ReportingEvent) :
    let r := runFrom Reporting.step (.initial session limit) events
    Good r.issued r.sent r.state := by
  have start : Good [] (fun _ => false) (Summary.initial session limit) :=
    ⟨reported_initial session limit, sound_senderCreate limit⟩
  exact invariant_runFrom_of_step Reporting.good_step start events

/--
However tile sends, summaries and their completions interleave, a tile without
a flag has not been sent since the last reset, or its generation was in a
delivered summary of the epoch.
-/
theorem clear_flag_told (session : Session) (limit : Nat)
    (events : List ReportingEvent) :
    let r := runFrom Reporting.step (.initial session limit) events
    (r.issued.map Report.record).Nodup ∧
      ∀ tile < r.state.session.totalTiles, r.state.dirtyTiles tile = false →
        r.sent tile = false ∨
          Told r.issued r.state.controlTx.callbacks
            r.state.session.summaryEpoch
            ⟨tile, r.state.session.generation tile⟩ := by
  intro r
  have good : Good r.issued r.sent r.state :=
    Reporting.good_run session limit events
  refine ⟨good.numbered ▸ List.nodup_range, fun tile inside unflagged => ?_⟩
  cases was : r.sent tile with
  | false => exact .inl rfl
  | true => exact .inr (good.clear tile inside unflagged was)

/-- A summary that is delivered before the next send clears the flag; one that is
overtaken does not. -/
example :
    let sends := [.sendTiles [0],
      .summary (.sendGenerationSummary (summaryCallWith ringKernel))]
    let delivery := .summary (.reap ringKernel 1)
    (runFrom Reporting.step (.initial oneTileSession 4096)
        (sends ++ [delivery])).state.dirtyTiles 0 = false ∧
      (runFrom Reporting.step (.initial oneTileSession 4096)
        (sends ++ [.sendTiles [0], delivery])).state.dirtyTiles 0 = true := by
  decide +kernel

end WayDisplay.Server.Summary
