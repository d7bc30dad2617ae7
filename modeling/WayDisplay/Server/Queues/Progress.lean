import WayDisplay.Server.Queues.Repairs

/-!
When a send pass ends.

Each batch either stops the sending or clears the flag of a tile, as long as the
first result of every job covers a tile the job was given and no send fails hard.
Without that the pass goes on for ever: a job that achieved nothing goes back to
the queue it came from, and nothing counts how often.
-/

namespace WayDisplay.Server

open Common Foundation Relation

/-! ## Settled work -/

/-- The tile has not become dirty or asked for, and has not been damaged. -/
structure TileState.Eases (tile after : TileState) : Prop where
  epoch : after.dirtyEpoch = tile.dirtyEpoch
  dirty : after.dirtyQueued = true → tile.dirtyQueued = true
  queued : after.retransmitQueued = true → tile.retransmitQueued = true
  newer : tile.generation ≤ after.generation
  asked : after.retransmitRequestedGeneration ≤
    tile.retransmitRequestedGeneration

namespace TileState

theorem Eases.refl (tile : TileState) : tile.Eases tile :=
  ⟨rfl, id, id, Nat.le_refl _, Nat.le_refl _⟩

theorem Eases.trans {tile between after : TileState}
    (first : tile.Eases between) (second : between.Eases after) :
    tile.Eases after where
  epoch := second.epoch.trans first.epoch
  dirty := fun set => first.dirty (second.dirty set)
  queued := fun set => first.queued (second.queued set)
  newer := Nat.le_trans first.newer second.newer
  asked := Nat.le_trans second.asked first.asked

theorem Settles.eases {tile after : TileState} (settles : tile.Settles after) :
    tile.Eases after :=
  ⟨settles.epoch, settles.dirty ▸ id, settles.queued, settles.newer,
    settles.asked⟩

theorem eases_clean (tile : TileState) : tile.Eases tile.clean :=
  ⟨rfl, (absurd · Bool.false_ne_true), id, Nat.le_refl _, Nat.le_refl _⟩

end TileState

namespace TileQueues

structure Settled (q q' : TileQueues) : Prop where
  geometry : q'.geometry = q.geometry
  tiles : ∀ tileId, (q.tiles tileId).Eases (q'.tiles tileId)

variable {q q' : TileQueues} {tileId now : Nat}

namespace Settled

theorem refl (q : TileQueues) : Settled q q := ⟨rfl, fun _ => .refl _⟩

theorem of_tiles (geometry : q'.geometry = q.geometry)
    (tiles : q'.tiles = q.tiles) : Settled q q' :=
  ⟨geometry, fun _ => by rw [tiles]; exact .refl _⟩

theorem trans {between : TileQueues} (first : Settled q between)
    (second : Settled between q') : Settled q q' :=
  ⟨second.geometry.trans first.geometry,
    fun tileId => (first.tiles tileId).trans (second.tiles tileId)⟩

theorem updateTile {update : TileState → TileState}
    (eases : (q.tiles tileId).Eases (update (q.tiles tileId))) :
    Settled q (q.updateTile tileId update) := by
  refine ⟨rfl, fun other => ?_⟩
  rw [updateTile_tiles]
  split_ifs with same
  · rw [same]
    exact eases
  · exact .refl _

theorem act (act : QuietAct q q') : Settled q q' := by
  cases act with
  | settle settles => exact updateTile settles.eases
  | clear tileId =>
      unfold dirtyQueueNoteCleared
      split_ifs
      · exact refl q
      · exact (updateTile (TileState.eases_clean _)).trans (of_tiles rfl rfl)
  | forget clean => exact of_tiles rfl rfl
  | requeue now region =>
      unfold requeueDirtyTopRegion
      split_ifs
      · exact refl q
      · split
        · exact refl q
        · refine of_tiles ?_ (markDirtyTopRegion_tiles q _ now)
          unfold markDirtyTopRegion
          split <;> rfl

theorem acts (acts : QuietActs q q') : Settled q q' := by
  induction acts with
  | refl => exact refl q
  | tail _ act ih => exact ih.trans (Settled.act act)

end Settled

/-! ## Jobs that settle work -/

def flags (q : TileQueues) : EncodeSource → Nat → Bool
  | .fresh => q.dirtyFlags
  | .retransmit => q.repairFlags

theorem Settled.flags (settled : Settled q q') {source : EncodeSource}
    (set : q'.flags source tileId = true) : q.flags source tileId = true := by
  cases source with
  | fresh => exact (settled.tiles tileId).dirty set
  | retransmit => exact (settled.tiles tileId).queued set

theorem selects_flags {source : EncodeSource}
    (selected : q.selects source tileId = true) :
    q.flags source tileId = true := by
  cases source with
  | fresh => exact selected
  | retransmit =>
      simp only [selects, TileState.retransmitSelected, Bool.and_eq_true]
        at selected
      exact selected.1.1

theorem commit_clears (source : EncodeSource) (generation : Nat)
    {dirtyEpochs : Nat → Nat} (inside : tileId < q.geometry.totalTiles)
    (epoch : (q.tiles tileId).dirtyEpoch = dirtyEpochs tileId) :
    (q.commitTile source generation dirtyEpochs tileId).flags source tileId =
      false := by
  cases source with
  | fresh =>
      rw [flags, dirtyFlags, commitTile_tiles, if_pos ⟨rfl, inside⟩,
        TileState.commit, TileState.answerRequest, if_neg (by decide),
        TileState.settleDirty]
      exact congrArg TileState.dirtyQueued (if_pos epoch)
  | retransmit =>
      rw [flags, repairFlags, commitTile_tiles, if_pos ⟨rfl, inside⟩,
        TileState.commit, TileState.answerRequest, if_pos rfl,
        TileState.settleDirty]
      unfold TileState.clearRetransmitRequest
      split_ifs with queued
      · rfl
      · rfl
      · exact Bool.eq_false_iff.mpr ‹_›
      · exact Bool.eq_false_iff.mpr ‹_›

theorem commits_clear (source : EncodeSource) {generation : Nat}
    {dirtyEpochs : Nat → Nat} {ids : List Nat}
    (newer : ∀ id ∈ ids, (q.tiles id).generation ≤ generation)
    (member : tileId ∈ ids) (inside : tileId < q.geometry.totalTiles)
    (epoch : (q.tiles tileId).dirtyEpoch = dirtyEpochs tileId) :
    (ids.foldl (commitTile source generation dirtyEpochs) q).flags source
      tileId = false := by
  induction ids generalizing q with
  | nil => contradiction
  | cons first rest ih =>
      have step : Settled q (commitTile source generation dirtyEpochs q first) :=
        .acts (commitTile_quiet source dirtyEpochs
          (newer first List.mem_cons_self))
      have later (id : Nat) (member : id ∈ rest) :
          ((commitTile source generation dirtyEpochs q first).tiles
            id).generation ≤ generation := by
        rw [commitTile_tiles]
        split_ifs
        · exact Nat.le_of_eq (commit_generation _ _ _ _)
        · exact newer id (List.mem_cons_of_mem _ member)
      rcases List.mem_cons.mp member with rfl | member
      · have cleared := commit_clears source generation inside epoch
        have others : Settled _ _ :=
          .acts (commitTiles_quiet source dirtyEpochs later)
        by_contra set
        rw [Bool.not_eq_false] at set
        rw [others.flags set] at cleared
        contradiction
      · refine ih later member ?_ ?_
        · rw [step.geometry]
          exact inside
        · exact ((step.tiles tileId).epoch).trans epoch

end TileQueues

def TileSendAttempt.failsHard : TileSendAttempt → Bool
  | .unsent => false
  | .oversized => true
  | .packets count status =>
      packetsQueued status count != count &&
        status (packetsQueued status count) != .saturated

/-- No send fails hard, and no earlier delivery turns out to have failed. -/
def QueueResult.Harmless : QueueResult → Prop
  | .invalid _ => True
  | .encoded encodedTile =>
      encodedTile.attempt.failsHard = false ∧
        encodedTile.failedDeliveries = []

namespace TileQueues

variable {q : TileQueues} {batch : QueueBatch} {tileId now region : Nat}
  {framebufferGeneration : Nat} {ids : List Nat}

theorem sendResult_of_harmless {encodedTile : QueueEncodedTile}
    (harmless : (QueueResult.encoded encodedTile).Harmless) :
    (q.sendResult now batch region ids encodedTile).2 = .stopSending ∨
      q.sendResult now batch region ids encodedTile =
        (ids.foldl (commitTile batch.source (q.nextGenerationForResult ids)
          batch.dirtyEpochs) q, .nextResult) := by
  obtain ⟨soft, quiet⟩ := harmless
  unfold sendResult
  rw [quiet, List.foldl_nil]
  dsimp only
  cases attempt : encodedTile.attempt with
  | unsent => exact .inl rfl
  | oversized =>
      rw [attempt] at soft
      contradiction
  | packets count status =>
      rw [attempt] at soft
      by_cases whole : packetsQueued status count = count
      · right
        simp only [sendTilePayload, if_pos whole]
      · left
        have saturated : status (packetsQueued status count) = .saturated := by
          simpa [TileSendAttempt.failsHard, whole] using soft
        simp only [sendTilePayload, if_neg whole, if_pos saturated]

theorem processResult_of_harmless {result : QueueResult}
    (harmless : result.Harmless) :
    (q.processResult now framebufferGeneration batch region result).2 =
        .stopSending ∨
      QuietActs q (q.processResult now framebufferGeneration batch region
        result).1 := by
  have back := giveBack_quiet batch.source now q region
  unfold processResult
  split
  · exact .inr back
  · next encodedTile =>
    split
    · exact .inr back
    · next ids collected =>
      split_ifs
      · exact .inr back
      · exact .inl rfl
      · refine (sendResult_of_harmless harmless).imp_right fun sent => ?_
        rw [sent]
        exact commitTiles_quiet batch.source batch.dirtyEpochs
          fun tileId member => q.generation_le_next collected member

theorem processResults_of_harmless {results : List QueueResult}
    (harmless : ∀ result ∈ results, result.Harmless) :
    (processResults now framebufferGeneration batch region q results).2 =
        true ∨
      QuietActs q (processResults now framebufferGeneration batch region q
        results).1 := by
  induction results generalizing q with
  | nil => exact .inr .refl
  | cons result rest ih =>
      have first : (q.processResult now framebufferGeneration batch region
          result).2 = .stopSending ∨ QuietActs q (q.processResult now
            framebufferGeneration batch region result).1 :=
        processResult_of_harmless (harmless result List.mem_cons_self)
      unfold processResults
      split
      · next processed =>
        rw [processed] at first
        have settled := first.resolve_left nextResult_ne_stop
        exact (ih fun other member =>
          harmless other (List.mem_cons_of_mem _ member)).imp_right
            fun others => settled.trans others
      · next processed =>
        rw [processed] at first
        exact .inr (first.resolve_left nextJob_ne_stop)
      · exact .inl rfl

/-- The first result of a job stops the sending, or covers a tile of the job. -/
def StartsWell (q : TileQueues) (batch : QueueBatch) : List QueueResult → Prop
  | [] => False
  | .invalid budgetBlocked :: _ =>
      budgetBlocked = true ∧ q.stopsWhenBlocked batch.source = true
  | .encoded encodedTile :: _ =>
      ∃ ids, q.geometry.collectWireTileBaseIds encodedTile.tile = some ids ∧
        ∃ tileId ∈ ids, batch.selected tileId = true

structure Current (q : TileQueues) (batch : QueueBatch)
    (framebufferGeneration : Nat) : Prop where
  framebuffer : batch.framebufferGeneration = framebufferGeneration
  epochs : ∀ tileId, (q.tiles tileId).dirtyEpoch = batch.dirtyEpochs tileId

theorem Current.not_stale (current : q.Current batch framebufferGeneration)
    {tile : WireTile}
    (collected : q.geometry.collectWireTileBaseIds tile = some ids) :
    q.encodeResultStale batch framebufferGeneration ids = false := by
  rw [encodeResultStale, current.framebuffer, bne_self_eq_false, Bool.false_or,
    List.any_eq_false]
  intro tileId member
  have inside := Geometry.collectWireTileBaseIds_lt collected member
  simp [current.epochs tileId, Nat.not_le.mpr inside]

theorem Current.settled (current : q.Current batch framebufferGeneration)
    {q' : TileQueues} (settled : Settled q q') :
    q'.Current batch framebufferGeneration where
  framebuffer := current.framebuffer
  epochs := fun tileId =>
    ((settled.tiles tileId).epoch).trans (current.epochs tileId)

theorem processResult_committed {encodedTile : QueueEncodedTile}
    (harmless : (QueueResult.encoded encodedTile).Harmless)
    (current : q.Current batch framebufferGeneration)
    (collected : q.geometry.collectWireTileBaseIds encodedTile.tile =
      some ids) :
    (q.processResult now framebufferGeneration batch region
        (.encoded encodedTile)).2 = .stopSending ∨
      q.processResult now framebufferGeneration batch region
          (.encoded encodedTile) =
        (ids.foldl (commitTile batch.source (q.nextGenerationForResult ids)
          batch.dirtyEpochs) q, .nextResult) := by
  simp only [processResult, collected, current.not_stale collected,
    Bool.false_eq_true, if_false]
  split_ifs
  · exact .inl rfl
  · exact sendResult_of_harmless harmless

theorem processResults_progress (now region : Nat) {results : List QueueResult}
    (harmless : ∀ result ∈ results, result.Harmless)
    (starts : q.StartsWell batch results)
    (current : q.Current batch framebufferGeneration) :
    (processResults now framebufferGeneration batch region q results).2 =
        true ∨
      QuietActs q (processResults now framebufferGeneration batch region q
          results).1 ∧
        ∃ tileId < q.geometry.totalTiles, batch.selected tileId = true ∧
          (processResults now framebufferGeneration batch region q
            results).1.flags batch.source tileId = false := by
  cases results with
  | nil => contradiction
  | cons result rest =>
      cases result with
      | invalid budgetBlocked =>
          obtain ⟨rfl, stops⟩ := starts
          left
          simp [processResults, processResult, stops]
      | encoded encodedTile =>
          obtain ⟨ids, collected, tileId, member, selected⟩ := starts
          have inside := Geometry.collectWireTileBaseIds_lt collected member
          have first : (q.processResult now framebufferGeneration batch region
              (.encoded encodedTile)).2 = .stopSending ∨ _ :=
            processResult_committed (harmless _ List.mem_cons_self) current
              collected
          unfold processResults
          split
          · next processed =>
            rw [processed] at first
            have committed := (Prod.mk.inj (first.resolve_left
              nextResult_ne_stop)).1
            have newer (id : Nat) (member : id ∈ ids) :
                (q.tiles id).generation ≤ q.nextGenerationForResult ids :=
              q.generation_le_next collected member
            have quiet := commitTiles_quiet batch.source batch.dirtyEpochs newer
            have cleared := commits_clear batch.source newer member inside
              (current.epochs tileId)
            rw [← committed] at quiet cleared
            refine (processResults_of_harmless fun other member =>
              harmless other (List.mem_cons_of_mem _ member)).imp_right
                fun others => ⟨quiet.trans others, tileId, inside, selected, ?_⟩
            by_contra set
            rw [Bool.not_eq_false] at set
            rw [(Settled.acts others).flags set] at cleared
            contradiction
          · next processed =>
            rw [processed] at first
            exact absurd (first.resolve_left nextJob_ne_stop) (by simp)
          · exact .inl rfl

end TileQueues

/-! ## Batches -/

def SendStage.rank : SendStage → Nat
  | .earlyRepairs => 3
  | .fresh => 2
  | .repairs => 1
  | .closing => 0

theorem encodeBatchCapacity_pos {availableJobs : Nat}
    (some : 0 < availableJobs) (workers : Nat) :
    0 < encodeBatchCapacity availableJobs workers := by
  unfold encodeBatchCapacity encodePipelineCapacity
  rw [if_neg (by omega)]
  have limit : 0 < uint16Limit := by decide
  have waves : encoderQueueWaves ≠ 0 := by decide
  rw [if_neg waves]
  have workersPos : 0 < (if workers = 0 then 1 else workers) := by
    split_ifs <;> omega
  have product := Nat.mul_pos workersPos (Nat.pos_of_ne_zero waves)
  omega

namespace TileQueues

/-- The tiles whose flags work of a source has still to clear. -/
def outstanding (q : TileQueues) (source : EncodeSource) : Nat :=
  (List.range q.geometry.totalTiles).countP (q.flags source)

variable {q q' : TileQueues} {source : EncodeSource}

theorem Settled.outstanding_le (settled : Settled q q') :
    q'.outstanding source ≤ q.outstanding source := by
  unfold outstanding
  rw [settled.geometry]
  exact List.countP_mono_left fun tileId _ set => settled.flags set

theorem Settled.outstanding_lt (settled : Settled q q') {tileId : Nat}
    (inside : tileId < q.geometry.totalTiles)
    (set : q.flags source tileId = true)
    (clear : q'.flags source tileId = false) :
    q'.outstanding source < q.outstanding source := by
  unfold outstanding
  rw [settled.geometry]
  exact countP_range_lt_of_clear (fun _ member => settled.flags member) inside
    set clear

end TileQueues

namespace SendState

variable {s : SendState} {stage : SendStage} {source : EncodeSource}
  {batch : QueueBatch} {choice : PassChoice}

def Past (stage : SendStage) (s : SendState) : Prop :=
  ∃ later : SendStage, s.phase = .sending later none ∧ later.rank < stage.rank

theorem past_advance (s : SendState) (works : stage.source = some source) :
    (s.advance stage).Past stage := by
  refine ⟨s.nextStage stage, rfl, ?_⟩
  cases stage with
  | earlyRepairs => exact (by decide : 2 < 3)
  | fresh =>
      unfold nextStage
      split_ifs <;> decide
  | repairs => exact (by decide : 0 < 1)
  | closing => contradiction

theorem passStep_begin (head : s.phase = .sending stage none)
    (works : stage.source = some source) (choice : PassChoice) :
    (s.passStep choice).Past stage ∨
      ∃ queues regions, TileQueues.Settled s.queues queues ∧ regions ≠ [] ∧
        s.passStep choice =
          (s.withQueues queues).startBatch stage source regions := by
  unfold passStep
  rw [head]
  dsimp only
  rw [works]
  cases source with
  | fresh =>
      have kept := s.queues.takeRegions_frame choice.now
        s.queues.scheduler.count
        (encodeBatchCapacity s.queues.scheduler.count choice.workers)
      dsimp only
      unfold beginFresh
      split_ifs
      · exact .inl (past_advance s works)
      · unfold submitFresh
        split_ifs with empty
        · exact .inl (past_advance _ works)
        · exact .inl (past_advance _ works)
        · exact .inr ⟨_, _, .of_tiles kept.geometry kept.tiles,
            fun none => empty (List.isEmpty_iff.mpr none), rfl⟩
  | retransmit =>
      have collected : TileQueues.Settled s.queues
          s.queues.collectRepairs.1.compactRetransmitQueue :=
        (TileQueues.Settled.acts s.queues.collectRepairs_quiet).trans
          (.of_tiles rfl rfl)
      dsimp only
      unfold beginRepairs
      split_ifs
      · exact .inl (past_advance s works)
      · unfold submitRepairs
        dsimp only
        split_ifs with empty
        · exact .inl (past_advance _ works)
        · exact .inl (past_advance _ works)
        · exact .inr ⟨_, _, collected,
            fun none => empty (List.isEmpty_iff.mpr none), rfl⟩

theorem passStep_batch (busy : s.phase = .sending stage (some batch))
    (choice : PassChoice) :
    (batch.remaining = [] ∧
        s.passStep choice = s.endBatch stage batch choice.now) ∨
      ∃ region ∈ batch.remaining,
        s.passStep choice = s.completeJob stage batch region choice := by
  unfold passStep
  rw [busy]
  dsimp only
  cases chosen : batch.remaining[choice.job]? with
  | some region =>
      exact .inr ⟨region, List.mem_of_getElem? chosen, rfl⟩
  | none =>
      cases remaining : batch.remaining with
      | nil => exact .inl ⟨rfl, rfl⟩
      | cons region rest => exact .inr ⟨region, List.mem_cons_self, rfl⟩

theorem afterBatch_settled (s : SendState) (batch : QueueBatch) (now : Nat) :
    TileQueues.Settled s.queues (s.afterBatch batch now) := by
  unfold afterBatch
  split
  · exact .acts (TileQueues.acts_foldl
      (fun _ region => .single (.requeue now region)) _ _)
  · exact .of_tiles rfl rfl

def JobProductive (q : TileQueues) (choice : PassChoice) : PassPhase → Prop
  | .closed => True
  | .sending _ none => True
  | .sending _ (some batch) =>
      batch.remaining = [] ∨ batch.stopSending = true ∨
        (∀ result ∈ jobResults choice.results, result.Harmless) ∧
          q.StartsWell batch (jobResults choice.results)

def Productive (s : SendState) (choice : PassChoice) : Prop :=
  JobProductive s.queues choice s.phase

/-- Since it started on `start`, the batch has only settled work. -/
structure Running (start : TileQueues) (s : SendState) (batch : QueueBatch) :
    Prop where
  settled : TileQueues.Settled start s.queues
  current : s.queues.Current batch s.framebufferGeneration
  chosen : ∀ tileId, batch.selected tileId = true →
    start.flags batch.source tileId = true
  progress : batch.remaining.length < batch.regions.length →
    ∃ tileId < start.geometry.totalTiles,
      start.flags batch.source tileId = true ∧
        s.queues.flags batch.source tileId = false

theorem running_startBatch (s : SendState) (stage : SendStage)
    (source : EncodeSource) (regions : List Nat) :
    ∃ batch, (s.startBatch stage source regions).phase =
        .sending stage (some batch) ∧ batch.source = source ∧
      batch.regions = regions ∧
      Running s.queues (s.startBatch stage source regions) batch := by
  refine ⟨_, rfl, rfl, rfl, .refl _, ⟨rfl, fun _ => rfl⟩, ?_, ?_⟩
  · intro tileId selected
    exact TileQueues.selects_flags selected
  · intro fewer
    exact absurd fewer (Nat.lt_irrefl _)

/-- A completed job leaves a batch with one job less, that has stopped sending or
goes on settling work. -/
theorem running_completeJob {start : TileQueues}
    (busy : s.phase = .sending stage (some batch))
    (good : batch.stopSending = true ∨ Running start s batch) {region : Nat}
    (member : region ∈ batch.remaining) (productive : s.Productive choice) :
    ∃ next : QueueBatch,
      (s.completeJob stage batch region choice).phase =
          .sending stage (some next) ∧
        next.source = batch.source ∧ next.regions = batch.regions ∧
        next.remaining.length + 1 = batch.remaining.length ∧
        (next.stopSending = true ∨
          Running start (s.completeJob stage batch region choice) next) := by
  have shorter : (batch.remaining.erase region).length + 1 =
      batch.remaining.length := by
    have positive := List.length_pos_of_mem member
    rw [List.length_erase_of_mem member]
    omega
  unfold completeJob
  dsimp only
  by_cases stopped : batch.stopSending = true
  · rw [if_pos stopped]
    exact ⟨_, rfl, rfl, rfl, shorter, .inl stopped⟩
  · rw [if_neg stopped]
    refine ⟨_, rfl, rfl, rfl, shorter, ?_⟩
    have running := good.resolve_left stopped
    rw [Productive, busy] at productive
    have due : batch.remaining ≠ [] := List.ne_nil_of_mem member
    obtain ⟨harmless, starts⟩ :=
      (productive.resolve_left due).resolve_left stopped
    refine (TileQueues.processResults_progress choice.now region harmless starts
      running.current).imp_right fun worked => ?_
    obtain ⟨quiet, tileId, inside, selected, cleared⟩ := worked
    have settled := TileQueues.Settled.acts quiet
    have after := running.current.settled settled
    refine ⟨running.settled.trans settled, ⟨after.framebuffer, after.epochs⟩,
      running.chosen, fun _ => ?_⟩
    rw [running.settled.geometry] at inside
    exact ⟨tileId, inside, running.chosen tileId selected, cleared⟩

/-! ## Whole passes -/

def passRun (s : SendState) (choices : Nat → PassChoice) : Nat → SendState
  | 0 => s
  | n + 1 => (passRun s choices n).passStep (choices n)

variable {choices : Nat → PassChoice} {first : Nat}

/-- A batch in progress ends, and where it does not end its stage it has cleared
a flag. -/
theorem batch_ends
    (productive : ∀ n ≥ first, (s.passRun choices n).Productive (choices n))
    (works : stage.source = some source) {start : TileQueues} {n : Nat}
    (late : first ≤ n)
    (busy : (s.passRun choices n).phase = .sending stage (some batch))
    (same : batch.source = source) (jobs : batch.regions ≠ [])
    (good : batch.stopSending = true ∨
      Running start (s.passRun choices n) batch) :
    ∃ m ≥ n, (s.passRun choices m).Past stage ∨
      (s.passRun choices m).phase = .sending stage none ∧
        (s.passRun choices m).queues.outstanding source <
          start.outstanding source := by
  induction left : batch.remaining.length generalizing n batch with
  | zero =>
      refine ⟨n + 1, Nat.le_succ n, ?_⟩
      have none : batch.remaining = [] := List.length_eq_zero_iff.mp left
      have ends : s.passRun choices (n + 1) =
          (s.passRun choices n).endBatch stage batch (choices n).now := by
        rcases passStep_batch busy (choices n) with ⟨-, ends⟩ | ⟨_, member, -⟩
        · exact ends
        · rw [none] at member
          contradiction
      rw [ends]
      unfold endBatch
      dsimp only
      by_cases stopped : batch.stopSending = true
      · rw [if_pos stopped]
        exact .inl (past_advance _ works)
      · rw [if_neg stopped]
        right
        refine ⟨rfl, ?_⟩
        have running := good.resolve_left stopped
        have some : batch.remaining.length < batch.regions.length := by
          rw [left]
          exact List.length_pos_iff.mpr jobs
        obtain ⟨tileId, inside, set, cleared⟩ := running.progress some
        have after := afterBatch_settled (s.passRun choices n) batch
          (choices n).now
        rw [same] at set cleared
        exact Nat.lt_of_le_of_lt after.outstanding_le
          (running.settled.outstanding_lt inside set cleared)
  | succ k ih =>
      have step : ∃ region ∈ batch.remaining, s.passRun choices (n + 1) =
          (s.passRun choices n).completeJob stage batch region (choices n) := by
        rcases passStep_batch busy (choices n) with ⟨none, -⟩ | completes
        · rw [none] at left
          contradiction
        · exact completes
      obtain ⟨region, member, completes⟩ := step
      obtain ⟨next, phase, sameSource, sameRegions, shorter, goes⟩ :=
        running_completeJob busy good member (productive n late)
      rw [← completes] at phase goes
      obtain ⟨m, later, outcome⟩ := ih (Nat.le_succ_of_le late) phase
        (sameSource.trans same) (sameRegions ▸ jobs) goes (by omega)
      exact ⟨m, Nat.le_of_succ_le later, outcome⟩

theorem stage_ends
    (productive : ∀ n ≥ first, (s.passRun choices n).Productive (choices n))
    (works : stage.source = some source) {n : Nat} (late : first ≤ n)
    (head : (s.passRun choices n).phase = .sending stage none) :
    ∃ m ≥ n, (s.passRun choices m).Past stage := by
  induction size : (s.passRun choices n).queues.outstanding source
    using Nat.strongRecOn generalizing n with
  | ind work ih =>
      rcases passStep_begin head works (choices n) with
        past | ⟨queues, regions, settled, jobs, starts⟩
      · exact ⟨n + 1, Nat.le_succ n, past⟩
      · have started : s.passRun choices (n + 1) =
            ((s.passRun choices n).withQueues queues).startBatch stage source
              regions := starts
        obtain ⟨batch, busy, same, given, running⟩ := running_startBatch
          ((s.passRun choices n).withQueues queues) stage source regions
        rw [← started] at busy running
        obtain ⟨m, later, outcome⟩ := batch_ends productive works
          (Nat.le_succ_of_le late) busy same (given ▸ jobs) (.inr running)
        rcases outcome with past | ⟨again, fewer⟩
        · exact ⟨m, Nat.le_of_succ_le later, past⟩
        · have less : (s.passRun choices m).queues.outstanding source <
              work := by
            refine Nat.lt_of_lt_of_le fewer ?_
            rw [← size]
            exact settled.outstanding_le
          obtain ⟨last, after, past⟩ := ih _ less
            (Nat.le_trans late (Nat.le_of_succ_le later)) again rfl
          exact ⟨last, Nat.le_trans (Nat.le_of_succ_le later) after, past⟩

theorem batch_over {n : Nat}
    (busy : (s.passRun choices n).phase = .sending stage (some batch)) :
    ∃ m ≥ n, ∃ later, (s.passRun choices m).phase = .sending later none := by
  induction left : batch.remaining.length generalizing n batch with
  | zero =>
      refine ⟨n + 1, Nat.le_succ n, ?_⟩
      rcases passStep_batch busy (choices n) with ⟨-, ends⟩ | ⟨_, member, -⟩
      · change ∃ later, ((s.passRun choices n).passStep (choices n)).phase = _
        rw [ends]
        unfold endBatch
        dsimp only
        split_ifs
        · exact ⟨_, rfl⟩
        · exact ⟨_, rfl⟩
      · rw [List.length_eq_zero_iff.mp left] at member
        contradiction
  | succ k ih =>
      rcases passStep_batch busy (choices n) with
        ⟨none, -⟩ | ⟨region, member, completes⟩
      · rw [none] at left
        contradiction
      · have shorter : (batch.remaining.erase region).length = k := by
          rw [List.length_erase_of_mem member]
          omega
        have phase : ∃ next : QueueBatch, next.remaining =
            batch.remaining.erase region ∧
              (s.passRun choices (n + 1)).phase = .sending stage (some next) := by
          change ∃ next : QueueBatch, _ ∧
            ((s.passRun choices n).passStep (choices n)).phase = _
          rw [completes]
          unfold completeJob
          dsimp only
          split_ifs
          · exact ⟨_, rfl, rfl⟩
          · exact ⟨_, rfl, rfl⟩
        obtain ⟨next, remaining, phase⟩ := phase
        obtain ⟨m, later, exceeds⟩ := ih phase (remaining ▸ shorter)
        exact ⟨m, Nat.le_of_succ_le later, exceeds⟩

theorem ends_from_head
    (productive : ∀ n ≥ first, (s.passRun choices n).Productive (choices n))
    {n : Nat} (late : first ≤ n)
    (head : (s.passRun choices n).phase = .sending stage none) :
    ∃ m ≥ n, (s.passRun choices m).phase = .closed := by
  induction rank : stage.rank using Nat.strongRecOn generalizing stage n with
  | ind rank ih =>
      cases works : stage.source with
      | none =>
          refine ⟨n + 1, Nat.le_succ n, ?_⟩
          change ((s.passRun choices n).passStep (choices n)).phase = .closed
          unfold passStep
          rw [head]
          dsimp only
          rw [works]
          rfl
      | some source =>
          obtain ⟨m, later, stage', head', lower⟩ :=
            stage_ends productive works late head
          obtain ⟨last, after, closed⟩ := ih _ (rank ▸ lower)
            (Nat.le_trans late later) head' rfl
          exact ⟨last, Nat.le_trans later after, closed⟩

/--
A pass that is not disturbed ends if from some step on the first result of every
job stops the sending or covers a tile of the job, and no send fails hard.
-/
theorem pass_ends (s : SendState) (choices : Nat → PassChoice) (first : Nat)
    (productive : ∀ n ≥ first, (s.passRun choices n).Productive (choices n)) :
    ∃ n, (s.passRun choices n).phase = .closed := by
  cases phase : (s.passRun choices first).phase with
  | closed => exact ⟨first, phase⟩
  | sending stage batch =>
      cases batch with
      | none =>
          obtain ⟨m, -, closed⟩ :=
            ends_from_head productive (Nat.le_refl first) phase
          exact ⟨m, closed⟩
      | some batch =>
          obtain ⟨m, later, stage', head⟩ := batch_over phase
          obtain ⟨n, -, closed⟩ := ends_from_head productive later head
          exact ⟨n, closed⟩

end SendState

/-! ## A pass that ends -/

instance : DecidablePred QueueResult.Harmless
  | .invalid _ => isTrue trivial
  | .encoded encodedTile =>
      inferInstanceAs (Decidable (encodedTile.attempt.failsHard = false ∧
        encodedTile.failedDeliveries = []))

instance (q : TileQueues) (batch : QueueBatch) :
    DecidablePred (q.StartsWell batch)
  | [] => isFalse id
  | .invalid budgetBlocked :: _ =>
      inferInstanceAs (Decidable (budgetBlocked = true ∧
        q.stopsWhenBlocked batch.source = true))
  | .encoded encodedTile :: _ =>
      decidable_of_iff (∃ tileId ∈ (q.geometry.collectWireTileBaseIds
          encodedTile.tile).getD [], batch.selected tileId = true) (by
        unfold TileQueues.StartsWell
        cases found : q.geometry.collectWireTileBaseIds encodedTile.tile with
        | none => simp [found]
        | some ids => simp [found])

instance : ∀ phase : PassPhase, Decidable (phase = .closed)
  | .closed => isTrue rfl
  | .sending stage batch => isFalse (sending_ne_closed stage batch)

instance (s : SendState) (choice : PassChoice) :
    Decidable (s.Productive choice) :=
  match phase : s.phase with
  | .closed => isTrue (by rw [SendState.Productive, phase]; trivial)
  | .sending _ none => isTrue (by rw [SendState.Productive, phase]; trivial)
  | .sending _ (some batch) =>
      decidable_of_iff (batch.remaining = [] ∨ batch.stopSending = true ∨
        (∀ result ∈ jobResults choice.results, result.Harmless) ∧
          s.queues.StartsWell batch (jobResults choice.results))
        (by rw [SendState.Productive, phase]; rfl)

namespace SendState

theorem passRun_closed {s : SendState} {choices : Nat → PassChoice} {n m : Nat}
    (closed : (s.passRun choices n).phase = .closed) (later : n ≤ m) :
    s.passRun choices m = s.passRun choices n := by
  induction m, later using Nat.le_induction with
  | base => rfl
  | succ m _ ih =>
      change (s.passRun choices m).passStep (choices m) = _
      rw [ih, passStep, closed]

def damagedTile : SendState :=
  sendRun (init singleTile .defaults 1) [.damage [0] 1, .openPass false]

/-- One tile is damaged and the other is to be repaired. -/
def damageAndRepair : SendState :=
  sendRun (init tilePair .defaults 1)
    [.damage [0] 1, .requestRepairs [(1, 0)], .openPass false]

theorem pass_ends_damageAndRepair :
    let choices := fun n => sendTile (if n < 5 then 0 else 1) .queued
    (∀ n, (damageAndRepair.passRun choices n).Productive (choices n)) ∧
      ∃ n, (damageAndRepair.passRun choices n).phase = .closed := by
  intro choices
  have early : ∀ n < 9, (damageAndRepair.passRun choices n).Productive
      (choices n) := by decide +kernel
  have closed : (damageAndRepair.passRun choices 9).phase = .closed := by
    decide +kernel
  have productive (n : Nat) :
      (damageAndRepair.passRun choices n).Productive (choices n) := by
    by_cases soon : n < 9
    · exact early n soon
    · unfold Productive
      rw [passRun_closed closed (Nat.le_of_not_lt soon), closed]
      trivial
  exact ⟨productive, pass_ends damageAndRepair choices 0
    fun n _ => productive n⟩

end SendState

/-! ## Passes without an end -/

/-- The encoder gave nothing and is not blocked, or the send fails hard. -/
def QueueResult.Fruitless : QueueResult → Prop
  | .invalid budgetBlocked => budgetBlocked = false
  | .encoded encodedTile =>
      encodedTile.allowed = true ∧ encodedTile.attempt.failsHard = true

namespace TileQueues

variable {q q' : TileQueues} {batch : QueueBatch}

def KeepsDirty (q q' : TileQueues) : Prop :=
  ∀ tileId, q.dirtyFlags tileId = true → q'.dirtyFlags tileId = true

theorem KeepsDirty.of_tiles (tiles : q'.tiles = q.tiles) : KeepsDirty q q' := by
  intro tileId dirty
  rw [dirtyFlags, tiles]
  exact dirty

theorem keepsDirty_requeue (now : Nat) (q : TileQueues) (region : Nat) :
    KeepsDirty q (q.requeueDirtyTopRegion now region) := by
  apply KeepsDirty.of_tiles
  unfold requeueDirtyTopRegion
  split_ifs
  · rfl
  · split
    · rfl
    · exact markDirtyTopRegion_tiles q _ now

theorem keepsDirty_giveBack (source : EncodeSource) (now : Nat) (q : TileQueues)
    (region : Nat) : KeepsDirty q (q.giveBack source now region) := by
  cases source with
  | fresh => exact keepsDirty_requeue now q region
  | retransmit => exact fun _ => id

theorem keepsDirty_detect (now : Nat) (q : TileQueues) (tileId : Nat) :
    KeepsDirty q (q.detectOneDirtyTile now tileId) := by
  have stamped : KeepsDirty q (q.updateTile tileId .nextDirtyEpoch) := by
    intro other dirty
    rw [dirtyFlags, updateTile_tiles]
    split_ifs
    · exact dirty
    · exact dirty
  intro other dirty
  rcases q.detectOneDirtyTile_cases now tileId with
    ⟨-, same⟩ | ⟨-, -, same⟩ | ⟨-, -, -, same⟩ | ⟨-, -, same⟩
  · rw [same]
    exact dirty
  · rw [same, dirtyFlags, markDirtyTopRegion_tiles]
    exact stamped other dirty
  · rw [same]
    exact stamped other dirty
  · rw [same, dirtyFlags, markDirtyTopRegion_tiles]
    change (((q.updateTile tileId .nextDirtyEpoch).updateTile tileId
      .supersede).tiles other).dirtyQueued = true
    rw [updateTile_tiles]
    split_ifs
    · rfl
    · exact stamped other dirty

theorem keepsDirty_foldl {α : Type} {f : TileQueues → α → TileQueues}
    (each : ∀ q x, KeepsDirty q (f q x)) (q : TileQueues) (items : List α) :
    KeepsDirty q (items.foldl f q) := by
  induction items generalizing q with
  | nil => exact fun _ => id
  | cons item rest ih =>
      exact fun tileId dirty => ih _ tileId (each q item tileId dirty)

theorem keepsDirty_redirty (now : Nat) (q : TileQueues)
    (delivery : List Nat × Nat) : KeepsDirty q (q.redirty now delivery) := by
  apply keepsDirty_foldl
  intro q tileId
  unfold redirtyTile
  split_ifs
  · exact keepsDirty_detect now q tileId
  · exact fun _ => id

theorem sendTilePayload_fruitless (now : Nat) (q : TileQueues) (ids : List Nat)
    (generation : Nat) {attempt : TileSendAttempt}
    (fails : attempt.failsHard = true) :
    (q.sendTilePayload now ids generation attempt).2 = .rejected := by
  cases attempt with
  | unsent => contradiction
  | oversized => rfl
  | packets count status =>
      simp only [TileSendAttempt.failsHard, Bool.and_eq_true, bne_iff_ne] at fails
      simp only [sendTilePayload, if_neg fails.1, if_neg fails.2]

theorem processResult_fruitless (now framebufferGeneration region : Nat)
    (q : TileQueues) (batch : QueueBatch) {result : QueueResult}
    (fruitless : result.Fruitless) :
    (q.processResult now framebufferGeneration batch region result).2 ≠
        .stopSending ∧
      KeepsDirty q (q.processResult now framebufferGeneration batch region
        result).1 := by
  have back := keepsDirty_giveBack batch.source now q region
  cases result with
  | invalid budgetBlocked =>
      have unblocked : budgetBlocked = false := fruitless
      rw [unblocked]
      exact ⟨nextJob_ne_stop, back⟩
  | encoded encodedTile =>
      obtain ⟨allowed, fails⟩ := fruitless
      unfold processResult
      dsimp only
      split
      · exact ⟨nextJob_ne_stop, back⟩
      · next ids _ =>
        rw [allowed, Bool.not_true, if_neg Bool.false_ne_true]
        split_ifs
        · exact ⟨nextResult_ne_stop, back⟩
        · have failed : KeepsDirty q
              (encodedTile.failedDeliveries.foldl (redirty now) q) :=
            keepsDirty_foldl (keepsDirty_redirty now) q _
          have rejected := sendTilePayload_fruitless now
            (encodedTile.failedDeliveries.foldl (redirty now) q) ids
            (q.nextGenerationForResult ids) fails
          have sent := sendTilePayload_cases now
            (encodedTile.failedDeliveries.foldl (redirty now) q) ids
            (q.nextGenerationForResult ids) encodedTile.attempt
          unfold sendResult
          dsimp only
          split
          · next outcome =>
            refine ⟨nextResult_ne_stop, fun tileId dirty => ?_⟩
            rw [outcome] at sent
            apply keepsDirty_giveBack
            rcases sent with same | ⟨same, -⟩
            · dsimp only at same
              rw [same]
              exact failed tileId dirty
            · dsimp only at same
              rw [same]
              exact keepsDirty_redirty now _ _ tileId (failed tileId dirty)
          · next outcome =>
            rw [outcome] at rejected
            contradiction
          · next outcome =>
            rw [outcome] at rejected
            contradiction

theorem processResults_fruitless (now framebufferGeneration region : Nat)
    (q : TileQueues) (batch : QueueBatch) {results : List QueueResult}
    (fruitless : ∀ result ∈ results, result.Fruitless) :
    (processResults now framebufferGeneration batch region q results).2 =
        false ∧
      KeepsDirty q (processResults now framebufferGeneration batch region q
        results).1 := by
  induction results generalizing q with
  | nil => exact ⟨rfl, fun _ => id⟩
  | cons result rest ih =>
      have first := processResult_fruitless now framebufferGeneration region q
        batch (fruitless result List.mem_cons_self)
      unfold processResults
      split
      · next between processed =>
        rw [processed] at first
        have others := ih between fun other member =>
          fruitless other (List.mem_cons_of_mem _ member)
        exact ⟨others.1, fun tileId dirty =>
          others.2 tileId (first.2 tileId dirty)⟩
      · next processed =>
        rw [processed] at first
        exact ⟨rfl, first.2⟩
      · next processed =>
        rw [processed] at first
        exact absurd rfl first.1

end TileQueues

namespace SendState

variable {s : SendState} {choice : PassChoice}

structure Fruitless (choice : PassChoice) : Prop where
  budget : choice.budget = true
  started : choice.started = true
  results : ∀ result ∈ jobResults choice.results, result.Fruitless

structure Stuck (s : SendState) : Prop where
  consistent : s.Consistent
  dirty : ∃ tileId < s.queues.geometry.totalTiles,
    s.queues.dirtyFlags tileId = true
  phase : s.phase = .sending .fresh none ∨
    ∃ batch, s.phase = .sending .fresh (some batch) ∧ batch.source = .fresh ∧
      batch.stopSending = false

theorem beginFresh_starts (consistent : s.queues.Consistent [])
    (dirty : ∃ tileId < s.queues.geometry.totalTiles,
      s.queues.dirtyFlags tileId = true)
    (budget : choice.budget = true) (started : choice.started = true) :
    ∃ queues regions, TileQueues.Frame s.queues queues ∧ regions ≠ [] ∧
      s.beginFresh .fresh choice =
        (s.withQueues queues).startBatch .fresh .fresh regions := by
  obtain ⟨tileId, inside, marked⟩ := dirty
  have busy : s.queues.scheduler.count ≠ 0 := by
    intro idle
    rw [consistent.clean_of_idle idle inside] at marked
    contradiction
  obtain ⟨capacity, positive⟩ := Nat.exists_eq_succ_of_ne_zero
    (Nat.pos_iff_ne_zero.mp (encodeBatchCapacity_pos
      (Nat.pos_of_ne_zero busy) choice.workers))
  have frame := s.queues.takeRegions_frame choice.now s.queues.scheduler.count
    (encodeBatchCapacity s.queues.scheduler.count choice.workers)
  have jobs : (s.queues.takeRegions choice.now s.queues.scheduler.count
      (encodeBatchCapacity s.queues.scheduler.count choice.workers)).2 ≠ [] := by
    intro none
    have after := consistent.takeRegions choice.now s.queues.scheduler.count
      (encodeBatchCapacity s.queues.scheduler.count choice.workers)
    rw [none] at after
    rw [positive] at none after
    have idle := consistent.takeRegions_empty (Nat.le_refl _) none
    rw [positive] at frame
    have clean := after.clean_of_idle idle (frame.geometry.symm ▸ inside)
    rw [TileQueues.dirtyFlags, frame.tiles] at clean
    rw [TileQueues.dirtyFlags, clean] at marked
    contradiction
  refine ⟨_, _, frame, jobs, ?_⟩
  unfold beginFresh
  rw [budget, Bool.not_true, if_neg (by simp [busy])]
  unfold submitFresh
  rw [if_neg (by simpa using jobs), started, Bool.not_true,
    if_neg Bool.false_ne_true]

theorem Stuck.passStep (stuck : s.Stuck) (fruitless : Fruitless choice) :
    (s.passStep choice).Stuck := by
  have consistent := stuck.consistent.passStep choice
  obtain ⟨tileId, inside, marked⟩ := stuck.dirty
  rcases stuck.phase with head | ⟨batch, busy, fresh, goes⟩
  · have idle : s.queues.Consistent [] := by
      have held := stuck.consistent
      rw [SendState.Consistent, takenRegions, head] at held
      exact held
    obtain ⟨queues, regions, frame, -, starts⟩ :=
      beginFresh_starts idle stuck.dirty fruitless.budget fruitless.started
    have step : s.passStep choice =
        (s.withQueues queues).startBatch .fresh .fresh regions := by
      rw [← starts, SendState.passStep, head]
      rfl
    refine ⟨consistent, ?_, ?_⟩
    · rw [step]
      refine ⟨tileId, ?_, ?_⟩
      · exact frame.geometry.symm ▸ inside
      · change queues.dirtyFlags tileId = true
        rw [TileQueues.dirtyFlags, frame.tiles]
        exact marked
    · rw [step]
      exact .inr ⟨_, rfl, rfl, rfl⟩
  · rcases passStep_batch busy choice with
      ⟨-, ends⟩ | ⟨region, member, completes⟩
    · have back : TileQueues.KeepsDirty s.queues
          (s.afterBatch batch choice.now) := by
        rw [afterBatch, fresh]
        exact TileQueues.keepsDirty_foldl
          (TileQueues.keepsDirty_requeue choice.now) _ _
      have kept := (afterBatch_settled s batch choice.now).geometry
      refine ⟨consistent, ?_, ?_⟩
      · rw [ends, endBatch, goes]
        exact ⟨tileId, kept.symm ▸ inside, back tileId marked⟩
      · rw [ends, endBatch, goes]
        exact .inl rfl
    · have results := TileQueues.processResults_fruitless choice.now
        s.framebufferGeneration region s.queues batch fruitless.results
      have kept := (TileQueues.ListKept.acts (TileQueues.processResults_acts
        choice.now s.framebufferGeneration batch region s.queues
        (jobResults choice.results))).geometry
      refine ⟨consistent, ?_, ?_⟩
      · rw [completes, completeJob, goes, if_neg Bool.false_ne_true]
        exact ⟨tileId, kept.symm ▸ inside, results.2 tileId marked⟩
      · rw [completes, completeJob, goes, if_neg Bool.false_ne_true]
        exact .inr ⟨_, rfl, fresh, results.1⟩

theorem stuck_passRun (stuck : s.Stuck) {choices : Nat → PassChoice}
    (fruitless : ∀ n, Fruitless (choices n)) (n : Nat) :
    (s.passRun choices n).Stuck := by
  induction n with
  | zero => exact stuck
  | succ n ih => exact ih.passStep (fruitless n)

/-- One dirty tile whose packet always fails hard keeps the pass busy for ever,
although nothing new arrives. -/
theorem failing_send_never_ends :
    ¬ ∃ n, (damagedTile.passRun (fun _ => sendTile 0 .failed) n).phase =
      .closed := by
  have start : damagedTile.Stuck :=
    ⟨consistent_sendRun singleTile .defaults 1 _, by decide +kernel, .inl rfl⟩
  have fruitless : Fruitless (sendTile 0 .failed) := by
    refine ⟨rfl, rfl, fun result member => ?_⟩
    rw [List.mem_singleton.mp member]
    exact ⟨rfl, by decide⟩
  rintro ⟨n, closed⟩
  rcases (stuck_passRun start (fun _ => fruitless) n).phase with
    head | ⟨batch, busy, -⟩
  · rw [head] at closed
    cases closed
  · rw [busy] at closed
    cases closed

end SendState

end WayDisplay.Server
