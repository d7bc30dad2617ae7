import WayDisplay.Server.Queues.Progress

/-!
A pass with nothing in its way empties the queues.

Without a stop a stage ends only when its queue has nothing left to take.  For
fresh tiles that is the empty scheduler, and with it no tile is dirty.  For
repairs it is the empty list, unless a request is for a generation its tile has
not reached: such a request waits for fresh content, and the pass leaves it.
-/

namespace WayDisplay.Server

open Common Foundation Relation

namespace TileQueues

variable {q q' : TileQueues} {tileId : Nat}

def Answerable (q : TileQueues) : Prop :=
  ∀ tileId < q.geometry.totalTiles, q.repairFlags tileId = true →
    (q.tiles tileId).retransmitRequestedGeneration ≤
      (q.tiles tileId).generation

theorem Answerable.settled (answerable : q.Answerable) (settled : Settled q q') :
    q'.Answerable := by
  intro tileId inside queued
  rw [settled.geometry] at inside
  have eases := settled.tiles tileId
  have before := answerable tileId inside (eases.queued queued)
  exact Nat.le_trans eases.asked (Nat.le_trans before eases.newer)

structure Idle (q : TileQueues) : Prop where
  consistent : q.Consistent []
  count : q.scheduler.count = 0

namespace Idle

theorem clean (idle : q.Idle) (inside : tileId < q.geometry.totalTiles) :
    q.dirtyFlags tileId = false :=
  idle.consistent.clean_of_idle idle.count inside

theorem dirtyQueueCount (idle : q.Idle) : q.dirtyQueueCount = 0 := by
  rw [idle.consistent.counted, List.countP_eq_zero]
  intro tileId member
  rw [idle.clean (List.mem_range.mp member)]
  exact Bool.false_ne_true

theorem not_stillDirty (idle : q.Idle) (region : Nat) :
    q.topRegionStillDirty region = false := by
  rw [topRegionStillDirty, List.any_eq_false]
  intro tileId _
  rw [Bool.and_eq_true, decide_eq_true_eq, not_and]
  intro inside
  have clean := idle.clean inside
  rw [dirtyFlags] at clean
  rw [clean]
  exact Bool.false_ne_true

theorem act (idle : q.Idle) (act : QuietAct q q') : q'.Idle := by
  refine ⟨idle.consistent.act (.quiet act), ?_⟩
  cases act with
  | settle settles => exact idle.count
  | clear tileId =>
      unfold dirtyQueueNoteCleared
      split_ifs
      · exact idle.count
      · exact idle.count
  | forget clean =>
      have sound := idle.consistent.sound.forget
      rw [withScheduler, (sound _).counted, List.countP_eq_zero]
      intro region _
      rw [idle.consistent.sound.forget_queued,
        idle.consistent.sound.not_queued idle.count, Bool.false_and]
      exact Bool.false_ne_true
  | requeue now region =>
      rw [requeueDirtyTopRegion, idle.not_stillDirty region, Bool.not_false,
        if_pos rfl]
      exact idle.count

theorem acts (idle : q.Idle) (acts : QuietActs q q') : q'.Idle := by
  induction acts with
  | refl => exact idle
  | tail _ act ih => exact ih.act act

end Idle

/-! ## Nothing left to repair -/

theorem collectRepair_clean (found : TileQueues × List Nat)
    (clean : ∀ id < found.1.geometry.totalTiles, found.1.dirtyFlags id = false)
    (answerable : found.1.Answerable) (tileId : Nat) :
    (collectRepair found tileId).1 = found.1 ∧
      found.2 ⊆ (collectRepair found tileId).2 ∧
      (tileId < found.1.geometry.totalTiles →
        found.1.repairFlags tileId = true →
          ∃ region ∈ (collectRepair found tileId).2,
            found.1.geometry.topRegionForBaseTile tileId = some region) := by
  by_cases skipped : tileId ≥ found.1.geometry.totalTiles ∨
      (!(found.1.tiles tileId).retransmitQueued) = true
  · rw [collectRepair, if_pos skipped]
    refine ⟨rfl, List.Subset.refl _, fun inside queued => ?_⟩
    rcases skipped with outside | unqueued
    · omega
    · rw [repairFlags] at queued
      rw [queued] at unqueued
      contradiction
  · rw [not_or, Nat.not_le, Bool.not_eq_true', Bool.not_eq_false] at skipped
    obtain ⟨inside, queued⟩ := skipped
    have settled : (found.1.tiles tileId).dirtyQueued = false :=
      clean tileId inside
    have reached := answerable tileId inside queued
    have region := Geometry.topRegionForBaseTile_eq inside
    simp only [collectRepair, queued, settled, region, Bool.not_true,
      Bool.false_eq_true, or_false, if_false]
    rw [if_neg (by omega), if_neg (by omega)]
    refine ⟨rfl, ?_, fun _ _ => ?_⟩
    · split_ifs
      · exact List.Subset.refl _
      · exact List.subset_append_left _ _
    · split_ifs with known
      · exact ⟨_, known, rfl⟩
      · exact ⟨_, List.mem_append_right _ (List.mem_singleton.mpr rfl), rfl⟩

theorem collectRepairs_clean
    (clean : ∀ id < q.geometry.totalTiles, q.dirtyFlags id = false)
    (answerable : q.Answerable) (items regions : List Nat) :
    (items.foldl collectRepair (q, regions)).1 = q ∧
      regions ⊆ (items.foldl collectRepair (q, regions)).2 ∧
      ∀ tileId ∈ items, tileId < q.geometry.totalTiles →
        q.repairFlags tileId = true →
          ∃ region ∈ (items.foldl collectRepair (q, regions)).2,
            q.geometry.topRegionForBaseTile tileId = some region := by
  induction items generalizing regions with
  | nil => exact ⟨rfl, List.Subset.refl _,
      fun _ member => absurd member List.not_mem_nil⟩
  | cons first rest ih =>
      obtain ⟨same, grows, adds⟩ :=
        collectRepair_clean (q, regions) clean answerable first
      have pair : collectRepair (q, regions) first =
          (q, (collectRepair (q, regions) first).2) := Prod.ext same rfl
      rw [List.foldl_cons, pair]
      obtain ⟨kept, more, others⟩ := ih (collectRepair (q, regions) first).2
      refine ⟨kept, List.Subset.trans grows more, fun tileId member inside
        queued => ?_⟩
      rcases List.mem_cons.mp member with rfl | member
      · obtain ⟨region, added, place⟩ := adds inside queued
        exact ⟨region, more added, place⟩
      · exact others tileId member inside queued

theorem canInitEncodeJob_of_region {region : Nat}
    (place : q.geometry.topRegionForBaseTile tileId = some region) :
    q.canInitEncodeJob region = true := by
  have inGrid := Geometry.topRegionForBaseTile_lt place
  rw [canInitEncodeJob, Geometry.collectWireTileBaseIds_eq inGrid,
    Option.isSome_some]

theorem compact_eq_nil (idle : q.Idle) (answerable : q.Answerable)
    {workers : Nat}
    (noJobs : (q.collectRepairs.2.filter
        q.collectRepairs.1.compactRetransmitQueue.canInitEncodeJob).take
      (encodeBatchCapacity q.collectRepairs.2.length workers) = []) :
    q.collectRepairs.1.compactRetransmitQueue.retransmitQueue = [] := by
  obtain ⟨same, -, adds⟩ := collectRepairs_clean
    (fun _ inside => idle.clean inside) answerable q.retransmitQueue []
  change q.collectRepairs.1 = q at same
  rw [same] at noJobs ⊢
  change q.retransmitQueue.filter _ = []
  rw [List.filter_eq_nil_iff]
  intro tileId listed live
  rw [Bool.and_eq_true, decide_eq_true_eq] at live
  obtain ⟨region, found, place⟩ := adds tileId listed live.1 live.2
  have job : region ∈ q.collectRepairs.2.filter
      q.compactRetransmitQueue.canInitEncodeJob :=
    List.mem_filter.mpr ⟨found, canInitEncodeJob_of_region place⟩
  have capacity : 0 < encodeBatchCapacity q.collectRepairs.2.length workers :=
    encodeBatchCapacity_pos (List.length_pos_of_mem found) workers
  rcases List.take_eq_nil_iff.mp noJobs with none | none
  · omega
  · rw [none] at job
    contradiction

end TileQueues

/-! ## Everything is sent -/

def TileSendAttempt.whole : TileSendAttempt → Bool
  | .unsent => false
  | .oversized => false
  | .packets count status => packetsQueued status count == count

theorem TileSendAttempt.whole_iff {attempt : TileSendAttempt} :
    attempt.whole = true ↔ ∃ count status, attempt = .packets count status ∧
      packetsQueued status count = count := by
  cases attempt with
  | unsent => simp [whole]
  | oversized => simp [whole]
  | packets count status => simp [whole]

def QueueResult.Sent (geometry : Geometry) : QueueResult → Prop
  | .invalid _ => False
  | .encoded encodedTile =>
      (geometry.collectWireTileBaseIds encodedTile.tile).isSome = true ∧
        encodedTile.allowed = true ∧ encodedTile.failedDeliveries = [] ∧
        encodedTile.attempt.whole = true

instance (geometry : Geometry) : DecidablePred (QueueResult.Sent geometry)
  | .invalid _ => isFalse id
  | .encoded encodedTile =>
      inferInstanceAs (Decidable (
        (geometry.collectWireTileBaseIds encodedTile.tile).isSome = true ∧
          encodedTile.allowed = true ∧ encodedTile.failedDeliveries = [] ∧
          encodedTile.attempt.whole = true))

theorem QueueResult.Sent.harmless {geometry : Geometry} {result : QueueResult}
    (sent : result.Sent geometry) : result.Harmless := by
  cases result with
  | invalid => trivial
  | encoded encodedTile =>
      obtain ⟨-, -, quiet, queued⟩ := sent
      obtain ⟨count, status, attempt, whole⟩ :=
        TileSendAttempt.whole_iff.mp queued
      refine ⟨?_, quiet⟩
      rw [attempt, TileSendAttempt.failsHard, whole, bne_self_eq_false,
        Bool.false_and]

namespace TileQueues

variable {q : TileQueues} {batch : QueueBatch} {framebufferGeneration : Nat}

theorem processResult_of_sent (now region : Nat) {result : QueueResult}
    (sent : result.Sent q.geometry)
    (current : q.Current batch framebufferGeneration) :
    QuietActs q (q.processResult now framebufferGeneration batch region
        result).1 ∧
      (q.processResult now framebufferGeneration batch region result).2 =
        .nextResult := by
  cases result with
  | invalid => exact sent.elim
  | encoded encodedTile =>
      have harmless := sent.harmless
      obtain ⟨valid, allowed, quiet, queued⟩ := sent
      obtain ⟨count, status, attempt, whole⟩ :=
        TileSendAttempt.whole_iff.mp queued
      obtain ⟨ids, collected⟩ := Option.isSome_iff_exists.mp valid
      have goesOn : (q.processResult now framebufferGeneration batch region
          (.encoded encodedTile)).2 = .nextResult := by
        simp only [processResult, collected, current.not_stale collected,
          allowed, sendResult, attempt, sendTilePayload, whole,
          Bool.false_eq_true, Bool.not_true, if_true, if_false]
      refine ⟨?_, goesOn⟩
      refine (processResult_of_harmless harmless).resolve_left fun stopped => ?_
      rw [goesOn] at stopped
      contradiction

theorem processResults_of_sent (now region : Nat) {results : List QueueResult}
    (sent : ∀ result ∈ results, result.Sent q.geometry)
    (current : q.Current batch framebufferGeneration) :
    QuietActs q (processResults now framebufferGeneration batch region q
        results).1 ∧
      (processResults now framebufferGeneration batch region q results).2 =
        false := by
  induction results generalizing q with
  | nil => exact ⟨.refl, rfl⟩
  | cons result rest ih =>
      have first : QuietActs q (q.processResult now framebufferGeneration batch
          region result).1 ∧ (q.processResult now framebufferGeneration batch
            region result).2 = .nextResult :=
        processResult_of_sent now region (sent result List.mem_cons_self) current
      unfold processResults
      revert first
      generalize q.processResult now framebufferGeneration batch region result =
        outcome
      rintro ⟨quiet, goesOn⟩
      obtain ⟨next, control⟩ := outcome
      dsimp only at quiet goesOn
      subst goesOn
      have settled := Settled.acts quiet
      have others := ih (q := next)
        (fun other member => settled.geometry ▸
          sent other (List.mem_cons_of_mem _ member))
        (current.settled settled)
      exact ⟨quiet.trans others.1, others.2⟩

end TileQueues

namespace SendState

/-- Every result of a job is sent, and its first covers a tile of the job. -/
def JobSucceeds (q : TileQueues) (choice : PassChoice) : PassPhase → Prop
  | .closed => True
  | .sending _ none => True
  | .sending _ (some batch) =>
      batch.remaining = [] ∨
        (∀ result ∈ jobResults choice.results, result.Sent q.geometry) ∧
          q.StartsWell batch (jobResults choice.results)

structure Succeeds (s : SendState) (choice : PassChoice) : Prop where
  budget : choice.budget = true
  started : choice.started = true
  job : JobSucceeds s.queues choice s.phase

variable {s : SendState} {choice : PassChoice}

theorem Succeeds.productive (succeeds : s.Succeeds choice) :
    s.Productive choice := by
  have job := succeeds.job
  unfold Productive
  generalize s.phase = phase at job ⊢
  match phase with
  | .closed => trivial
  | .sending _ none => trivial
  | .sending _ (some _) =>
      exact job.imp_right fun good =>
        .inr ⟨fun result member => (good.1 result member).harmless, good.2⟩

def Emptied (q : TileQueues) : SendStage → Prop
  | .earlyRepairs => True
  | .fresh => True
  | .repairs => q.scheduler.count = 0
  | .closing => q.scheduler.count = 0 ∧ q.retransmitQueue = []

/-- Between batches the stage may start one; in a batch nothing has stopped. -/
def Unhindered (s : SendState) : PassPhase → Prop
  | .closed => s.queues.queuesEmpty = true
  | .sending stage none => Emptied s.queues stage
  | .sending stage (some batch) =>
      stage.source = some batch.source ∧ batch.stopSending = false ∧
        s.queues.Current batch s.framebufferGeneration ∧
        Emptied s.queues stage

/-- A pass that started with `policy`, in which everything has been sent. -/
structure Draining (policy : StreamPolicy) (framebufferGeneration : Nat)
    (s : SendState) : Prop where
  consistent : s.Consistent
  answerable : s.queues.Answerable
  framebuffer : s.framebufferGeneration = framebufferGeneration
  unhindered : Unhindered s s.phase
  policy : s.policy = if s.phase = .closed then
    policy.closePass framebufferGeneration true else policy

namespace Draining

variable {policy : StreamPolicy} {framebufferGeneration : Nat}
  {stage : SendStage} {batch : QueueBatch}

theorem policy_eq (draining : s.Draining policy framebufferGeneration)
    (busy : s.phase ≠ .closed) : s.policy = policy := by
  rw [draining.policy, if_neg busy]

theorem next {after : SendState}
    (draining : s.Draining policy framebufferGeneration)
    (busy : s.phase ≠ .closed) (consistent : after.Consistent)
    (settled : TileQueues.Settled s.queues after.queues)
    (same : after.policy = s.policy ∧
      after.framebufferGeneration = s.framebufferGeneration)
    (goesOn : after.phase ≠ .closed) (unhindered : Unhindered after after.phase) :
    after.Draining policy framebufferGeneration where
  consistent
  answerable := draining.answerable.settled settled
  framebuffer := same.2.trans draining.framebuffer
  unhindered
  policy := by rw [if_neg goesOn, same.1, draining.policy_eq busy]

theorem emptied_fresh (tiles : s.videoOwnsDisplay = false)
    (count : s.queues.scheduler.count = 0) :
    Emptied s.queues (s.nextStage .fresh) := by
  rw [nextStage, tiles, if_neg Bool.false_ne_true]
  exact count

theorem emptied_next (tiles : s.videoOwnsDisplay = false)
    (before : Emptied s.queues stage)
    (fresh : stage = .fresh → s.queues.scheduler.count = 0)
    (repairs : stage = .repairs → s.queues.retransmitQueue = []) :
    Emptied s.queues (s.nextStage stage) := by
  cases stage with
  | earlyRepairs => trivial
  | fresh => exact emptied_fresh tiles (fresh rfl)
  | repairs => exact ⟨before, repairs rfl⟩
  | closing => exact before

theorem consistent_between (draining : s.Draining policy framebufferGeneration)
    (head : s.phase = .sending stage none) : s.queues.Consistent [] := by
  have held := draining.consistent
  rw [SendState.Consistent, takenRegions, head] at held
  exact held

theorem emptied_between (draining : s.Draining policy framebufferGeneration)
    (head : s.phase = .sending stage none) : Emptied s.queues stage := by
  have held := draining.unhindered
  rw [head] at held
  exact held

theorem beginFresh (draining : s.Draining policy framebufferGeneration)
    (head : s.phase = .sending .fresh none)
    (tiles : s.videoOwnsDisplay = false) (succeeds : s.Succeeds choice) :
    (s.beginFresh .fresh choice).Draining policy framebufferGeneration := by
  have busy : s.phase ≠ .closed := head ▸ sending_ne_closed _ _
  have between := draining.consistent_between head
  have consistent := Consistent.beginFresh between .fresh choice
  unfold SendState.beginFresh at consistent ⊢
  rw [succeeds.budget] at consistent ⊢
  split_ifs at consistent ⊢ with none
  · have count : s.queues.scheduler.count = 0 := by simpa using none
    exact draining.next busy consistent (.refl _) ⟨rfl, rfl⟩ (sending_ne_closed _ _)
      (emptied_fresh tiles count)
  · have queued : 0 < s.queues.scheduler.count := by
      simp only [Bool.not_true, Bool.false_eq_true, or_false] at none
      exact Nat.pos_of_ne_zero none
    have frame := s.queues.takeRegions_frame choice.now
      s.queues.scheduler.count
      (encodeBatchCapacity s.queues.scheduler.count choice.workers)
    have settled := TileQueues.Settled.of_tiles frame.geometry frame.tiles
    unfold submitFresh at consistent ⊢
    rw [succeeds.started] at consistent ⊢
    split_ifs at consistent ⊢ with empty
    · obtain ⟨capacity, positive⟩ := Nat.exists_eq_succ_of_ne_zero
        (Nat.pos_iff_ne_zero.mp (encodeBatchCapacity_pos queued choice.workers))
      rw [List.isEmpty_iff] at empty
      have count : (s.queues.takeRegions choice.now s.queues.scheduler.count
          (encodeBatchCapacity s.queues.scheduler.count
            choice.workers)).1.scheduler.count = 0 := by
        rw [positive] at empty ⊢
        exact between.takeRegions_empty (Nat.le_refl _) empty
      exact draining.next busy consistent settled ⟨rfl, rfl⟩ (sending_ne_closed _ _)
        (emptied_fresh tiles count)
    · contradiction
    · exact draining.next busy consistent settled ⟨rfl, rfl⟩ (sending_ne_closed _ _)
        ⟨rfl, rfl, ⟨rfl, fun _ => rfl⟩, trivial⟩

theorem beginRepairs (draining : s.Draining policy framebufferGeneration)
    (head : s.phase = .sending stage none)
    (works : stage.source = some .retransmit)
    (tiles : s.videoOwnsDisplay = false) (succeeds : s.Succeeds choice) :
    (s.beginRepairs stage choice).Draining policy framebufferGeneration := by
  have busy : s.phase ≠ .closed := head ▸ sending_ne_closed _ _
  have between := draining.consistent_between head
  have emptied := draining.emptied_between head
  have notFresh : stage ≠ .fresh := by
    rintro rfl
    contradiction
  have consistent := Consistent.beginRepairs between stage choice
  have settled : TileQueues.Settled s.queues
      s.queues.collectRepairs.1.compactRetransmitQueue :=
    (TileQueues.Settled.acts s.queues.collectRepairs_quiet).trans
      (.of_tiles rfl rfl)
  have kept : Emptied s.queues.collectRepairs.1.compactRetransmitQueue
      stage := by
    cases stage with
    | earlyRepairs => trivial
    | fresh => contradiction
    | repairs =>
        exact ((TileQueues.Idle.mk between emptied).acts
          s.queues.collectRepairs_quiet).count
    | closing => contradiction
  unfold SendState.beginRepairs at consistent ⊢
  rw [succeeds.budget, Bool.not_true, Bool.or_false] at consistent ⊢
  split_ifs at consistent ⊢ with none
  · rw [List.isEmpty_iff] at none
    exact draining.next busy consistent (.refl _) ⟨rfl, rfl⟩ (sending_ne_closed _ _)
      (emptied_next tiles emptied (fun fresh => absurd fresh notFresh)
        fun _ => none)
  · unfold submitRepairs at consistent ⊢
    rw [succeeds.started] at consistent ⊢
    dsimp only at consistent ⊢
    split_ifs at consistent ⊢ with noJobs
    · rw [List.isEmpty_iff] at noJobs
      refine draining.next busy consistent settled ⟨rfl, rfl⟩
        (sending_ne_closed _ _)
        (emptied_next tiles kept (fun fresh => absurd fresh notFresh)
          fun repairs => ?_)
      rw [repairs] at emptied
      exact TileQueues.compact_eq_nil ⟨between, emptied⟩ draining.answerable
        noJobs
    · contradiction
    · exact draining.next busy consistent settled ⟨rfl, rfl⟩ (sending_ne_closed _ _)
        ⟨works, rfl, ⟨rfl, fun _ => rfl⟩, kept⟩

theorem emptied_acts (consistent : s.queues.Consistent (freshRegions batch))
    (works : stage.source = some batch.source)
    (emptied : Emptied s.queues stage) {queues : TileQueues}
    (quiet : TileQueues.QuietActs s.queues queues) :
    Emptied queues stage := by
  cases stage with
  | earlyRepairs => trivial
  | fresh => trivial
  | repairs =>
      have source : batch.source = .retransmit := (Option.some.inj works).symm
      rw [freshRegions, source] at consistent
      exact ((TileQueues.Idle.mk consistent emptied).acts quiet).count
  | closing => contradiction

theorem completeJob (draining : s.Draining policy framebufferGeneration)
    (running : s.phase = .sending stage (some batch)) {region : Nat}
    (member : region ∈ batch.remaining) (succeeds : s.Succeeds choice) :
    (s.completeJob stage batch region choice).Draining policy
      framebufferGeneration := by
  have busy : s.phase ≠ .closed := running ▸ sending_ne_closed _ _
  have held := draining.consistent
  have unhindered := draining.unhindered
  have job := succeeds.job
  rw [SendState.Consistent, takenRegions, running] at held
  rw [running] at unhindered job
  obtain ⟨works, goesOn, current, emptied⟩ := unhindered
  obtain ⟨sent, -⟩ := job.resolve_left (List.ne_nil_of_mem member)
  have consistent := Consistent.completeJob held stage region choice
  obtain ⟨quiet, stop⟩ :=
    TileQueues.processResults_of_sent choice.now region sent current
  have settled := TileQueues.Settled.acts quiet
  unfold SendState.completeJob at consistent ⊢
  rw [goesOn, if_neg Bool.false_ne_true] at consistent ⊢
  have after := current.settled settled
  exact draining.next busy consistent settled ⟨rfl, rfl⟩ (sending_ne_closed _ _)
    ⟨works, stop, ⟨after.framebuffer, after.epochs⟩,
      emptied_acts held works emptied quiet⟩

theorem endBatch (draining : s.Draining policy framebufferGeneration)
    (running : s.phase = .sending stage (some batch)) (now : Nat) :
    (s.endBatch stage batch now).Draining policy framebufferGeneration := by
  have busy : s.phase ≠ .closed := running ▸ sending_ne_closed _ _
  have held := draining.consistent
  have unhindered := draining.unhindered
  rw [SendState.Consistent, takenRegions, running] at held
  rw [running] at unhindered
  obtain ⟨works, goesOn, -, emptied⟩ := unhindered
  have consistent := Consistent.endBatch held stage now
  have kept : Emptied (s.afterBatch batch now) stage := by
    cases stage with
    | earlyRepairs => trivial
    | fresh => trivial
    | repairs =>
        have source : batch.source = .retransmit :=
          (Option.some.inj works).symm
        rw [afterBatch, source]
        exact emptied
    | closing => contradiction
  unfold SendState.endBatch at consistent ⊢
  dsimp only at consistent ⊢
  rw [goesOn, if_neg Bool.false_ne_true] at consistent ⊢
  exact draining.next busy consistent (afterBatch_settled s batch now)
    ⟨rfl, rfl⟩ (sending_ne_closed _ _) kept

theorem closePass (draining : s.Draining policy framebufferGeneration)
    (head : s.phase = .sending .closing none) :
    s.closePass.Draining policy framebufferGeneration := by
  have busy : s.phase ≠ .closed := head ▸ sending_ne_closed _ _
  have between := draining.consistent_between head
  obtain ⟨count, list⟩ := draining.emptied_between head
  have clean := (TileQueues.Idle.mk between count).dirtyQueueCount
  have empty : s.queues.queuesEmpty = true := by
    rw [TileQueues.queuesEmpty, clean, count, list]
    rfl
  refine ⟨between, draining.answerable, draining.framebuffer, empty, ?_⟩
  change s.policy.closePass s.framebufferGeneration s.queues.queuesEmpty = _
  rw [empty, draining.policy_eq busy, draining.framebuffer]
  rfl

theorem passStep (draining : s.Draining policy framebufferGeneration)
    (tiles : policy.streamMode.videoOwnsDisplay = false)
    (succeeds : s.Succeeds choice) :
    (s.passStep choice).Draining policy framebufferGeneration := by
  cases phase : s.phase with
  | closed =>
      rw [SendState.passStep, phase]
      exact draining
  | sending stage batch =>
      have owned : s.videoOwnsDisplay = false := by
        rw [videoOwnsDisplay,
          draining.policy_eq (phase ▸ sending_ne_closed _ _)]
        exact tiles
      cases batch with
      | none =>
          cases stage with
          | earlyRepairs =>
              rw [SendState.passStep, phase]
              exact draining.beginRepairs phase rfl owned succeeds
          | fresh =>
              rw [SendState.passStep, phase]
              exact draining.beginFresh phase owned succeeds
          | repairs =>
              rw [SendState.passStep, phase]
              exact draining.beginRepairs phase rfl owned succeeds
          | closing =>
              rw [SendState.passStep, phase]
              exact draining.closePass phase
      | some batch =>
          rcases passStep_batch phase choice with
            ⟨-, exceeds⟩ | ⟨region, member, next⟩
          · rw [exceeds]
            exact draining.endBatch phase choice.now
          · rw [next]
            exact draining.completeJob phase member succeeds

theorem passRun {choices : Nat → PassChoice}
    (draining : s.Draining policy framebufferGeneration)
    (tiles : policy.streamMode.videoOwnsDisplay = false)
    (succeeds : ∀ n, (s.passRun choices n).Succeeds (choices n)) (n : Nat) :
    (s.passRun choices n).Draining policy framebufferGeneration := by
  induction n with
  | zero => exact draining
  | succ n ih => exact ih.passStep tiles (succeeds n)

end Draining

end SendState

/-! ## What waits for empty queues -/

namespace StreamPolicy

variable {policy : StreamPolicy} {framebufferGeneration : Nat}

theorem noteBootstrapSent_recovery (policy : StreamPolicy) (empty : Bool) :
    (policy.noteBootstrapSent empty).tileRecoveryRefreshSent =
      policy.tileRecoveryRefreshSent := by
  unfold noteBootstrapSent
  split_ifs <;> rfl

theorem noteBootstrapSent_sent
    (waits : policy.videoBootstrapPending = true ∧
      policy.videoBootstrapRefreshStarted = true) :
    (policy.noteBootstrapSent true).videoBootstrapRefreshSent = true := by
  unfold noteBootstrapSent
  split_ifs with unsent
  · rfl
  · simpa [waits.1, waits.2] using unsent

theorem closePass_recovery (mode : policy.streamMode = .tileRecovery)
    (started : policy.tileRecoveryRefreshStarted = true)
    (some : policy.tileRecoveryFramebufferGeneration ≠ 0)
    (same : policy.tileRecoveryFramebufferGeneration =
      framebufferGeneration) :
    (policy.closePass framebufferGeneration true).tileRecoveryRefreshSent =
      true := by
  unfold closePass recoveryGeneration tileRecoveryGenerationDecide
  rw [if_pos mode, started, same]
  rw [same] at some
  cases sent : policy.tileRecoveryRefreshSent with
  | false =>
      simp only [Bool.not_true, Bool.false_eq_true, some, or_self, ne_eq,
        not_true_eq_false, if_true, if_false]
      rw [noteBootstrapSent_recovery]
      rfl
  | true =>
      simp only [Bool.not_true, Bool.false_eq_true, or_true, true_or, if_true]
      rw [noteBootstrapSent_recovery, sent]

theorem closePass_bootstrap (framebufferGeneration : Nat)
    (waits : policy.videoBootstrapPending = true ∧
      policy.videoBootstrapRefreshStarted = true) :
    (policy.closePass framebufferGeneration true).videoBootstrapRefreshSent =
      true := by
  unfold closePass
  split
  · exact noteBootstrapSent_sent waits
  · exact noteBootstrapSent_sent waits
  · exact noteBootstrapSent_sent waits

end StreamPolicy

namespace SendState

theorem openPass_closed {s : SendState} (closed : s.phase = .closed)
    (tiles : s.videoOwnsDisplay = false) (clientLoss : Bool) :
    ∃ stage : SendStage, (stage = .earlyRepairs ∨ stage = .fresh) ∧
      s.openPass clientLoss = s.withPhase (.sending stage none) := by
  rw [openPass, closed, tiles]
  simp only [Bool.false_eq_true, if_false]
  split_ifs
  · exact ⟨.earlyRepairs, .inl rfl, rfl⟩
  · exact ⟨.fresh, .inr rfl, rfl⟩

/--
A pass in which everything is sent ends with all queues empty and marks the
refresh of a recovery or a bootstrap as sent, if every request is for a
generation its tile has reached.
-/
theorem pass_drains (geometry : Geometry) (policy : StreamPolicy)
    (framebufferGeneration : Nat) (events : List SendEvent) (clientLoss : Bool)
    (choices : Nat → PassChoice) :
    let s := sendRun (init geometry policy framebufferGeneration) events
    let pass := (s.openPass clientLoss).passRun choices
    s.phase = .closed → s.videoOwnsDisplay = false → s.queues.Answerable →
    (∀ n, (pass n).Succeeds (choices n)) →
    ∃ n, (pass n).phase = .closed ∧ 0 < n ∧
      (pass n).queues.dirtyQueueCount = 0 ∧
      (pass n).queues.scheduler.count = 0 ∧
      (pass n).queues.retransmitQueue = [] ∧
      (s.policy.streamMode = .tileRecovery →
        s.policy.tileRecoveryRefreshStarted = true →
        s.policy.tileRecoveryFramebufferGeneration ≠ 0 →
        s.policy.tileRecoveryFramebufferGeneration = s.framebufferGeneration →
        (pass n).policy.tileRecoveryRefreshSent = true) ∧
      (s.policy.videoBootstrapPending = true →
        s.policy.videoBootstrapRefreshStarted = true →
        (pass n).policy.videoBootstrapRefreshSent = true) := by
  intro s pass closed tiles answerable succeeds
  have consistent : s.queues.Consistent [] := by
    have held : s.Consistent :=
      consistent_sendRun geometry policy framebufferGeneration events
    rw [SendState.Consistent, takenRegions, closed] at held
    exact held
  obtain ⟨stage, early, opened⟩ := openPass_closed closed tiles clientLoss
  have start : (s.openPass clientLoss).Draining s.policy
      s.framebufferGeneration := by
    rw [opened]
    refine ⟨consistent, answerable, rfl, ?_, rfl⟩
    rcases early with rfl | rfl <;> trivial
  obtain ⟨n, ended⟩ := pass_ends (s.openPass clientLoss) choices 0
    fun n _ => (succeeds n).productive
  have drained := start.passRun tiles succeeds n
  have positive : 0 < n := by
    refine Nat.pos_of_ne_zero fun zero => ?_
    rw [zero] at ended
    change (s.openPass clientLoss).phase = .closed at ended
    rw [opened] at ended
    contradiction
  have empty := drained.unhindered
  have policyEq := drained.policy
  rw [ended] at empty
  rw [if_pos ended] at policyEq
  simp only [Unhindered, TileQueues.queuesEmpty, Bool.and_eq_true, beq_iff_eq,
    List.isEmpty_iff] at empty
  refine ⟨n, ended, positive, empty.1.1, empty.1.2, empty.2, ?_, ?_⟩
  · intro mode started some same
    change ((s.openPass clientLoss).passRun choices n).policy.tileRecoveryRefreshSent
      = true
    rw [policyEq]
    exact StreamPolicy.closePass_recovery mode started some same
  · intro pending started
    change ((s.openPass clientLoss).passRun choices
      n).policy.videoBootstrapRefreshSent = true
    rw [policyEq]
    exact StreamPolicy.closePass_bootstrap _ ⟨pending, started⟩

/-! ## Two passes of a recovery -/

def recoveringPolicy : StreamPolicy :=
  { StreamPolicy.defaults with
    streamMode := .tileRecovery
    tileRecoveryRefreshStarted := true
    tileRecoveryFramebufferGeneration := 1 }

def sendPair : PassChoice where
  budget := true
  workers := 1
  started := true
  job := 0
  results := [.encoded
    { tile := ⟨.tile128x64, 0⟩
      allowed := true
      attempt := .packets 1 fun _ => .queued
      failedDeliveries := [] }]
  now := 1

/-- Both tiles have been sent; one is damaged again, the other is asked for. -/
def repairAndDamage : List SendEvent :=
  [.damage [0, 1] 1, .openPass false] ++
    List.replicate 6 (.pass sendPair) ++
    [.setPolicy recoveringPolicy, .requestRepairs [(0, 1)], .damage [1] 1]

instance (s : SendState) (choice : PassChoice) :
    Decidable (JobSucceeds s.queues choice s.phase) :=
  match s.phase with
  | .closed => isTrue trivial
  | .sending _ none => isTrue trivial
  | .sending _ (some batch) =>
      inferInstanceAs (Decidable (batch.remaining = [] ∨
        (∀ result ∈ jobResults choice.results,
          result.Sent s.queues.geometry) ∧
          s.queues.StartsWell batch (jobResults choice.results)))

instance (s : SendState) (choice : PassChoice) :
    Decidable (s.Succeeds choice) :=
  decidable_of_iff (choice.budget = true ∧ choice.started = true ∧
      JobSucceeds s.queues choice s.phase)
    ⟨fun ⟨budget, started, job⟩ => ⟨budget, started, job⟩,
      fun succeeds => ⟨succeeds.budget, succeeds.started, succeeds.job⟩⟩

instance (q : TileQueues) : Decidable q.Answerable :=
  inferInstanceAs (Decidable (∀ tileId < q.geometry.totalTiles,
    q.repairFlags tileId = true →
      (q.tiles tileId).retransmitRequestedGeneration ≤
        (q.tiles tileId).generation))

theorem succeeds_of_closed {s : SendState} {choices : Nat → PassChoice}
    {last : Nat} (closed : (s.passRun choices last).phase = .closed)
    (ready : ∀ n, (choices n).budget = true ∧ (choices n).started = true)
    (early : ∀ n < last, (s.passRun choices n).Succeeds (choices n)) (n : Nat) :
    (s.passRun choices n).Succeeds (choices n) := by
  by_cases soon : n < last
  · exact early n soon
  · refine ⟨(ready n).1, (ready n).2, ?_⟩
    rw [passRun_closed closed (Nat.le_of_not_lt soon), closed]
    trivial

theorem pass_drains_repairAndDamage :
    (sendRun (init tilePair .defaults 1) repairAndDamage).queues.dirtyQueueCount
        = 1 ∧
      (sendRun (init tilePair .defaults 1)
        repairAndDamage).queues.retransmitQueue = [0] ∧
      ∃ n, (((sendRun (init tilePair .defaults 1) repairAndDamage).openPass
        true).passRun (fun _ => sendPair) n).policy.tileRecoveryRefreshSent =
          true := by
  have closed : (((sendRun (init tilePair .defaults 1) repairAndDamage).openPass
      true).passRun (fun _ => sendPair) 9).phase = .closed := by decide +kernel
  have early : ∀ n < 9, (((sendRun (init tilePair .defaults 1)
      repairAndDamage).openPass true).passRun (fun _ => sendPair) n).Succeeds
        sendPair := by decide +kernel
  obtain ⟨n, -, -, -, -, -, recovery, -⟩ := pass_drains tilePair .defaults 1
    repairAndDamage true (fun _ => sendPair) (by decide +kernel)
    (by decide +kernel) (by decide +kernel)
    (succeeds_of_closed closed (fun _ => ⟨rfl, rfl⟩) early)
  exact ⟨by decide +kernel, by decide +kernel, n, recovery (by decide +kernel)
    (by decide +kernel) (by decide +kernel) (by decide +kernel)⟩

/-- A request for a generation its tile has not reached outlives the pass, and
the recovery goes on waiting. -/
theorem early_request_outlives_pass :
    let s := sendRun (init singleTile recoveringPolicy 1)
      [.requestRepairs [(0, 5)]]
    let pass := (s.openPass false).passRun fun _ => sendTile 0 .queued
    s.phase = .closed ∧ s.videoOwnsDisplay = false ∧
      (∀ n, (pass n).Succeeds (sendTile 0 .queued)) ∧
      ∀ n ≥ 3, (pass n).phase = .closed ∧
        (pass n).queues.retransmitQueue = [0] ∧
        (pass n).policy.tileRecoveryRefreshSent = false := by
  intro s pass
  have closed : (pass 3).phase = .closed := by decide +kernel
  have early : ∀ n < 3, (pass n).Succeeds (sendTile 0 .queued) := by
    decide +kernel
  refine ⟨by decide +kernel, by decide +kernel,
    succeeds_of_closed closed (fun _ => ⟨rfl, rfl⟩) early, fun n late => ?_⟩
  rw [show pass n = pass 3 from passRun_closed closed late]
  exact ⟨closed, by decide +kernel, by decide +kernel⟩

end SendState

end WayDisplay.Server
