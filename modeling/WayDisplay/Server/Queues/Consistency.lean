import WayDisplay.Server.Queues.Acts

/-!
No dirty tile is forgotten by the scheduler.

The region of every dirty tile is queued, or was taken by the batch in progress.
Taking a region moves it from one side to the other, and at the end of a batch
each of its regions goes back unless it is clean.
-/

namespace WayDisplay.Server

open Common Foundation

namespace TileQueues

def dirtyFlags (q : TileQueues) (tileId : Nat) : Bool :=
  (q.tiles tileId).dirtyQueued

structure Consistent (q : TileQueues) (taken : List Nat) : Prop where
  sound : q.scheduler.Sound
  capacity : q.scheduler.capacity = q.geometry.totalRegions
  counted : q.dirtyQueueCount =
    (List.range q.geometry.totalTiles).countP q.dirtyFlags
  scheduled : ∀ tileId region,
    q.geometry.topRegionForBaseTile tileId = some region →
    q.dirtyFlags tileId = true →
    q.scheduler.queued region = true ∨ region ∈ taken

variable {q : TileQueues} {taken : List Nat} {tileId region now : Nat}

theorem consistent_of_clean (sound : q.scheduler.Sound)
    (capacity : q.scheduler.capacity = q.geometry.totalRegions)
    (count : q.dirtyQueueCount = 0)
    (clean : ∀ tileId, q.dirtyFlags tileId = false) : q.Consistent taken where
  sound := sound
  capacity := capacity
  counted := by
    rw [count, eq_comm, List.countP_eq_zero]
    intro tileId _
    rw [clean tileId]
    exact Bool.false_ne_true
  scheduled := fun tileId _ _ dirty => by
    rw [clean tileId] at dirty
    contradiction

theorem consistent_init (geometry : Geometry) :
    (init geometry).Consistent [] :=
  consistent_of_clean (DirtyRegionScheduler.sound_create _ _) rfl rfl
    fun _ => rfl

theorem consistent_collapse (consistent : q.Consistent taken)
    (more : List Nat) : q.collapseTileQueues.Consistent more :=
  consistent_of_clean (DirtyRegionScheduler.sound_reset _) consistent.capacity
    rfl fun _ => rfl

namespace Consistent

theorem mono {more : List Nat} (consistent : q.Consistent taken)
    (subset : taken ⊆ more) : q.Consistent more :=
  { consistent with
    scheduled := fun tileId region found dirty =>
      (consistent.scheduled tileId region found dirty).imp_right
        fun member => subset member }

theorem congr {q' : TileQueues} (consistent : q.Consistent taken)
    (geometry : q'.geometry = q.geometry)
    (flags : q'.dirtyFlags = q.dirtyFlags)
    (count : q'.dirtyQueueCount = q.dirtyQueueCount)
    (scheduler : q'.scheduler = q.scheduler) : q'.Consistent taken where
  sound := scheduler ▸ consistent.sound
  capacity := by rw [scheduler, geometry, consistent.capacity]
  counted := by rw [count, geometry, flags, consistent.counted]
  scheduled := by
    rw [geometry, flags, scheduler]
    exact consistent.scheduled

theorem updateTile {update : TileState → TileState}
    (consistent : q.Consistent taken)
    (same : (update (q.tiles tileId)).dirtyQueued =
      (q.tiles tileId).dirtyQueued) :
    (q.updateTile tileId update).Consistent taken := by
  refine consistent.congr rfl ?_ rfl rfl
  funext other
  rw [dirtyFlags, updateTile_tiles]
  split_ifs with found
  · rw [found, same]
    rfl
  · rfl

theorem not_dirty_of_clean (q : TileQueues)
    (clean : q.topRegionStillDirty region = false)
    (found : q.geometry.topRegionForBaseTile tileId = some region) :
    q.dirtyFlags tileId = false := by
  have inGrid := Geometry.topRegionForBaseTile_lt found
  have valid := (Geometry.topRegionForBaseTile_eq_some.mp found).1
  rw [topRegionStillDirty, List.any_eq_false] at clean
  have settled := clean tileId ((Geometry.mem_regionBaseIds inGrid).mpr found)
  simpa [valid, dirtyFlags] using settled

theorem drop_clean (consistent : q.Consistent (region :: taken))
    (clean : q.topRegionStillDirty region = false) : q.Consistent taken :=
  { consistent with
    scheduled := fun tileId other found dirty => by
      rcases consistent.scheduled tileId other found dirty with queued | member
      · exact .inl queued
      · rcases List.mem_cons.mp member with rfl | member
        · rw [not_dirty_of_clean q clean found] at dirty
          contradiction
        · exact .inr member }

theorem forget (consistent : q.Consistent taken)
    (clean : q.topRegionStillDirty region = false) :
    (q.withScheduler (q.scheduler.forget region)).Consistent taken where
  sound := consistent.sound.forget region
  capacity := by
    rw [withScheduler, DirtyRegionScheduler.forget_capacity]
    exact consistent.capacity
  counted := consistent.counted
  scheduled := fun tileId other found dirty => by
    refine (consistent.scheduled tileId other found dirty).imp_left
      fun queued => ?_
    have apart : other ≠ region := by
      rintro rfl
      have settled := not_dirty_of_clean q clean found
      exact absurd dirty (by rw [← Bool.not_eq_true] at settled; exact settled)
    change (q.scheduler.forget region).queued other = true
    rw [consistent.sound.forget_queued, queued]
    simpa using apart

theorem enqueue (consistent : q.Consistent (region :: taken))
    (inGrid : region < q.geometry.totalRegions) :
    (q.withScheduler (q.scheduler.enqueue region now true).1).Consistent
      taken where
  sound := consistent.sound.enqueue region now
  capacity := by
    rw [withScheduler, DirtyRegionScheduler.enqueue_capacity]
    exact consistent.capacity
  counted := consistent.counted
  scheduled := fun tileId other found dirty => by
    change (q.scheduler.enqueue region now true).1.queued other = true ∨ _
    rw [DirtyRegionScheduler.enqueue_queued, consistent.capacity,
      decide_eq_true inGrid, Bool.true_and, Bool.or_eq_true, beq_iff_eq]
    rcases consistent.scheduled tileId other found dirty with queued | member
    · exact .inl (.inl queued)
    · rcases List.mem_cons.mp member with same | member
      · exact .inl (.inr same)
      · exact .inr member

theorem markDirtyTopRegion (consistent : q.Consistent (region :: taken))
    (found : q.geometry.topRegionForBaseTile tileId = some region) :
    (q.markDirtyTopRegion tileId now).Consistent taken := by
  unfold TileQueues.markDirtyTopRegion
  rw [found]
  exact consistent.enqueue (Geometry.topRegionForBaseTile_lt found)

theorem requeue (consistent : q.Consistent (region :: taken)) (now : Nat) :
    (q.requeueDirtyTopRegion now region).Consistent taken := by
  unfold requeueDirtyTopRegion
  cases dirty : q.topRegionStillDirty region with
  | false => exact consistent.drop_clean dirty
  | true =>
      rw [if_neg (by simp)]
      by_cases inGrid : region < q.geometry.totalRegions
      · split
        · next empty => exact absurd empty (Geometry.regionBaseIds_ne_nil inGrid)
        · next first rest collected =>
          have member : first ∈ q.geometry.regionBaseIds region := by
            rw [collected]
            exact List.mem_cons_self
          exact consistent.markDirtyTopRegion
            ((Geometry.mem_regionBaseIds inGrid).mp member)
      · -- No tile has a region beyond the grid.
        have kept : q.Consistent taken :=
          { consistent with
            scheduled := fun tileId other found dirty => by
              refine (consistent.scheduled tileId other found
                dirty).imp_right fun member => ?_
              rcases List.mem_cons.mp member with rfl | member
              · exact absurd (Geometry.topRegionForBaseTile_lt found) inGrid
              · exact member }
        split
        · exact kept
        · next first rest collected =>
          unfold TileQueues.markDirtyTopRegion
          split
          · exact kept
          · next other found =>
            exact (kept.mono (List.subset_cons_self other taken)).enqueue
              (Geometry.topRegionForBaseTile_lt found)

theorem noteCleared (consistent : q.Consistent taken) (tileId : Nat) :
    (q.dirtyQueueNoteCleared tileId).Consistent taken := by
  unfold dirtyQueueNoteCleared
  split_ifs with skipped
  · exact consistent
  · rw [not_or, Nat.not_le, Bool.not_eq_true', Bool.not_eq_false] at skipped
    obtain ⟨inside, dirty⟩ := skipped
    have flags : (q.updateTile tileId .clean).dirtyFlags =
        Function.update q.dirtyFlags tileId false := by
      funext other
      rw [dirtyFlags, updateTile_tiles, Function.update_apply]
      split_ifs
      · rfl
      · rfl
    refine ⟨consistent.sound, consistent.capacity, ?_, ?_⟩
    · change q.dirtyQueueCount - 1 =
        (List.range q.geometry.totalTiles).countP
          (q.updateTile tileId .clean).dirtyFlags
      have set : q.dirtyFlags tileId = true := dirty
      have fewer := countP_range_clear inside set
      rw [flags, consistent.counted]
      omega
    · intro other region found marked
      change (q.updateTile tileId .clean).dirtyFlags other = true at marked
      rw [flags, Function.update_apply] at marked
      split_ifs at marked
      exact consistent.scheduled other region found marked

theorem supersede (consistent : q.Consistent taken)
    (inside : tileId < q.geometry.totalTiles)
    (clean : (q.tiles tileId).dirtyQueued = false)
    (found : q.geometry.topRegionForBaseTile tileId = some region) :
    ((q.updateTile tileId .supersede).withDirtyQueueCount
      (q.dirtyQueueCount + 1)).Consistent (region :: taken) := by
  have flags : (q.updateTile tileId .supersede).dirtyFlags =
      Function.update q.dirtyFlags tileId true := by
    funext other
    rw [dirtyFlags, updateTile_tiles, Function.update_apply]
    split_ifs
    · rfl
    · rfl
  refine ⟨consistent.sound, consistent.capacity, ?_, ?_⟩
  · change q.dirtyQueueCount + 1 = (List.range q.geometry.totalTiles).countP
      (q.updateTile tileId .supersede).dirtyFlags
    have clear : q.dirtyFlags tileId = false := clean
    rw [flags, countP_range_set inside clear, consistent.counted]
  · intro other place foundOther marked
    change (q.updateTile tileId .supersede).dirtyFlags other = true at marked
    rw [flags, Function.update_apply] at marked
    split_ifs at marked with same
    · subst same
      have equal : place = region := by
        change q.geometry.topRegionForBaseTile other = some place at foundOther
        rw [found, Option.some.injEq] at foundOther
        exact foundOther.symm
      exact .inr (equal ▸ List.mem_cons_self)
    · exact (consistent.scheduled other place foundOther marked).imp_right
        (List.mem_cons_of_mem _)

theorem detect (consistent : q.Consistent taken) (now tileId : Nat) :
    (q.detectOneDirtyTile now tileId).Consistent taken := by
  have stamped : (q.updateTile tileId .nextDirtyEpoch).Consistent taken :=
    consistent.updateTile rfl
  rcases q.detectOneDirtyTile_cases now tileId with
    ⟨-, same⟩ | ⟨inside, -, same⟩ | ⟨-, -, -, same⟩ | ⟨inside, clean, same⟩
  · rw [same]
    exact consistent
  · rw [same]
    have found := Geometry.topRegionForBaseTile_eq inside
    exact (stamped.mono (List.subset_cons_self _ taken)).markDirtyTopRegion found
  · rw [same]
    exact stamped
  · rw [same]
    have found := Geometry.topRegionForBaseTile_eq inside
    have clear : ((q.updateTile tileId .nextDirtyEpoch).tiles
        tileId).dirtyQueued = false := by
      rw [updateTile_tiles, if_pos rfl]
      exact clean
    exact (stamped.supersede inside clear found).markDirtyTopRegion found

theorem act {q' : TileQueues} (act : Act q q')
    (consistent : q.Consistent taken) : q'.Consistent taken := by
  cases act with
  | detect now tileId => exact consistent.detect now tileId
  | quiet act =>
      cases act with
      | settle settles => exact consistent.updateTile settles.dirty
      | clear tileId => exact consistent.noteCleared tileId
      | forget clean => exact consistent.forget clean
      | requeue now region =>
          exact (consistent.mono (List.subset_cons_self region taken)).requeue now

theorem acts {q' : TileQueues} (acts : Acts q q')
    (consistent : q.Consistent taken) : q'.Consistent taken :=
  acts.keep (fun _ _ act holds => Consistent.act act holds) consistent

/-! ### Batches -/

theorem take (consistent : q.Consistent taken)
    {scheduler : DirtyRegionScheduler} {selected : Option Nat}
    (took : q.scheduler.take q.dirtyRegionCursor now = (scheduler, selected)) :
    (q.withScheduler scheduler).Consistent (selected.toList ++ taken) := by
  rcases consistent.sound.take_cases q.dirtyRegionCursor now with
    ⟨-, same⟩ | ⟨heap, region, queued, same⟩
  · rw [same, Prod.mk.injEq] at took
    obtain ⟨rfl, rfl⟩ := took
    exact consistent
  · rw [same, Prod.mk.injEq] at took
    obtain ⟨rfl, rfl⟩ := took
    have kept : { q.scheduler with heap := heap }.Sound :=
      ⟨consistent.sound.counted, consistent.sound.bits, consistent.sound.inside⟩
    refine ⟨kept.unqueue queued, consistent.capacity, consistent.counted, ?_⟩
    intro tileId other found dirty
    change ({ q.scheduler with heap := heap }.unqueue region).queued other =
      true ∨ other ∈ region :: taken
    rw [DirtyRegionScheduler.unqueue_queued, Bool.and_eq_true, bne_iff_ne]
    rcases consistent.scheduled tileId other found dirty with held | member
    · by_cases same : other = region
      · exact .inr (same ▸ List.mem_cons_self)
      · exact .inl ⟨held, same⟩
    · exact .inr (List.mem_cons_of_mem _ member)

theorem canInitEncodeJob_of_dirty (q : TileQueues)
    (dirty : q.topRegionStillDirty region = true) :
    q.canInitEncodeJob region = true := by
  unfold canInitEncodeJob
  rw [topRegionStillDirty, Geometry.regionBaseIds] at dirty
  cases collected : q.geometry.collectWireTileBaseIds ⟨.tile128x64, region⟩ with
  | none => simp [collected] at dirty
  | some ids => rfl

theorem takeRegions (consistent : q.Consistent taken) (now fuel capacity : Nat) :
    (q.takeRegions now fuel capacity).1.Consistent
      ((q.takeRegions now fuel capacity).2 ++ taken) := by
  induction fuel generalizing q taken capacity with
  | zero => exact consistent
  | succ fuel ih =>
      cases capacity with
      | zero => exact consistent
      | succ capacity =>
          unfold TileQueues.takeRegions
          split
          · next took => exact consistent.take took
          · next scheduler region took =>
            have held := consistent.take took
            dsimp only
            split_ifs with clean blocked
            · rw [Bool.not_eq_true'] at clean
              have dropped : (q.withScheduler scheduler).Consistent taken :=
                held.drop_clean clean
              exact ih (dropped.forget clean) (capacity + 1)
            · rw [Bool.not_eq_true'] at blocked
              rw [canInitEncodeJob_of_dirty _ (by simpa using clean)] at blocked
              contradiction
            · have moved : { q.withScheduler scheduler with
                  dirtyRegionCursor := region }.Consistent (region :: taken) :=
                held.congr rfl rfl rfl rfl
              refine (ih moved capacity).mono ?_
              intro other member
              simp only [List.mem_append, List.mem_cons] at member ⊢
              tauto

theorem takeRegions_empty (consistent : q.Consistent []) {fuel capacity : Nat}
    (enough : q.scheduler.count ≤ fuel)
    (none : (q.takeRegions now fuel (capacity + 1)).2 = []) :
    (q.takeRegions now fuel (capacity + 1)).1.scheduler.count = 0 := by
  induction fuel generalizing q with
  | zero => exact Nat.le_zero.mp enough
  | succ fuel ih =>
      unfold TileQueues.takeRegions at none ⊢
      rcases consistent.sound.take_cases q.dirtyRegionCursor now with
        ⟨idle, took⟩ | ⟨heap, region, queued, took⟩
      · rw [took]
        exact idle
      · have held := consistent.take took
        rw [took] at none ⊢
        dsimp only at none ⊢
        split_ifs at none ⊢ with clean blocked
        · rw [Bool.not_eq_true'] at clean
          have dropped := (held.drop_clean clean).forget clean
          refine ih dropped ?_ none
          -- The region is out of the queue already when it is forgotten.
          have gone : ({ q.scheduler with heap := heap }.unqueue region).queued
              region = false := by
            rw [DirtyRegionScheduler.unqueue_queued, bne_self_eq_false,
              Bool.and_false]
          have count : (({ q.scheduler with heap := heap }.unqueue
              region).forget region).count = q.scheduler.count - 1 := by
            rw [DirtyRegionScheduler.forget, gone, if_neg Bool.false_ne_true]
            split_ifs <;> rfl
          change (({ q.scheduler with heap := heap }.unqueue
            region).forget region).count ≤ fuel
          omega
        · rw [Bool.not_eq_true'] at blocked
          rw [canInitEncodeJob_of_dirty _ (by simpa using clean)] at blocked
          contradiction

theorem clean_of_idle (consistent : q.Consistent [])
    (idle : q.scheduler.count = 0) (inside : tileId < q.geometry.totalTiles) :
    q.dirtyFlags tileId = false := by
  by_contra dirty
  rw [Bool.not_eq_false] at dirty
  have queued := (consistent.scheduled tileId _
    (Geometry.topRegionForBaseTile_eq inside) dirty).resolve_right
      List.not_mem_nil
  rw [consistent.sound.not_queued idle] at queued
  contradiction

theorem requeueAll {regions : List Nat} (consistent : q.Consistent regions)
    (now : Nat) :
    (regions.foldl (.requeueDirtyTopRegion now) q).Consistent [] := by
  induction regions generalizing q with
  | nil => exact consistent
  | cons region rest ih => exact ih (consistent.requeue now)

end Consistent

theorem collectRepair_quiet (found : TileQueues × List Nat) (tileId : Nat) :
    QuietActs found.1 (collectRepair found tileId).1 := by
  unfold collectRepair
  dsimp only
  split_ifs
  · exact .refl
  · exact .single (.settle (TileState.settles_clearRetransmitRequest _))
  · exact .refl
  · split <;> exact .refl

theorem collectRepairs_quiet (q : TileQueues) :
    QuietActs q q.collectRepairs.1 := by
  have each (items : List Nat) (found : TileQueues × List Nat) :
      QuietActs found.1 (items.foldl collectRepair found).1 := by
    induction items generalizing found with
    | nil => exact .refl
    | cons tileId rest ih =>
        exact (collectRepair_quiet found tileId).trans (ih _)
  exact each q.retransmitQueue (q, [])

namespace Consistent

theorem requestRepair (consistent : q.Consistent taken) (videoOwns : Bool)
    (entry : Nat × Nat) : (q.requestRepair videoOwns entry).Consistent taken := by
  have asked (generation : Nat) : (q.updateTile entry.1 fun tile =>
      tile.queueRetransmit generation).Consistent taken := by
    apply consistent.updateTile
    unfold TileState.queueRetransmit
    split_ifs <;> rfl
  unfold TileQueues.requestRepair queueRetransmitTile
  split_ifs
  all_goals first
    | exact consistent
    | exact asked _
    | exact (asked _).congr rfl rfl rfl rfl

end Consistent

end TileQueues

/-! ## Passes -/

namespace SendState

def freshRegions (batch : QueueBatch) : List Nat :=
  match batch.source with
  | .fresh => batch.regions
  | .retransmit => []

def takenRegions (s : SendState) : List Nat :=
  match s.phase with
  | .closed => []
  | .sending _ none => []
  | .sending _ (some batch) => freshRegions batch

def Consistent (s : SendState) : Prop := s.queues.Consistent s.takenRegions

variable {s : SendState} {stage : SendStage} {batch : QueueBatch}

theorem Consistent.beginFresh (consistent : s.queues.Consistent [])
    (stage : SendStage) (choice : PassChoice) :
    (s.beginFresh stage choice).Consistent := by
  unfold SendState.beginFresh
  split_ifs
  · exact consistent
  · have took := consistent.takeRegions choice.now s.queues.scheduler.count
      (encodeBatchCapacity s.queues.scheduler.count choice.workers)
    rw [List.append_nil] at took
    revert took
    generalize s.queues.takeRegions choice.now s.queues.scheduler.count
      (encodeBatchCapacity s.queues.scheduler.count choice.workers) = taken
    intro took
    unfold submitFresh
    split_ifs with none
    · rw [List.isEmpty_iff] at none
      rw [none] at took
      exact took
    · exact took.requeueAll choice.now
    · exact took

theorem Consistent.beginRepairs (consistent : s.queues.Consistent [])
    (stage : SendStage) (choice : PassChoice) :
    (s.beginRepairs stage choice).Consistent := by
  have collected : s.queues.collectRepairs.1.compactRetransmitQueue.Consistent
      [] :=
    (consistent.acts s.queues.collectRepairs_quiet.acts).congr rfl rfl rfl rfl
  unfold SendState.beginRepairs
  split_ifs
  · exact consistent
  · unfold submitRepairs
    dsimp only
    split_ifs
    · exact collected
    · exact collected.congr rfl rfl rfl rfl
    · exact collected

theorem Consistent.completeJob
    (consistent : s.queues.Consistent (freshRegions batch)) (stage : SendStage)
    (region : Nat) (choice : PassChoice) :
    (s.completeJob stage batch region choice).Consistent := by
  unfold SendState.completeJob
  dsimp only
  split_ifs
  · exact consistent
  · exact consistent.acts (TileQueues.processResults_acts choice.now
      s.framebufferGeneration batch region s.queues (jobResults choice.results))

theorem Consistent.endBatch
    (consistent : s.queues.Consistent (freshRegions batch)) (stage : SendStage)
    (now : Nat) : (s.endBatch stage batch now).Consistent := by
  have settled : (s.afterBatch batch now).Consistent [] := by
    unfold afterBatch
    cases source : batch.source with
    | fresh =>
        rw [freshRegions, source] at consistent
        exact consistent.requeueAll now
    | retransmit =>
        rw [freshRegions, source] at consistent
        exact consistent.congr rfl rfl rfl rfl
  unfold SendState.endBatch
  dsimp only
  split_ifs
  · exact settled
  · exact settled

theorem Consistent.passStep (consistent : s.Consistent) (choice : PassChoice) :
    (s.passStep choice).Consistent := by
  unfold SendState.passStep
  unfold SendState.Consistent takenRegions at consistent
  split
  · next phase => simpa [SendState.Consistent, takenRegions, phase] using consistent
  · next stage phase =>
    rw [phase] at consistent
    split
    · exact consistent
    · exact Consistent.beginFresh consistent stage choice
    · exact Consistent.beginRepairs consistent stage choice
  · next stage batch phase =>
    rw [phase] at consistent
    split
    · exact Consistent.completeJob consistent stage _ choice
    · split
      · exact Consistent.endBatch consistent stage choice.now
      · exact Consistent.completeJob consistent stage _ choice

theorem consistent_step (s : SendState) (event : SendEvent)
    (consistent : s.Consistent) : (s.step event).Consistent := by
  cases event with
  | openPass clientLoss =>
      change (s.openPass clientLoss).Consistent
      unfold SendState.openPass
      split
      · next closed =>
        have idle : s.queues.Consistent [] := by
          rw [SendState.Consistent, takenRegions, closed] at consistent
          exact consistent
        split_ifs
        · exact consistent
        · exact idle
        · exact idle
      · exact consistent
  | pass choice => exact consistent.passStep choice
  | damage tileIds now =>
      exact consistent.acts
        (TileQueues.acts_foldl (fun q tileId => .single (.detect now tileId)) _ _)
  | failDelivery tileIds generation now =>
      exact consistent.acts (TileQueues.redirty_acts now _ _)
  | requestRepairs entries =>
      change (entries.foldl (.requestRepair s.videoOwnsDisplay)
        s.queues).Consistent s.takenRegions
      have start : s.queues.Consistent s.takenRegions := consistent
      generalize s.queues = q at start ⊢
      induction entries generalizing q with
      | nil => exact start
      | cons entry rest ih =>
          exact ih _ (start.requestRepair s.videoOwnsDisplay entry)
  | collapse => exact TileQueues.consistent_collapse consistent _
  | startSession =>
      exact (TileQueues.consistent_collapse consistent _).congr rfl rfl rfl rfl
  | resize geometry =>
      unfold step
      dsimp only
      split
      · next closed =>
        rw [SendState.Consistent, takenRegions, closed]
        exact TileQueues.consistent_init geometry
      · exact consistent
  | setPolicy policy => exact consistent

theorem consistent_sendRun (geometry : Geometry) (policy : StreamPolicy)
    (framebufferGeneration : Nat) (events : List SendEvent) :
    (sendRun (init geometry policy framebufferGeneration) events).Consistent := by
  have start : (init geometry policy framebufferGeneration).Consistent :=
    TileQueues.consistent_init geometry
  exact invariant_runFrom_of_step consistent_step start events

theorem mem_takenRegions {region : Nat} (member : region ∈ s.takenRegions) :
    ∃ stage batch, s.phase = .sending stage (some batch) ∧
      batch.source = .fresh ∧ region ∈ batch.regions := by
  unfold takenRegions at member
  split at member
  · contradiction
  · contradiction
  · next stage batch phase =>
    unfold freshRegions at member
    split at member
    · next fresh => exact ⟨stage, batch, phase, fresh, member⟩
    · contradiction

/--
In every reachable state the count is the number of dirty tiles, and the region
of each of them is queued or, inside a pass, in the batch; between passes it is
queued.
-/
theorem dirty_tiles_scheduled (geometry : Geometry) (policy : StreamPolicy)
    (framebufferGeneration : Nat) (events : List SendEvent) :
    let s := sendRun (init geometry policy framebufferGeneration) events
    s.queues.dirtyQueueCount =
        (List.range s.queues.geometry.totalTiles).countP s.queues.dirtyFlags ∧
      ∀ tileId < s.queues.geometry.totalTiles,
        s.queues.dirtyFlags tileId = true →
        ∃ region, s.queues.geometry.topRegionForBaseTile tileId = some region ∧
          (s.phase = .closed → s.queues.scheduler.queued region = true) ∧
          (s.queues.scheduler.queued region = true ∨
            ∃ stage batch, s.phase = .sending stage (some batch) ∧
              batch.source = .fresh ∧ region ∈ batch.regions) := by
  intro s
  have consistent : s.Consistent :=
    consistent_sendRun geometry policy framebufferGeneration events
  refine ⟨consistent.counted, fun tileId inside dirty => ?_⟩
  have found := Geometry.topRegionForBaseTile_eq inside
  have place := consistent.scheduled tileId _ found dirty
  refine ⟨_, found, fun closed => ?_, place.imp_right mem_takenRegions⟩
  rw [takenRegions, closed] at place
  exact place.resolve_right List.not_mem_nil

end SendState

end WayDisplay.Server
