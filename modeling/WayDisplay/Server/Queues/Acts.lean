import Mathlib.Logic.Relation
import WayDisplay.Server.Queues.Pass

/-!
What a send pass can do to the queues.

Everything the results of a job do is a sequence of a few acts.  The quiet ones
only settle work: a tile gets a newer generation or loses its request, a dirty
flag is cleared, a clean region is forgotten, a dirty one is put back.  The one
act that is not quiet makes a tile dirty; it stands for a tile none of whose
packets was queued.  Whatever every act keeps, a job keeps.
-/

namespace WayDisplay.Server

open Common Foundation Relation

structure TileState.Settles (tile after : TileState) : Prop where
  dirty : after.dirtyQueued = tile.dirtyQueued
  epoch : after.dirtyEpoch = tile.dirtyEpoch
  newer : tile.generation ≤ after.generation
  queued : after.retransmitQueued = true → tile.retransmitQueued = true
  asked : after.retransmitRequestedGeneration ≤
    tile.retransmitRequestedGeneration

namespace TileState

theorem Settles.trans {tile between after : TileState}
    (first : tile.Settles between) (second : between.Settles after) :
    tile.Settles after where
  dirty := second.dirty.trans first.dirty
  epoch := second.epoch.trans first.epoch
  newer := Nat.le_trans first.newer second.newer
  queued := fun queued => first.queued (second.queued queued)
  asked := Nat.le_trans second.asked first.asked

theorem settles_clearRetransmitRequest (tile : TileState) :
    tile.Settles tile.clearRetransmitRequest := by
  unfold clearRetransmitRequest
  split_ifs with queued
  · exact ⟨rfl, rfl, Nat.le_refl _, (absurd · Bool.false_ne_true), Nat.zero_le _⟩
  · exact ⟨rfl, rfl, Nat.le_refl _, id, Nat.le_refl _⟩

theorem settles_withGeneration {tile : TileState} {generation : Nat}
    (newer : tile.generation ≤ generation) :
    tile.Settles (tile.withGeneration generation) :=
  ⟨rfl, rfl, newer, id, Nat.le_refl _⟩

end TileState

namespace TileQueues

inductive QuietAct (q : TileQueues) : TileQueues → Prop where
  | settle {tileId : Nat} {update : TileState → TileState}
      (settles : (q.tiles tileId).Settles (update (q.tiles tileId))) :
      QuietAct q (q.updateTile tileId update)
  | clear (tileId : Nat) : QuietAct q (q.dirtyQueueNoteCleared tileId)
  | forget {region : Nat} (clean : q.topRegionStillDirty region = false) :
      QuietAct q (q.withScheduler (q.scheduler.forget region))
  | requeue (now region : Nat) : QuietAct q (q.requeueDirtyTopRegion now region)

inductive Act (q : TileQueues) : TileQueues → Prop where
  | quiet {q' : TileQueues} (act : QuietAct q q') : Act q q'
  | detect (now tileId : Nat) : Act q (q.detectOneDirtyTile now tileId)

abbrev QuietActs := ReflTransGen QuietAct

abbrev Acts := ReflTransGen Act

theorem QuietActs.acts {q q' : TileQueues} (quiet : QuietActs q q') :
    Acts q q' := by
  induction quiet with
  | refl => exact .refl
  | tail _ act ih => exact ih.tail (.quiet act)

theorem acts_foldl {α : Type} {Rel : TileQueues → TileQueues → Prop}
    {f : TileQueues → α → TileQueues}
    (each : ∀ q x, ReflTransGen Rel q (f q x)) (q : TileQueues) (items : List α) :
    ReflTransGen Rel q (items.foldl f q) := by
  induction items generalizing q with
  | nil => exact .refl
  | cons item rest ih => exact (each q item).trans (ih (f q item))

theorem Acts.keep {inv : TileQueues → Prop}
    (kept : ∀ q q', Act q q' → inv q → inv q') {q q' : TileQueues}
    (acts : Acts q q') (holds : inv q) : inv q' := by
  induction acts with
  | refl => exact holds
  | tail _ act ih => exact kept _ _ act ih

/-! ## Parts of a job -/

variable {q : TileQueues} {batch : QueueBatch} {region now : Nat}
  {ids : List Nat}

theorem redirty_acts (now : Nat) (q : TileQueues) (delivery : List Nat × Nat) :
    Acts q (q.redirty now delivery) := by
  apply acts_foldl
  intro q tileId
  unfold redirtyTile
  split_ifs
  · exact .single (.detect now tileId)
  · exact .refl

theorem giveBack_quiet (source : EncodeSource) (now : Nat) (q : TileQueues)
    (region : Nat) : QuietActs q (q.giveBack source now region) := by
  cases source with
  | fresh => exact .single (.requeue now region)
  | retransmit => exact .refl

theorem maybeClear_quiet (q : TileQueues) (tileId : Nat) :
    QuietActs q (q.maybeClearDirtyTopRegion tileId) := by
  unfold maybeClearDirtyTopRegion
  split
  · exact .refl
  · split_ifs with dirty
    · exact .refl
    · exact .single (.forget (Bool.eq_false_iff.mpr dirty))

/-! ## Tiles -/

theorem updateTile_tiles (q : TileQueues) (tileId other : Nat)
    (update : TileState → TileState) :
    (q.updateTile tileId update).tiles other =
      if other = tileId then update (q.tiles other) else q.tiles other := by
  by_cases same : other = tileId
  · subst same
    simp [updateTile]
  · simp [updateTile, same]

theorem dirtyQueueNoteCleared_tiles (q : TileQueues) (tileId other : Nat) :
    (q.dirtyQueueNoteCleared tileId).tiles other =
      if other = tileId ∧ tileId < q.geometry.totalTiles then
        (q.tiles other).clean
      else q.tiles other := by
  unfold dirtyQueueNoteCleared
  by_cases skipped :
      tileId ≥ q.geometry.totalTiles ∨ (!(q.tiles tileId).dirtyQueued) = true
  · rw [if_pos skipped]
    split_ifs with found
    · obtain ⟨rfl, inside⟩ := found
      have settled : (q.tiles other).dirtyQueued = false := by
        rcases skipped with outside | settled
        · omega
        · simpa using settled
      rw [TileState.clean, ← settled]
    · rfl
  · rw [if_neg skipped]
    change (q.updateTile tileId .clean).tiles other = _
    rw [not_or, Nat.not_le] at skipped
    rw [updateTile_tiles]
    simp only [skipped.1, and_true]

@[simp]
theorem maybeClear_tiles (q : TileQueues) (tileId : Nat) :
    (q.maybeClearDirtyTopRegion tileId).tiles = q.tiles := by
  unfold maybeClearDirtyTopRegion
  split
  · rfl
  · split_ifs <;> rfl

@[simp]
theorem markDirtyTopRegion_tiles (q : TileQueues) (tileId now : Nat) :
    (q.markDirtyTopRegion tileId now).tiles = q.tiles := by
  unfold markDirtyTopRegion
  split <;> rfl

/-- What damage does: nothing, or the tile's epoch moves and its region is
scheduled, unless the queue had no room for it. -/
theorem detectOneDirtyTile_cases (q : TileQueues) (now tileId : Nat) :
    (q.geometry.totalTiles ≤ tileId ∧ q.detectOneDirtyTile now tileId = q) ∨
    (tileId < q.geometry.totalTiles ∧ (q.tiles tileId).dirtyQueued = true ∧
      q.detectOneDirtyTile now tileId =
        (q.updateTile tileId .nextDirtyEpoch).markDirtyTopRegion tileId now) ∨
    (tileId < q.geometry.totalTiles ∧ (q.tiles tileId).dirtyQueued = false ∧
      q.geometry.totalTiles ≤ q.dirtyQueueCount ∧
      q.detectOneDirtyTile now tileId =
        q.updateTile tileId .nextDirtyEpoch) ∨
    (tileId < q.geometry.totalTiles ∧ (q.tiles tileId).dirtyQueued = false ∧
      q.detectOneDirtyTile now tileId =
        (((q.updateTile tileId .nextDirtyEpoch).updateTile tileId
          .supersede).withDirtyQueueCount
            (q.dirtyQueueCount + 1)).markDirtyTopRegion tileId now) := by
  have flag : ((q.updateTile tileId .nextDirtyEpoch).tiles tileId).dirtyQueued =
      (q.tiles tileId).dirtyQueued := by
    rw [updateTile_tiles, if_pos rfl]
    rfl
  by_cases outside : q.geometry.totalTiles ≤ tileId
  · exact .inl ⟨outside, if_pos outside⟩
  have inside : ¬ tileId ≥
      (q.updateTile tileId .nextDirtyEpoch).geometry.totalTiles := outside
  rw [detectOneDirtyTile, if_neg outside]
  rw [dirtyQueuePush, if_neg inside, flag]
  right
  cases dirty : (q.tiles tileId).dirtyQueued with
  | true => exact .inl ⟨Nat.lt_of_not_le outside, rfl, rfl⟩
  | false =>
      right
      rw [if_neg Bool.false_ne_true]
      by_cases full : (q.updateTile tileId .nextDirtyEpoch).dirtyQueueCount ≥
          (q.updateTile tileId .nextDirtyEpoch).geometry.totalTiles
      · refine .inl ⟨Nat.lt_of_not_le outside, rfl, full, ?_⟩
        rw [if_pos full]
        exact if_neg (by rw [flag, dirty]; exact Bool.false_ne_true)
      · refine .inr ⟨Nat.lt_of_not_le outside, rfl, ?_⟩
        rw [if_neg full]
        rfl

theorem detectOneDirtyTile_generation (q : TileQueues)
    (now tileId other : Nat) :
    ((q.detectOneDirtyTile now tileId).tiles other).generation =
      (q.tiles other).generation := by
  have kept (q : TileQueues) (update : TileState → TileState)
      (same : ∀ tile, (update tile).generation = tile.generation) :
      ((q.updateTile tileId update).tiles other).generation =
        (q.tiles other).generation := by
    rw [updateTile_tiles]
    split_ifs
    · exact same _
    · rfl
  have stamped := kept q .nextDirtyEpoch fun _ => rfl
  rcases q.detectOneDirtyTile_cases now tileId with
    ⟨-, same⟩ | ⟨-, -, same⟩ | ⟨-, -, -, same⟩ | ⟨-, -, same⟩
  · rw [same]
  · rw [same, markDirtyTopRegion_tiles, stamped]
  · rw [same, stamped]
  · rw [same, markDirtyTopRegion_tiles]
    refine (kept _ .supersede fun tile => ?_).trans stamped
    unfold TileState.supersede TileState.clearRetransmitRequest
    split_ifs <;> rfl

theorem redirty_generation (now : Nat) (q : TileQueues)
    (delivery : List Nat × Nat) (tileId : Nat) :
    ((q.redirty now delivery).tiles tileId).generation =
      (q.tiles tileId).generation := by
  obtain ⟨ids, generation⟩ := delivery
  unfold redirty
  induction ids generalizing q with
  | nil => rfl
  | cons first rest ih =>
      refine (ih (redirtyTile generation now q first)).trans ?_
      unfold redirtyTile
      split_ifs
      · exact q.detectOneDirtyTile_generation now first tileId
      · rfl

theorem commitTile_tiles (q : TileQueues) (source : EncodeSource)
    (generation : Nat) (dirtyEpochs : Nat → Nat) (tileId other : Nat) :
    (q.commitTile source generation dirtyEpochs tileId).tiles other =
      if other = tileId ∧ tileId < q.geometry.totalTiles then
        (q.tiles other).commit source generation (dirtyEpochs other)
      else q.tiles other := by
  unfold commitTile
  by_cases outside : tileId ≥ q.geometry.totalTiles
  · rw [if_pos outside, if_neg (by omega)]
  rw [if_neg outside]
  have inside : tileId < q.geometry.totalTiles := Nat.lt_of_not_le outside
  by_cases same : other = tileId
  · subst same
    rw [if_pos ⟨rfl, inside⟩]
    cases source with
    | fresh =>
        simp only [commitFresh, TileState.commit, TileState.answerRequest,
          TileState.settleDirty, reduceCtorEq, if_false]
        by_cases covered : (q.tiles other).dirtyEpoch = dirtyEpochs other
        · rw [if_pos covered, maybeClear_tiles, dirtyQueueNoteCleared_tiles,
            if_pos ⟨rfl, inside⟩, updateTile_tiles, if_pos rfl, if_pos]
          · rfl
          · exact covered
        · rw [if_neg covered, maybeClear_tiles, updateTile_tiles, if_pos rfl,
            if_neg]
          exact covered
    | retransmit =>
        have epoch : ((q.tiles other).withGeneration
            generation).clearRetransmitRequest.dirtyEpoch =
              (q.tiles other).dirtyEpoch :=
          ((q.tiles other).withGeneration
            generation).settles_clearRetransmitRequest.epoch
        simp only [commitRepair, TileState.commit, TileState.answerRequest,
          TileState.settleDirty, if_true]
        by_cases covered : (q.tiles other).dirtyEpoch = dirtyEpochs other
        · rw [if_pos covered, maybeClear_tiles, dirtyQueueNoteCleared_tiles,
            if_pos ⟨rfl, inside⟩, updateTile_tiles, if_pos rfl,
            if_pos (epoch.trans covered)]
          rfl
        · rw [if_neg covered, updateTile_tiles, if_pos rfl,
            if_neg (epoch ▸ covered)]
  · rw [if_neg (by simp [same])]
    cases source with
    | fresh =>
        simp only [commitFresh]
        split_ifs <;>
          simp [dirtyQueueNoteCleared_tiles, updateTile_tiles, same]
    | retransmit =>
        simp only [commitRepair]
        split_ifs <;>
          simp [dirtyQueueNoteCleared_tiles, updateTile_tiles, same]

/-! ## Jobs -/

theorem commitTile_quiet (source : EncodeSource) {generation : Nat}
    (dirtyEpochs : Nat → Nat) {q : TileQueues} {tileId : Nat}
    (newer : (q.tiles tileId).generation ≤ generation) :
    QuietActs q (q.commitTile source generation dirtyEpochs tileId) := by
  have cleared (q : TileQueues) : QuietActs q
      ((q.dirtyQueueNoteCleared tileId).maybeClearDirtyTopRegion tileId) :=
    (ReflTransGen.single (.clear tileId)).trans (maybeClear_quiet _ tileId)
  have sent := TileState.settles_withGeneration newer
  unfold commitTile
  split_ifs
  · exact .refl
  cases source with
  | fresh =>
      have settled : QuietActs q (q.updateTile tileId fun tile =>
          tile.withGeneration generation) := .single (.settle sent)
      simp only [commitFresh]
      split_ifs
      · exact settled.trans (cleared _)
      · exact settled.trans (maybeClear_quiet _ tileId)
  | retransmit =>
      have settled : QuietActs q (q.updateTile tileId fun tile =>
          (tile.withGeneration generation).clearRetransmitRequest) :=
        .single (.settle (sent.trans (TileState.settles_clearRetransmitRequest _)))
      simp only [commitRepair]
      split_ifs
      · exact settled.trans (cleared _)
      · exact settled

theorem commit_generation (tile : TileState) (source : EncodeSource)
    (generation epoch : Nat) :
    (tile.commit source generation epoch).generation = generation := by
  unfold TileState.commit TileState.settleDirty TileState.answerRequest
    TileState.clearRetransmitRequest
  split_ifs <;> rfl

theorem commitTiles_quiet (source : EncodeSource) {generation : Nat}
    (dirtyEpochs : Nat → Nat) {q : TileQueues} {ids : List Nat}
    (newer : ∀ tileId ∈ ids, (q.tiles tileId).generation ≤ generation) :
    QuietActs q (ids.foldl (commitTile source generation dirtyEpochs) q) := by
  induction ids generalizing q with
  | nil => exact .refl
  | cons first rest ih =>
      have committed := commitTile_quiet source dirtyEpochs
        (newer first List.mem_cons_self)
      refine committed.trans (ih fun tileId member => ?_)
      rw [commitTile_tiles]
      split_ifs
      · exact Nat.le_of_eq (commit_generation _ _ _ _)
      · exact newer tileId (List.mem_cons_of_mem _ member)

theorem generation_le_next (q : TileQueues) {tile : WireTile} {ids : List Nat}
    (collected : q.geometry.collectWireTileBaseIds tile = some ids)
    {tileId : Nat} (member : tileId ∈ ids) :
    (q.tiles tileId).generation ≤ q.nextGenerationForResult ids :=
  (generation_lt_nextGeneration (fun id => (q.tiles id).generation) member
    (Geometry.collectWireTileBaseIds_lt collected member)).le

theorem sendTilePayload_cases (now : Nat) (q : TileQueues) (ids : List Nat)
    (generation : Nat) (attempt : TileSendAttempt) :
    (q.sendTilePayload now ids generation attempt).1 = q ∨
      (q.sendTilePayload now ids generation attempt).1 =
          q.redirty now (ids, generation) ∧
        (q.sendTilePayload now ids generation attempt).2 ≠ .complete := by
  cases attempt with
  | unsent => exact .inl rfl
  | oversized => exact .inr ⟨rfl, by simp [sendTilePayload]⟩
  | packets count status =>
      simp only [sendTilePayload]
      by_cases whole : packetsQueued status count = count
      · rw [if_pos whole]
        exact .inl rfl
      · rw [if_neg whole]
        by_cases nothing : packetsQueued status count = 0
        · right
          refine ⟨if_pos nothing, ?_⟩
          split_ifs <;> (intro same; cases same)
        · exact .inl (if_neg nothing)

theorem sendTilePayload_acts (now : Nat) (q : TileQueues) (ids : List Nat)
    (generation : Nat) (attempt : TileSendAttempt) :
    Acts q (q.sendTilePayload now ids generation attempt).1 := by
  rcases q.sendTilePayload_cases now ids generation attempt with same | same
  · rw [same]
  · rw [same.1]
    exact redirty_acts now q _

theorem sendResult_acts (now : Nat) (q : TileQueues) (batch : QueueBatch)
    (region : Nat) {ids : List Nat} {encodedTile : QueueEncodedTile}
    (collected : q.geometry.collectWireTileBaseIds encodedTile.tile =
      some ids) :
    Acts q (q.sendResult now batch region ids encodedTile).1 := by
  have failures : Acts q (encodedTile.failedDeliveries.foldl (redirty now) q) :=
    acts_foldl (redirty_acts now) q _
  have generations (tileId : Nat) :
      ((encodedTile.failedDeliveries.foldl (redirty now) q).tiles
        tileId).generation = (q.tiles tileId).generation := by
    generalize encodedTile.failedDeliveries = deliveries
    clear failures collected
    induction deliveries generalizing q with
    | nil => rfl
    | cons delivery rest ih =>
        exact (ih (redirty now q delivery)).trans
          (redirty_generation now q delivery tileId)
  have sent := sendTilePayload_acts now
    (encodedTile.failedDeliveries.foldl (redirty now) q) ids
    (q.nextGenerationForResult ids) encodedTile.attempt
  have whole := sendTilePayload_cases now
    (encodedTile.failedDeliveries.foldl (redirty now) q) ids
    (q.nextGenerationForResult ids) encodedTile.attempt
  unfold sendResult
  dsimp only
  split
  · next outcome =>
    rw [outcome] at sent
    exact failures.trans (sent.trans (giveBack_quiet _ _ _ _).acts)
  · next outcome =>
    rw [outcome] at sent
    exact failures.trans (sent.trans (giveBack_quiet _ _ _ _).acts)
  · next outcome =>
    rw [outcome] at sent whole
    have same := whole.resolve_right fun failed => failed.2 rfl
    refine failures.trans (sent.trans (commitTiles_quiet batch.source
      batch.dirtyEpochs fun tileId member => ?_).acts)
    dsimp only at same
    rw [same, generations]
    exact q.generation_le_next collected member

theorem processResult_acts (now framebufferGeneration : Nat) (q : TileQueues)
    (batch : QueueBatch) (region : Nat) (result : QueueResult) :
    Acts q (q.processResult now framebufferGeneration batch region result).1 := by
  have back := (giveBack_quiet batch.source now q region).acts
  unfold processResult
  split
  · exact back
  · split
    · exact back
    · split_ifs
      · exact back
      · exact back
      · next collected _ _ => exact sendResult_acts now q batch region collected

theorem processResults_acts (now framebufferGeneration : Nat)
    (batch : QueueBatch) (region : Nat) (q : TileQueues)
    (results : List QueueResult) :
    Acts q (processResults now framebufferGeneration batch region q
      results).1 := by
  induction results generalizing q with
  | nil => exact .refl
  | cons result rest ih =>
      have first := q.processResult_acts now framebufferGeneration batch region
        result
      unfold processResults
      split
      · next processed =>
        rw [processed] at first
        exact first.trans (ih _)
      · next processed =>
        rw [processed] at first
        exact first
      · next processed =>
        rw [processed] at first
        exact first

/-! ## Choosing jobs -/

structure Frame (q q' : TileQueues) : Prop where
  geometry : q'.geometry = q.geometry
  tiles : q'.tiles = q.tiles
  list : q'.retransmitQueue = q.retransmitQueue

theorem takeRegions_frame (q : TileQueues) (now fuel capacity : Nat) :
    Frame q (q.takeRegions now fuel capacity).1 := by
  induction fuel generalizing q capacity with
  | zero => exact ⟨rfl, rfl, rfl⟩
  | succ fuel ih =>
      cases capacity with
      | zero => exact ⟨rfl, rfl, rfl⟩
      | succ capacity =>
          unfold takeRegions
          split
          · exact ⟨rfl, rfl, rfl⟩
          · next scheduler region took =>
            have later (next : TileQueues) (capacity : Nat)
                (same : Frame q next) :
                Frame q (next.takeRegions now fuel capacity).1 :=
              ⟨(ih next capacity).geometry.trans same.geometry,
                (ih next capacity).tiles.trans same.tiles,
                (ih next capacity).list.trans same.list⟩
            dsimp only
            split_ifs
            · exact later _ _ ⟨rfl, rfl, rfl⟩
            · exact later _ _ ⟨rfl, rfl, rfl⟩
            · exact later _ _ ⟨rfl, rfl, rfl⟩

end TileQueues

end WayDisplay.Server
