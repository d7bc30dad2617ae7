import WayDisplay.Server.Queues.Consistency

/-!
The list of repairs.

A request sets the tile's flag and appends the tile to the list.  Fresh content
clears the flag and leaves the entry; the entry goes when a pass that has budget
for repairs next compacts the list.  As long as no request comes for a tile with
such an entry, the list names every tile once and has room for every request.

The list and the flags together say when a pass has sent everything.  The session
has the flags only, and is told at the end of a pass whether anything else waits.
-/

namespace WayDisplay.Server

open Common Foundation

namespace TileQueues

def repairFlags (q : TileQueues) (tileId : Nat) : Bool :=
  (q.tiles tileId).retransmitQueued

/-- The list names every flagged tile and, if entries are `distinct`, each once. -/
structure Listed (distinct : Prop) (q : TileQueues) : Prop where
  once : distinct → q.retransmitQueue.Nodup
  inside : ∀ tileId ∈ q.retransmitQueue, tileId < q.geometry.totalTiles
  listed : ∀ tileId < q.geometry.totalTiles, q.repairFlags tileId = true →
    tileId ∈ q.retransmitQueue

def NoStaleEntry (q : TileQueues) (tileId : Nat) : Prop :=
  tileId ∈ q.retransmitQueue →
    q.repairFlags tileId = true ∨ q.dirtyFlags tileId = true

variable {distinct : Prop} {q q' : TileQueues} {tileId now : Nat}

/-! ## What does not touch the list -/

/-- The list stands, and no flag is set. -/
structure ListKept (q q' : TileQueues) : Prop where
  geometry : q'.geometry = q.geometry
  list : q'.retransmitQueue = q.retransmitQueue
  flags : ∀ tileId, q'.repairFlags tileId = true → q.repairFlags tileId = true

theorem ListKept.refl (q : TileQueues) : ListKept q q := ⟨rfl, rfl, fun _ => id⟩

theorem ListKept.trans {between : TileQueues} (first : ListKept q between)
    (second : ListKept between q') : ListKept q q' where
  geometry := second.geometry.trans first.geometry
  list := second.list.trans first.list
  flags := fun tileId set => first.flags tileId (second.flags tileId set)

theorem listKept_updateTile {update : TileState → TileState}
    (queued : (update (q.tiles tileId)).retransmitQueued = true →
      (q.tiles tileId).retransmitQueued = true) :
    ListKept q (q.updateTile tileId update) := by
  refine ⟨rfl, rfl, fun other set => ?_⟩
  rw [repairFlags, updateTile_tiles] at set
  split_ifs at set with same
  · rw [same] at set ⊢
    exact queued set
  · exact set

theorem listKept_mark (q : TileQueues) (tileId now : Nat) :
    ListKept q (q.markDirtyTopRegion tileId now) := by
  unfold markDirtyTopRegion
  split
  · exact .refl q
  · exact ⟨rfl, rfl, fun _ => id⟩

theorem ListKept.act (act : Act q q') : ListKept q q' := by
  cases act with
  | detect now tileId =>
      have stamped : ListKept q (q.updateTile tileId .nextDirtyEpoch) :=
        listKept_updateTile id
      rcases q.detectOneDirtyTile_cases now tileId with
        ⟨-, same⟩ | ⟨-, -, same⟩ | ⟨-, -, -, same⟩ | ⟨-, -, same⟩
      · rw [same]
        exact .refl q
      · rw [same]
        exact stamped.trans (listKept_mark _ tileId now)
      · rw [same]
        exact stamped
      · rw [same]
        refine (stamped.trans ?_).trans (listKept_mark _ tileId now)
        have superseded : ListKept (q.updateTile tileId .nextDirtyEpoch)
            ((q.updateTile tileId .nextDirtyEpoch).updateTile tileId
              .supersede) :=
          listKept_updateTile (TileState.settles_clearRetransmitRequest _).queued
        exact ⟨superseded.geometry, superseded.list, superseded.flags⟩
  | quiet act =>
      cases act with
      | settle settles => exact listKept_updateTile settles.queued
      | clear tileId =>
          unfold dirtyQueueNoteCleared
          split_ifs
          · exact .refl q
          · have cleaned : ListKept q (q.updateTile tileId .clean) :=
              listKept_updateTile id
            exact ⟨rfl, rfl, cleaned.flags⟩
      | forget clean => exact ⟨rfl, rfl, fun _ => id⟩
      | requeue now region =>
          unfold requeueDirtyTopRegion
          split_ifs
          · exact .refl q
          · split
            · exact .refl q
            · exact listKept_mark q _ now

theorem ListKept.acts (acts : Acts q q') : ListKept q q' := by
  induction acts with
  | refl => exact .refl q
  | tail _ act ih => exact ih.trans (ListKept.act act)

theorem listKept_takeRegions (q : TileQueues) (now fuel capacity : Nat) :
    ListKept q (q.takeRegions now fuel capacity).1 := by
  have frame := q.takeRegions_frame now fuel capacity
  refine ⟨frame.geometry, frame.list, fun tileId => ?_⟩
  rw [repairFlags, frame.tiles]
  exact id

theorem Listed.keep (listed : Listed distinct q) (kept : ListKept q q') :
    Listed distinct q' where
  once := kept.list ▸ listed.once
  inside := by
    rw [kept.list, kept.geometry]
    exact listed.inside
  listed := fun tileId inside set => by
    rw [kept.geometry] at inside
    rw [kept.list]
    exact listed.listed tileId inside (kept.flags tileId set)

theorem Listed.compact (listed : Listed distinct q) :
    Listed distinct q.compactRetransmitQueue where
  once := fun unique => (listed.once unique).filter _
  inside := fun tileId member =>
    listed.inside tileId (List.mem_of_mem_filter member)
  listed := fun tileId inside set => by
    refine List.mem_filter.mpr ⟨listed.listed tileId inside set, ?_⟩
    exact Bool.and_eq_true_iff.mpr ⟨decide_eq_true inside, set⟩

/-! ## Requests -/

theorem requestRepair_cases (q : TileQueues) (videoOwns : Bool)
    (entry : Nat × Nat) :
    q.requestRepair videoOwns entry = q ∨
    (∃ generation, q.repairFlags entry.1 = true ∧
      q.requestRepair videoOwns entry = q.updateTile entry.1 fun tile =>
        tile.queueRetransmit generation) ∨
    ∃ generation, entry.1 < q.geometry.totalTiles ∧
      q.repairFlags entry.1 = false ∧ q.dirtyFlags entry.1 = false ∧
      q.requestRepair videoOwns entry =
        (q.updateTile entry.1 fun tile =>
          tile.queueRetransmit generation).withRetransmitQueue
            (q.retransmitQueue ++ [entry.1]) := by
  unfold requestRepair queueRetransmitTile
  by_cases outside : entry.1 ≥ q.geometry.totalTiles
  · rw [if_pos outside]
    exact .inl rfl
  rw [if_neg outside, if_neg outside]
  cases videoOwns with
  | true => exact .inl rfl
  | false =>
      rw [if_neg Bool.false_ne_true]
      cases dirty : (q.tiles entry.1).dirtyQueued with
      | true => exact .inl rfl
      | false =>
          rw [if_neg Bool.false_ne_true]
          cases flagged : (q.tiles entry.1).retransmitQueued with
          | true => exact .inr (.inl ⟨_, flagged, rfl⟩)
          | false =>
              rw [if_neg Bool.false_ne_true]
              by_cases full :
                  q.retransmitQueue.length ≥ q.geometry.totalTiles
              · rw [if_pos full]
                exact .inl rfl
              · rw [if_neg full]
                exact .inr (.inr ⟨_, Nat.lt_of_not_le outside, flagged, dirty,
                  rfl⟩)

theorem Listed.requestRepair (listed : Listed distinct q) (videoOwns : Bool)
    {entry : Nat × Nat} (fresh : distinct → q.NoStaleEntry entry.1) :
    Listed distinct (q.requestRepair videoOwns entry) := by
  rcases q.requestRepair_cases videoOwns entry with
    same | ⟨generation, flagged, same⟩ |
      ⟨generation, inside, unflagged, clean, same⟩
  · rw [same]
    exact listed
  · rw [same]
    exact listed.keep (listKept_updateTile fun _ => flagged)
  · rw [same]
    have absent (unique : distinct) : entry.1 ∉ q.retransmitQueue := by
      intro member
      rcases fresh unique member with flagged | dirty
      · rw [unflagged] at flagged
        contradiction
      · rw [clean] at dirty
        contradiction
    refine ⟨fun unique => ?_, ?_, ?_⟩
    · exact List.nodup_append.mpr ⟨listed.once unique, by simp,
        fun first here second there => by
          rw [List.mem_singleton.mp there]
          rintro rfl
          exact absent unique here⟩
    · intro tileId member
      rcases List.mem_append.mp member with member | member
      · exact listed.inside tileId member
      · exact List.mem_singleton.mp member ▸ inside
    · intro tileId valid set
      rw [repairFlags, withRetransmitQueue_tiles, updateTile_tiles] at set
      split_ifs at set with found
      · exact List.mem_append_right _ (List.mem_singleton.mpr found)
      · exact List.mem_append_left _ (listed.listed tileId valid set)

theorem NoStaleEntry.requestRepair (fresh : q.NoStaleEntry tileId)
    (videoOwns : Bool) (entry : Nat × Nat) :
    (q.requestRepair videoOwns entry).NoStaleEntry tileId := by
  have asked (generation : Nat) (clean : q.dirtyFlags entry.1 = false) :
      ((q.tiles entry.1).queueRetransmit generation).retransmitQueued = true := by
    unfold TileState.queueRetransmit
    have unmarked : (q.tiles entry.1).dirtyQueued = false := clean
    rw [unmarked, if_neg Bool.false_ne_true]
    split_ifs with flagged
    · exact flagged
    · rfl
  have kept (generation : Nat) : ((q.tiles entry.1).queueRetransmit
      generation).dirtyQueued = (q.tiles entry.1).dirtyQueued := by
    unfold TileState.queueRetransmit
    split_ifs <;> rfl
  rcases q.requestRepair_cases videoOwns entry with
    same | ⟨generation, flagged, same⟩ |
      ⟨generation, inside, unflagged, clean, same⟩
  · rw [same]
    exact fresh
  · rw [same]
    intro member
    by_cases found : tileId = entry.1
    · subst found
      cases dirty : q.dirtyFlags entry.1 with
      | true =>
          right
          rw [dirtyFlags, updateTile_tiles, if_pos rfl, kept]
          exact dirty
      | false =>
          left
          rw [repairFlags, updateTile_tiles, if_pos rfl]
          exact asked generation dirty
    · rw [repairFlags, dirtyFlags, updateTile_tiles, if_neg found]
      exact fresh member
  · rw [same]
    intro member
    by_cases found : tileId = entry.1
    · subst found
      left
      rw [repairFlags, withRetransmitQueue_tiles, updateTile_tiles, if_pos rfl]
      exact asked generation clean
    · have before : tileId ∈ q.retransmitQueue := by
        rcases List.mem_append.mp member with member | member
        · exact member
        · exact absurd (List.mem_singleton.mp member) found
      rw [repairFlags, dirtyFlags, withRetransmitQueue_tiles, updateTile_tiles,
        if_neg found]
      exact fresh before

theorem Listed.requestRepairs (listed : Listed distinct q) (videoOwns : Bool)
    {entries : List (Nat × Nat)}
    (fresh : distinct → ∀ entry ∈ entries, q.NoStaleEntry entry.1) :
    Listed distinct (entries.foldl (.requestRepair videoOwns) q) := by
  induction entries generalizing q with
  | nil => exact listed
  | cons entry rest ih =>
      refine ih (listed.requestRepair videoOwns fun unique =>
        fresh unique entry List.mem_cons_self) fun unique other member => ?_
      exact (fresh unique other (List.mem_cons_of_mem _ member)).requestRepair
        videoOwns entry

theorem queueRetransmitTile_accepted (inside : tileId < q.geometry.totalTiles)
    (clean : q.dirtyFlags tileId = false)
    (unflagged : q.repairFlags tileId = false)
    (room : q.retransmitQueue.length < q.geometry.totalTiles)
    (generation : Nat) :
    (q.queueRetransmitTile false tileId generation).2 = true := by
  have unmarked : (q.tiles tileId).dirtyQueued = false := clean
  have unasked : (q.tiles tileId).retransmitQueued = false := unflagged
  rw [queueRetransmitTile, if_neg (by omega), if_neg Bool.false_ne_true,
    unmarked, if_neg Bool.false_ne_true, unasked, if_neg Bool.false_ne_true,
    if_neg (by omega)]

theorem listed_of_empty (empty : q.retransmitQueue = [])
    (unflagged : ∀ tileId, q.repairFlags tileId = false) : Listed distinct q where
  once := fun _ => empty ▸ List.nodup_nil
  inside := fun tileId member => by
    rw [empty] at member
    contradiction
  listed := fun tileId _ set => by
    rw [unflagged tileId] at set
    contradiction

end TileQueues

/-! ## Runs -/

namespace SendState

/-- No request is for a tile whose entry outlived its flag. -/
def RequestsNoStaleEntry (s : SendState) : SendEvent → Prop
  | .requestRepairs entries =>
      ∀ entry ∈ entries, s.queues.NoStaleEntry entry.1
  | _ => True

variable {distinct : Prop} {s : SendState}

theorem listed_passStep (listed : s.queues.Listed distinct)
    (choice : PassChoice) : (s.passStep choice).queues.Listed distinct := by
  unfold passStep
  split
  · exact listed
  · next stage _ =>
    split
    · exact listed
    · unfold beginFresh
      split_ifs
      · exact listed
      · have took := listed.keep (s.queues.listKept_takeRegions choice.now
          s.queues.scheduler.count
          (encodeBatchCapacity s.queues.scheduler.count choice.workers))
        unfold submitFresh
        split_ifs
        · exact took
        · exact took.keep (.acts (TileQueues.acts_foldl
            (fun q region => .single (.quiet (.requeue choice.now region))) _ _))
        · exact took
    · unfold beginRepairs
      split_ifs
      · exact listed
      · have collected :=
          (listed.keep (.acts s.queues.collectRepairs_quiet.acts)).compact
        unfold submitRepairs
        dsimp only
        split_ifs
        · exact collected
        · exact collected.compact
        · exact collected
  · next stage batch _ =>
    have completed (region : Nat) :
        (s.completeJob stage batch region choice).queues.Listed distinct := by
      unfold completeJob
      dsimp only
      split_ifs
      · exact listed
      · exact listed.keep (.acts (TileQueues.processResults_acts ..))
    split
    · exact completed _
    · split
      · have after : (s.afterBatch batch choice.now).Listed distinct := by
          unfold afterBatch
          split
          · exact listed.keep (.acts (TileQueues.acts_foldl
              (fun q region => .single (.quiet (.requeue choice.now region))) _ _))
          · exact listed.compact
        unfold endBatch
        dsimp only
        split_ifs
        · exact after
        · exact after
      · exact completed _

theorem listed_step (s : SendState) (event : SendEvent)
    (listed : s.queues.Listed distinct)
    (fresh : distinct → s.RequestsNoStaleEntry event) :
    (s.step event).queues.Listed distinct := by
  cases event with
  | openPass clientLoss =>
      change (s.openPass clientLoss).queues.Listed distinct
      unfold openPass
      split
      · split_ifs
        · exact listed
        · exact listed
        · exact listed
      · exact listed
  | pass choice => exact listed_passStep listed choice
  | damage tileIds now =>
      exact listed.keep (.acts (TileQueues.acts_foldl
        (fun q tileId => .single (.detect now tileId)) _ _))
  | failDelivery tileIds generation now =>
      exact listed.keep (.acts (TileQueues.redirty_acts now _ _))
  | requestRepairs entries => exact listed.requestRepairs _ fresh
  | collapse => exact TileQueues.listed_of_empty rfl fun _ => rfl
  | startSession => exact TileQueues.listed_of_empty rfl fun _ => rfl
  | resize geometry =>
      unfold step
      dsimp only
      split
      · exact TileQueues.listed_of_empty rfl fun _ => rfl
      · exact listed
  | setPolicy policy => exact listed

/--
In a run without a request for a tile with an outlived entry, the list names
each tile once and every flagged one, and the next such request for a tile that
is neither dirty nor queued is accepted.
-/
theorem repairs_listed_once (geometry : Geometry) (policy : StreamPolicy)
    (framebufferGeneration : Nat) (events : List SendEvent)
    (fresh : Along step RequestsNoStaleEntry
      (init geometry policy framebufferGeneration) events) :
    let s := sendRun (init geometry policy framebufferGeneration) events
    s.queues.retransmitQueue.Nodup ∧
      (∀ tileId < s.queues.geometry.totalTiles,
        s.queues.repairFlags tileId = true →
          tileId ∈ s.queues.retransmitQueue) ∧
      ∀ tileId < s.queues.geometry.totalTiles, ∀ generation,
        s.videoOwnsDisplay = false → s.queues.dirtyFlags tileId = false →
        s.queues.repairFlags tileId = false → s.queues.NoStaleEntry tileId →
          (s.queues.queueRetransmitTile s.videoOwnsDisplay tileId
            generation).2 = true := by
  intro s
  have preserved (s : SendState) (event : SendEvent)
      (listed : s.queues.Listed True) (fresh : s.RequestsNoStaleEntry event) :
      (s.step event).queues.Listed True :=
    listed_step s event listed fun _ => fresh
  have start : (init geometry policy framebufferGeneration).queues.Listed True :=
    TileQueues.listed_of_empty rfl fun _ => rfl
  have listed : s.queues.Listed True := invariant_runFrom preserved start fresh
  refine ⟨listed.once trivial, listed.listed, ?_⟩
  intro tileId inside generation tilesOwn clean unflagged next
  have absent : tileId ∉ s.queues.retransmitQueue := by
    intro member
    rcases next member with flagged | dirty
    · rw [unflagged] at flagged
      contradiction
    · rw [clean] at dirty
      contradiction
  rw [tilesOwn]
  exact TileQueues.queueRetransmitTile_accepted inside clean unflagged
    (length_lt_of_absent (listed.once trivial) listed.inside inside absent)
    generation

/-! ### The end of a pass in the session -/

/-- The session and the queues have the same tiles and the same policy. -/
structure Mirrors (server : ServerState) (s : SendState) : Prop where
  geometry : server.geometry = s.queues.geometry
  tiles : server.net.tiles = s.queues.tiles
  policy : server.net.streamPolicy = s.policy
  generation : server.framebufferGeneration = s.framebufferGeneration

theorem queuesEmpty_eq {q : TileQueues} {taken : List Nat} {net : NetState}
    (consistent : q.Consistent taken) (listed : q.Listed distinct)
    (tiles : net.tiles = q.tiles) :
    (net.dirtyQueueEmpty q.geometry && q.unlisted &&
      net.retransmitQueueEmpty q.geometry) = q.queuesEmpty := by
  have clean : net.dirtyQueueEmpty q.geometry = (q.dirtyQueueCount == 0) := by
    rw [Bool.eq_iff_iff, beq_iff_eq, consistent.counted, List.countP_eq_zero]
    simp [NetState.dirtyQueueEmpty, tiles, TileQueues.dirtyFlags]
  have answered (empty : q.retransmitQueue = []) :
      net.retransmitQueueEmpty q.geometry = true := by
    simp only [NetState.retransmitQueueEmpty, List.all_eq_true, List.mem_range,
      Bool.not_eq_true', tiles]
    intro tileId inside
    by_contra flagged
    have member := listed.listed tileId inside (Bool.not_eq_false _ ▸ flagged)
    rw [empty] at member
    contradiction
  rw [clean, TileQueues.queuesEmpty, TileQueues.unlisted]
  cases list : q.retransmitQueue with
  | nil => simp [answered list]
  | cons tileId rest => simp

/--
A pass that ends in the session ends as in the queues, where `regionsIdle` says
that no region is scheduled and no repair is listed.
-/
theorem endPass_mirrors (geometry : Geometry) (policy : StreamPolicy)
    (framebufferGeneration : Nat) (events : List SendEvent)
    {server : ServerState} (choice : PassChoice) :
    let s := sendRun (init geometry policy framebufferGeneration) events
    Mirrors server s → s.phase = .sending .closing none →
      server.worker = .sending ⟨.closing, none⟩ →
        Mirrors (server.endPass s.queues.unlisted) (s.passStep choice) := by
  intro s mirrors closing sending
  have consistent : s.Consistent :=
    consistent_sendRun geometry policy framebufferGeneration events
  have preserved (s : SendState) (event : SendEvent)
      (listed : s.queues.Listed False) : (s.step event).queues.Listed False :=
    listed_step s event listed False.elim
  have start : (init geometry policy framebufferGeneration).queues.Listed False :=
    TileQueues.listed_of_empty rfl fun _ => rfl
  have listed : s.queues.Listed False :=
    invariant_runFrom_of_step preserved start events
  have ends : server.endPass s.queues.unlisted =
      (server.closePass s.queues.queuesEmpty).withWorker .idle := by
    rw [ServerState.endPass, sending, mirrors.geometry]
    dsimp only
    rw [queuesEmpty_eq consistent listed mirrors.tiles]
  obtain ⟨_, closes⟩ := server.closePass_eq s.queues.queuesEmpty
  rw [ends, closes, passStep, closing]
  refine ⟨mirrors.geometry, mirrors.tiles, ?_, mirrors.generation⟩
  show server.net.streamPolicy.closePass server.framebufferGeneration _ = _
  rw [mirrors.policy, mirrors.generation]
  rfl

/-! ### A repair overtaken by fresh content -/

def singleTile : Geometry :=
  ⟨16, 16, by decide, by decide, by decide, by decide, by decide⟩

def tilePair : Geometry :=
  ⟨32, 16, by decide, by decide, by decide, by decide, by decide⟩

def sendTile (tileId : Nat) (status : AsyncUdpSendStatus) : PassChoice where
  budget := true
  workers := 1
  started := true
  job := 0
  results := [.encoded
    { tile := ⟨.tile16x16, tileId⟩
      allowed := true
      attempt := .packets 1 fun _ => status
      failedDeliveries := [] }]
  now := 1

/-- A step of a pass; the encoder of the first tile delivers, if one does. -/
def deliver (budget : Bool) : SendEvent :=
  .pass { sendTile 0 .queued with budget }

def overtakenRepair : List SendEvent :=
  [.requestRepairs [(0, 0)], .damage [0] 1, .openPass false, deliver true,
    deliver true, deliver true, deliver true, deliver false, deliver true]

instance (q : TileQueues) (tileId : Nat) : Decidable (q.NoStaleEntry tileId) :=
  inferInstanceAs (Decidable (_ → _))

instance (s : SendState) : ∀ event, Decidable (s.RequestsNoStaleEntry event)
  | .requestRepairs entries =>
      inferInstanceAs (Decidable (∀ entry ∈ entries,
        s.queues.NoStaleEntry entry.1))
  | .openPass _ | .pass _ | .damage _ _ | .failDelivery _ _ _ | .collapse
  | .startSession | .resize _ | .setPolicy _ => isTrue trivial

/-- Both tiles are asked for twice; the first is sent and asked for again while
the second is still listed. -/
def repeatedRepairs : List SendEvent :=
  [.requestRepairs [(0, 0), (1, 0)], .requestRepairs [(1, 0), (0, 0)],
    .openPass false, deliver true, deliver true, deliver true, deliver true,
    deliver true, .requestRepairs [(0, 0), (1, 0)]]

theorem repairs_listed_once_repeatedRepairs :
    Along step RequestsNoStaleEntry (init tilePair .defaults 1)
        repeatedRepairs ∧
      (sendRun (init tilePair .defaults 1)
        repeatedRepairs).queues.retransmitQueue = [1, 0] ∧
      (sendRun (init tilePair .defaults 1)
        repeatedRepairs).queues.retransmitQueue.Nodup := by
  have fresh : Along step RequestsNoStaleEntry (init tilePair .defaults 1)
      repeatedRepairs := by decide +kernel
  exact ⟨fresh, by decide +kernel,
    (repairs_listed_once tilePair .defaults 1 repeatedRepairs fresh).1⟩

/-- Another request for the tile is listed twice; on a display of one tile it is
refused although the tile is neither dirty nor queued. -/
theorem overtaken_repair_relisted :
    (sendRun (init tilePair .defaults 1)
        (overtakenRepair ++ [.requestRepairs [(0, 0)]])).queues.retransmitQueue =
          [0, 0] ∧
      (sendRun (init singleTile .defaults 1) overtakenRepair).videoOwnsDisplay =
          false ∧
      (sendRun (init singleTile .defaults 1) overtakenRepair).queues.dirtyFlags
          0 = false ∧
      (sendRun (init singleTile .defaults 1) overtakenRepair).queues.repairFlags
          0 = false ∧
      ((sendRun (init singleTile .defaults 1)
          overtakenRepair).queues.queueRetransmitTile false 0 0).2 = false := by
  decide +kernel

end SendState

end WayDisplay.Server
