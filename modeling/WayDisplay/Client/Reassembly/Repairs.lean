import WayDisplay.Client.Reassembly.Order
import WayDisplay.Client.Reassembly.Flush

/-!
No tile is given up in silence.

An entry that leaves without its tile being complete either has every missing
base tile under it queued for repair, or gives way to an entry for a newer state
of the same tile.  The record of a removed entry holds the repairs as they stood
when it left, so the statement is about that moment.
-/

namespace WayDisplay.Client

open Common Foundation

/-! ## The table of repairs -/

namespace RepairTracking

def Listed (totalTiles : Nat) (repairs : RepairTracking) : Prop :=
  ∀ tileId, repairs.retxQueuedGeneration tileId ≠ 0 →
    tileId ∈ repairs.retxQueue ∧ tileId < totalTiles

variable {repairs other : RepairTracking} {totalTiles : Nat}

theorem initial_listed : Listed totalTiles initial :=
  fun _ queued => absurd rfl queued

def SameQueue (repairs other : RepairTracking) : Prop :=
  other.retxQueue = repairs.retxQueue ∧
    other.retxQueuedGeneration = repairs.retxQueuedGeneration

theorem SameQueue.listed (same : repairs.SameQueue other)
    (listed : repairs.Listed totalTiles) : other.Listed totalTiles := by
  unfold Listed
  rw [same.1, same.2]
  exact listed

theorem SameQueue.queued (same : repairs.SameQueue other)
    {tileId generation : Nat} (queued : repairs.Queued tileId generation) :
    other.Queued tileId generation := by
  unfold Queued
  rw [same.1, same.2]
  exact queued

theorem clearRetxInflight_sameQueue (tileId generation : Nat) :
    repairs.SameQueue (repairs.clearRetxInflight tileId generation) := by
  unfold clearRetxInflight
  split <;> exact ⟨rfl, rfl⟩

theorem foldl_sameQueue {change : RepairTracking → Nat → RepairTracking}
    (same : ∀ repairs tileId, SameQueue repairs (change repairs tileId))
    (tileIds : List Nat) (repairs : RepairTracking) :
    repairs.SameQueue (tileIds.foldl change repairs) := by
  induction tileIds generalizing repairs with
  | nil => exact ⟨rfl, rfl⟩
  | cons tileId rest ih =>
      obtain ⟨queue, generations⟩ := same repairs tileId
      obtain ⟨queue', generations'⟩ := ih (change repairs tileId)
      exact ⟨queue'.trans queue, generations'.trans generations⟩

theorem enqueue_queue_subset (tileId generation : Nat) :
    repairs.retxQueue ⊆ (repairs.enqueue tileId generation).retxQueue := by
  intro other member
  unfold enqueue
  dsimp only
  split
  · exact List.mem_append_left _ member
  · exact member

theorem enqueue_generation (tileId generation other : Nat) :
    (repairs.enqueue tileId generation).retxQueuedGeneration other =
      if other = tileId then
        max (repairs.retxQueuedGeneration tileId) generation
      else repairs.retxQueuedGeneration other :=
  Function.update_apply _ _ _ _

theorem Queued.enqueue {tileId generation : Nat}
    (queued : repairs.Queued tileId generation) (newId newGeneration : Nat) :
    (repairs.enqueue newId newGeneration).Queued tileId generation := by
  refine ⟨enqueue_queue_subset _ _ queued.1, ?_⟩
  rw [enqueue_generation]
  split
  · rename_i same
    subst same
    exact Nat.le_trans queued.2 (Nat.le_max_left _ _)
  · exact queued.2

theorem Listed.enqueue_mem (listed : repairs.Listed totalTiles)
    (tileId generation : Nat) :
    tileId ∈ (repairs.enqueue tileId generation).retxQueue := by
  unfold enqueue
  dsimp only
  split
  · exact List.mem_append_right _ (List.mem_singleton_self _)
  · rename_i queued
    exact (listed tileId queued).1

theorem Listed.enqueue_queued (listed : repairs.Listed totalTiles)
    (tileId generation : Nat) :
    (repairs.enqueue tileId generation).Queued tileId generation := by
  refine ⟨listed.enqueue_mem tileId generation, ?_⟩
  rw [enqueue_generation, if_pos rfl]
  exact Nat.le_max_right _ _

theorem Listed.enqueue (listed : repairs.Listed totalTiles) {tileId : Nat}
    (inside : tileId < totalTiles) (generation : Nat) :
    (repairs.enqueue tileId generation).Listed totalTiles := by
  intro other queued
  by_cases same : other = tileId
  · subst same
    exact ⟨listed.enqueue_mem other generation, inside⟩
  · rw [enqueue_generation, if_neg same] at queued
    obtain ⟨member, bound⟩ := listed other queued
    exact ⟨enqueue_queue_subset _ _ member, bound⟩

/-! ### Repairing the tiles under an entry -/

section Repair

variable {received : Generations} {generation : Nat}

theorem Listed.repairBaseTile (listed : repairs.Listed totalTiles)
    (tileId : Nat) :
    (repairBaseTile received totalTiles generation repairs tileId).Listed
      totalTiles := by
  unfold RepairTracking.repairBaseTile
  split
  · exact (clearRetxInflight_sameQueue _ _).listed listed
  · rename_i missing
    push Not at missing
    exact (clearRetxInflight_sameQueue _ _).listed
      (listed.enqueue missing.1 generation)

theorem Queued.repairBaseTile {tileId wanted : Nat}
    (queued : repairs.Queued tileId wanted) (other : Nat) :
    (repairBaseTile received totalTiles generation repairs other).Queued tileId
      wanted := by
  unfold RepairTracking.repairBaseTile
  split
  · exact (clearRetxInflight_sameQueue _ _).queued queued
  · exact (clearRetxInflight_sameQueue _ _).queued (queued.enqueue _ _)

theorem Listed.repairBaseTile_queued (listed : repairs.Listed totalTiles)
    {tileId : Nat} (inside : tileId < totalTiles)
    (missing : received tileId < generation) :
    (RepairTracking.repairBaseTile received totalTiles generation repairs
      tileId).Queued tileId generation := by
  unfold RepairTracking.repairBaseTile
  rw [if_neg (by omega)]
  exact (clearRetxInflight_sameQueue _ _).queued
    (listed.enqueue_queued tileId generation)

variable {repairs : RepairTracking}

theorem Queued.foldl_repairBaseTile {tileId wanted : Nat} (tileIds : List Nat)
    (queued : repairs.Queued tileId wanted) :
    (tileIds.foldl (RepairTracking.repairBaseTile received totalTiles generation)
      repairs).Queued tileId wanted := by
  induction tileIds generalizing repairs with
  | nil => exact queued
  | cons other rest ih => exact ih (queued.repairBaseTile other)

theorem Listed.foldl_repairBaseTile (tileIds : List Nat)
    (listed : repairs.Listed totalTiles) :
    (tileIds.foldl (RepairTracking.repairBaseTile received totalTiles generation)
      repairs).Listed totalTiles := by
  induction tileIds generalizing repairs with
  | nil => exact listed
  | cons other rest ih => exact ih (listed.repairBaseTile other)

theorem Listed.foldl_repairBaseTile_queued {tileIds : List Nat}
    (listed : repairs.Listed totalTiles) {tileId : Nat}
    (member : tileId ∈ tileIds) (inside : tileId < totalTiles)
    (missing : received tileId < generation) :
    (tileIds.foldl (RepairTracking.repairBaseTile received totalTiles generation)
      repairs).Queued tileId generation := by
  induction tileIds generalizing repairs with
  | nil => exact absurd member List.not_mem_nil
  | cons other rest ih =>
      rw [List.foldl_cons]
      rcases List.mem_cons.mp member with rfl | later
      · exact (listed.repairBaseTile_queued inside missing).foldl_repairBaseTile
          rest
      · exact ih (listed.repairBaseTile other) later

end Repair

/-! ### Requests and completions -/

theorem Listed.clearCompleted (listed : repairs.Listed totalTiles)
    (received : Generations) (tileId : Nat) :
    (clearCompleted received repairs tileId).Listed totalTiles := by
  intro other queued
  refine listed other ?_
  intro none
  apply queued
  unfold RepairTracking.clearCompleted
  dsimp only
  split
  · rw [Function.update_apply, none, ite_self]
  · exact none

theorem Listed.foldl_clearCompleted (received : Generations)
    (tileIds : List Nat) {repairs : RepairTracking}
    (listed : repairs.Listed totalTiles) :
    (tileIds.foldl (RepairTracking.clearCompleted received) repairs).Listed
      totalTiles := by
  induction tileIds generalizing repairs with
  | nil => exact listed
  | cons tileId rest ih => exact ih (listed.clearCompleted received tileId)

theorem Listed.flushed {tileId : Nat} {rest : List Nat}
    {received : Generations} {input : FlushInput}
    {outcome : RepairTracking × Option (Nat × Nat)}
    (listed : repairs.Listed totalTiles)
    (first : repairs.retxQueue = tileId :: rest)
    (flushed : Flushed received totalTiles input
      { repairs with retxQueue := rest } tileId outcome) :
    outcome.1.Listed totalTiles := by
  have waiting : ∀ other, repairs.retxQueuedGeneration other ≠ 0 →
      (other = tileId ∨ other ∈ rest) ∧ other < totalTiles := by
    intro other queued
    obtain ⟨member, inside⟩ := listed other queued
    rw [first] at member
    exact ⟨List.mem_cons.mp member, inside⟩
  -- A tile that is dropped or asked for waits no longer.
  have dequeued : ∀ other,
      Function.update repairs.retxQueuedGeneration tileId 0 other ≠ 0 →
        other ∈ rest ∧ other < totalTiles := by
    intro other queued
    rw [Function.update_apply] at queued
    split at queued
    next => exact absurd rfl queued
    next apart =>
        obtain ⟨here | member, inside⟩ := waiting other queued
        · exact absurd here apart
        · exact ⟨member, inside⟩
  intro other queued
  cases flushed with
  | passed outside =>
      obtain ⟨rfl | member, inside⟩ := waiting other queued
      · exact absurd inside (Nat.not_lt_of_le outside)
      · exact ⟨member, inside⟩
  | dropped answered => exact dequeued other queued
  | putBack _ waits =>
      obtain ⟨here | member, inside⟩ := waiting other queued
      · rw [here]
        exact ⟨List.mem_append_right _ (List.mem_singleton_self _),
          here ▸ inside⟩
      · exact ⟨List.mem_append_left _ member, inside⟩
  | asked due => exact dequeued other queued

theorem Listed.flush (received : Generations) (input : FlushInput)
    (pending : Nat) {repairs : RepairTracking} (entries : List (Nat × Nat))
    (listed : repairs.Listed totalTiles) :
    (flush received totalTiles input pending repairs entries).1.Listed
      totalTiles :=
  flush_invariant received totalTiles input
    (P := fun repairs _ => repairs.Listed totalTiles)
    (fun _ _ _ _ _ first flushed listed => listed.flushed first flushed)
    pending listed

end RepairTracking

theorem covered_lt_totalTiles {config : ServerConfig} {tile : WireTile}
    {tileId : Nat} (covered : tileId ∈ forEachBaseTileCovered config tile) :
    tileId < config.totalTiles := by
  unfold forEachBaseTileCovered wireTileBaseIds at covered
  dsimp only at covered
  split at covered
  · exact absurd covered List.not_mem_nil
  · exact (mem_blockIds.mp covered).1

/-! ## Versions of tiles -/

structure Version where
  tile : WireTile
  contentEpoch : Nat
  generation : Nat
  deriving DecidableEq

def Entry.version (entry : Entry) : Version :=
  ⟨entry.tile, entry.contentEpoch, entry.generation⟩

def headerVersion (header : UdpTilePacketDecoded) : Version :=
  ⟨header.tile, header.contentEpoch, header.tileGeneration⟩

def Version.NewerThan (version older : Version) : Prop :=
  version.tile = older.tile ∧
    (older.contentEpoch < version.contentEpoch ∨
      older.contentEpoch = version.contentEpoch ∧
        older.generation < version.generation)

/-- Every missing base tile under the entry was queued when it left. -/
def Retired.Repaired (record : Retired) : Prop :=
  ∀ tileId ∈ forEachBaseTileCovered record.display record.entry.tile,
    record.receivedGeneration tileId < record.entry.generation →
      record.repairs.Queued tileId record.entry.generation

namespace ReceiverState

variable {zstd : Zstd} {taken : Option UdpTilePacketDecoded}
  {s s' : ReceiverState}

def versions (s : ReceiverState) : List Version :=
  s.reassembler.activeEntries.map Entry.version

theorem updateEntry_versions {change : Entry → Entry}
    (same : ∀ entry, (change entry).version = entry.version) (index : Nat) :
    (s.updateEntry index change).versions = s.versions := by
  show (s.reassembler.activeEntries.modify index change).map Entry.version = _
  apply List.ext_getElem?
  intro position
  rw [List.getElem?_map, List.getElem?_modify, versions, List.getElem?_map,
    Option.map_eq_map, Option.map_map]
  refine congrArg (fun read => Option.map read _) (funext fun entry => ?_)
  show (if index = position then change entry else entry).version = _
  split
  · exact same entry
  · rfl

theorem copyFragment_version (header : UdpTilePacketDecoded) (offset : Nat)
    (payload : List UInt8) (entry : Entry) :
    (copyFragment header offset payload entry).version = entry.version :=
  rfl

theorem noteMetadata_version (header : UdpTilePacketDecoded) (entry : Entry) :
    (noteMetadata header entry).version = entry.version := by
  unfold noteMetadata
  split <;> rfl

theorem removeEntry_versions {index : Nat} {entry : Entry}
    (cause : RetireCause)
    (stored : s.reassembler.activeEntries[index]? = some entry) :
    s.versions.Perm (entry.version :: (s.removeEntry index cause).versions) := by
  rw [removeEntry_eq stored]
  exact ((TileReassembler.removeEntry_removed stored).perm stored).map
    Entry.version

/-! ## What an act does -/

/-- A removed entry was complete, repaired, or of an older version than the
packet that is taken. -/
inductive Leaves (taken : Option UdpTilePacketDecoded) (epoch : Nat)
    (record : Retired) : Prop
  | completed (cause : record.cause = .completed)
  | repaired (queued : record.Repaired)
  | superseded {header : UdpTilePacketDecoded} (taking : taken = some header)
      (cause : record.cause =
        .replaced header.contentEpoch header.tileGeneration)
      (own : record.entry.tile = header.tile)
      (mismatch : matchesHeader header record.entry = false)
      (notOutdated : outdated header record.entry = false)
      (current : header.contentEpoch = epoch)

inductive Effect (taken : Option UdpTilePacketDecoded) (s s' : ReceiverState) :
    Prop
  | kept (versions : s'.versions = s.versions)
      (retired : s'.trace.retired = s.trace.retired)
      (queue : s.repairs.SameQueue s'.repairs)
  | opened {header : UdpTilePacketDecoded} (taking : taken = some header)
      (current : header.contentEpoch = s.remote.epoch)
      (versions : s'.versions = s.versions ++ [headerVersion header])
      (retired : s'.trace.retired = s.trace.retired)
      (queue : s.repairs.SameQueue s'.repairs)
  | dropped (record : Retired)
      (versions : s.versions.Perm (record.entry.version :: s'.versions))
      (retired : s'.trace.retired = s.trace.retired ++ [record])
      (listed : s'.repairs.Listed s.config.display.totalTiles)
      (leaves : Leaves taken s.remote.epoch record)

theorem queueEntryRepair_repaired (entry : Entry) (cause : RetireCause)
    (listed : s.repairs.Listed s.config.display.totalTiles) :
    Retired.Repaired ⟨entry, cause, s.config.display, s.receivedGeneration,
      (s.queueEntryRepair entry).repairs⟩ := by
  intro tileId covered missing
  exact listed.foldl_repairBaseTile_queued covered
    (covered_lt_totalTiles covered) missing

theorem clearEntryRetxInflight_sameQueue (entry : Entry) :
    s.repairs.SameQueue (s.clearEntryRetxInflight entry).repairs :=
  RepairTracking.foldl_sameQueue
    (fun _ _ => RepairTracking.clearRetxInflight_sameQueue _ _) _ _

theorem Act.effect (act : Act zstd taken s s')
    (listed : s.repairs.Listed s.config.display.totalTiles) :
    Effect taken s s' := by
  cases act with
  | @abandon index entry cause stored loss reason =>
      refine .dropped ⟨entry, cause, s.config.display, s.receivedGeneration,
        (s.queueEntryRepair entry).repairs⟩
        (removeEntry_versions (s := s.queueEntryRepair entry) cause stored) ?_ ?_
        (.repaired (queueEntryRepair_repaired entry cause listed))
      · rw [removeEntry_eq (s := s.queueEntryRepair entry) stored]
        rfl
      · rw [removeEntry_eq (s := s.queueEntryRepair entry) stored]
        exact listed.foldl_repairBaseTile _
  | @complete index entry header taking stored own =>
      refine .dropped ⟨entry, .completed, s.config.display,
        s.receivedGeneration, (s.clearEntryRetxInflight entry).repairs⟩
        (removeEntry_versions (s := s.clearEntryRetxInflight entry) _ stored)
        ?_ ?_ (.completed rfl)
      · rw [removeEntry_eq (s := s.clearEntryRetxInflight entry) stored]
        rfl
      · rw [removeEntry_eq (s := s.clearEntryRetxInflight entry) stored]
        exact (clearEntryRetxInflight_sameQueue entry).listed listed
  | @supersede index entry header taking stored own mismatch notOutdated
      current =>
      refine .dropped ⟨entry, .replaced header.contentEpoch
        header.tileGeneration, s.config.display, s.receivedGeneration,
        (s.clearEntryRetxInflight entry).repairs⟩
        (removeEntry_versions (s := s.clearEntryRetxInflight entry) _ stored)
        ?_ ?_ (.superseded taking rfl own mismatch notOutdated current)
      · rw [removeEntry_eq (s := s.clearEntryRetxInflight entry) stored]
        rfl
      · rw [removeEntry_eq (s := s.clearEntryRetxInflight entry) stored]
        exact (clearEntryRetxInflight_sameQueue entry).listed listed
  | @activate packet header now taking storage checked current missing numbered
      room =>
      refine .opened taking current List.map_append rfl ?_
      apply RepairTracking.foldl_sameQueue
      exact fun _ _ => ⟨rfl, rfl⟩
  | note taking stored own =>
      exact .kept (updateEntry_versions (noteMetadata_version _) _) rfl
        ⟨rfl, rfl⟩
  | touch inside => exact .kept rfl rfl ⟨rfl, rfl⟩
  | copy taking stored own checked count size fresh =>
      exact .kept (updateEntry_versions (copyFragment_version _ _ _) _) rfl
        ⟨rfl, rfl⟩

/-! ## The fate of a removed entry -/

def Followed (s : ReceiverState) (later : List Retired) (version : Version) :
    Prop :=
  version ∈ s.versions ∨ ∃ record ∈ later, record.entry.version = version

/-- How a removed entry was made up for; while a packet is taken, the entry for
its version may still be awaited. -/
inductive Fate (awaited : Option Version) (s : ReceiverState)
    (later : List Retired) (record : Retired) : Prop
  | completed (cause : record.cause = .completed)
  | repaired (queued : record.Repaired)
  | replaced {version : Version}
      (newer : version.NewerThan record.entry.version)
      (cause : record.cause =
        .replaced version.contentEpoch version.generation)
      (followed : awaited = some version ∨ s.Followed later version)

theorem Fate.follow {awaited awaited' : Option Version}
    {later later' : List Retired} {record : Retired}
    (follows : ∀ version, awaited = some version ∨ s.Followed later version →
      awaited' = some version ∨ s'.Followed later' version)
    (fate : Fate awaited s later record) : Fate awaited' s' later' record := by
  cases fate with
  | completed cause => exact .completed cause
  | repaired queued => exact .repaired queued
  | replaced newer cause followed =>
      exact .replaced newer cause (follows _ followed)

theorem Fate.grow {awaited : Option Version} {later later' : List Retired}
    {record : Retired}
    (grows : ∀ version, s.Followed later version → s'.Followed later' version)
    (fate : Fate awaited s later record) : Fate awaited s' later' record :=
  fate.follow fun version => Or.imp_right (grows version)

/-- The repairs are in order and every record since the start has its fate. -/
structure Mending (start : List Retired) (awaited : Option Version)
    (s : ReceiverState) : Prop where
  listed : s.repairs.Listed s.config.display.totalTiles
  epochs : ∀ version ∈ s.versions, version.contentEpoch ≤ s.remote.epoch
  fates : ∃ records, s.trace.retired = start ++ records ∧
    ∀ earlier record later, records = earlier ++ record :: later →
      Fate awaited s later record

def Only (header : UdpTilePacketDecoded) (s : ReceiverState) : Prop :=
  ∀ version ∈ s.versions, version.tile = header.tile →
    version = headerVersion header

variable {header : UdpTilePacketDecoded}

theorem superseded_newer {entry : Entry} (own : entry.tile = header.tile)
    (mismatch : matchesHeader header entry = false)
    (notOutdated : outdated header entry = false)
    (epoch : entry.contentEpoch ≤ header.contentEpoch) :
    (headerVersion header).NewerThan entry.version := by
  simp only [matchesHeader, outdated, Bool.and_eq_false_iff,
    decide_eq_false_iff_not] at mismatch notOutdated
  refine ⟨own.symm, ?_⟩
  show entry.contentEpoch < header.contentEpoch ∨
    entry.contentEpoch = header.contentEpoch ∧
      entry.generation < header.tileGeneration
  omega

theorem Leaves.fate {awaited : Option Version} {record : Retired}
    (leaves : Leaves taken s.remote.epoch record)
    (member : record.entry.version ∈ s.versions)
    (epochs : ∀ version ∈ s.versions, version.contentEpoch ≤ s.remote.epoch)
    (expected : ∀ header, taken = some header →
      awaited = some (headerVersion header) ∨ s.Only header) :
    Fate awaited s' [] record := by
  cases leaves with
  | completed cause => exact .completed cause
  | repaired queued => exact .repaired queued
  | @superseded header taking cause own mismatch notOutdated current =>
      have epoch : record.entry.contentEpoch ≤ header.contentEpoch := by
        rw [current]
        exact epochs _ member
      rcases expected header taking with waiting | only
      · exact .replaced (superseded_newer own mismatch notOutdated epoch) cause
          (Or.inl waiting)
      · have same := only _ member own
        simp only [Entry.version, headerVersion, Version.mk.injEq] at same
        simp [matchesHeader, same.2.1, same.2.2] at mismatch

theorem concat_eq_append_cons {α : Type} {records earlier later : List α}
    {added record : α}
    (cut : records ++ [added] = earlier ++ record :: later) :
    (∃ rest, later = rest ++ [added] ∧ records = earlier ++ record :: rest) ∨
      later = [] ∧ record = added := by
  rcases List.eq_nil_or_concat later with rfl | ⟨rest, last, rfl⟩
  · exact Or.inr ⟨rfl, (List.append_inj_right' cut rfl |> List.cons.inj).1.symm⟩
  · rw [List.concat_eq_append] at cut ⊢
    rw [← List.cons_append, ← List.append_assoc] at cut
    obtain ⟨front, back⟩ := List.append_inj' cut rfl
    exact Or.inl ⟨rest, by rw [(List.cons.inj back).1], front⟩

theorem Effect.mending {start : List Retired} {awaited : Option Version}
    (effect : Effect taken s s') (config : s'.config = s.config)
    (remote : s'.remote = s.remote)
    (expected : ∀ header, taken = some header →
      awaited = some (headerVersion header) ∨ s.Only header)
    (mending : Mending start awaited s) : Mending start awaited s' := by
  obtain ⟨listed, epochs, records, retired, fates⟩ := mending
  cases effect with
  | kept versions same queue =>
      refine ⟨config ▸ queue.listed listed, ?_, records, same.trans retired, ?_⟩
      · rw [versions, remote]
        exact epochs
      · intro earlier record later cut
        refine (fates earlier record later cut).grow fun version => ?_
        unfold Followed
        rw [versions]
        exact id
  | @opened header taking current versions same queue =>
      refine ⟨config ▸ queue.listed listed, ?_, records, same.trans retired, ?_⟩
      · rw [versions, remote]
        intro version member
        rcases List.mem_append.mp member with old | new
        · exact epochs version old
        · rw [List.mem_singleton.mp new]
          exact Nat.le_of_eq current
      · intro earlier record later cut
        refine (fates earlier record later cut).grow fun version followed => ?_
        refine followed.imp_left fun active => ?_
        rw [versions]
        exact List.mem_append_left _ active
  | dropped record versions same listed' leaves =>
      have member : record.entry.version ∈ s.versions :=
        versions.mem_iff.mpr List.mem_cons_self
      refine ⟨config ▸ listed', ?_, records ++ [record], ?_, ?_⟩
      · rw [remote]
        exact fun version left => epochs version
          (versions.mem_iff.mpr (List.mem_cons_of_mem _ left))
      · rw [same, retired, List.append_assoc]
      · intro earlier other later cut
        rcases concat_eq_append_cons cut with
          ⟨rest, rfl, before⟩ | ⟨rfl, rfl⟩
        · refine (fates earlier other rest before).grow fun version => ?_
          -- The version that was dropped is now that of a later record.
          rintro (active | ⟨found, inside, own⟩)
          · rcases List.mem_cons.mp (versions.mem_iff.mp active) with
              here | left
            · exact Or.inr ⟨record, List.mem_append_right _
                (List.mem_singleton_self _), here.symm⟩
            · exact Or.inl left
          · exact Or.inr ⟨found, List.mem_append_left _ inside, own⟩
        · exact leaves.fate member epochs expected

theorem Acts.mending {start : List Retired} {awaited : Option Version}
    (acts : Acts zstd taken s s')
    (expected : ∀ header, taken = some header →
      awaited = some (headerVersion header))
    (mending : Mending start awaited s) : Mending start awaited s' :=
  acts.keep (fun act mending =>
    (act.effect mending.listed).mending act.rest.1 act.rest.2.1
      (fun header taking => Or.inl (expected header taking)) mending) mending

theorem Effect.only (effect : Effect (some header) s s') (only : s.Only header) :
    s'.Only header := by
  intro version member own
  cases effect with
  | kept versions =>
      rw [versions] at member
      exact only version member own
  | opened taking current versions =>
      rw [versions] at member
      rcases List.mem_append.mp member with old | new
      · exact only version old own
      · rw [List.mem_singleton.mp new, Option.some.inj taking]
  | dropped record versions =>
      exact only version
        (versions.mem_iff.mpr (List.mem_cons_of_mem _ member)) own

variable {start : List Retired}

theorem Acts.mending_only (acts : Acts zstd (some header) s s')
    (only : s.Only header) (mending : Mending start none s) :
    Mending start none s' := by
  refine (acts.keep (P := fun t => t.Only header ∧ Mending start none t) ?_
    ⟨only, mending⟩).2
  rintro t t' act ⟨only, mending⟩
  have effect := act.effect mending.listed
  refine ⟨effect.only only, effect.mending act.rest.1 act.rest.2.1 ?_ mending⟩
  intro other taking
  cases Option.some.inj taking
  exact Or.inr only

theorem Mending.arrived {version : Version}
    (mending : Mending start (some version) s) (active : version ∈ s.versions) :
    Mending start none s := by
  obtain ⟨listed, epochs, records, retired, fates⟩ := mending
  refine ⟨listed, epochs, records, retired, fun earlier record later cut =>
    (fates earlier record later cut).follow fun other followed => .inr ?_⟩
  rcases followed with waiting | already
  · rw [← Option.some.inj waiting]
    exact Or.inl active
  · exact already

theorem Mending.await (mending : Mending start none s) (version : Version) :
    Mending start (some version) s := by
  obtain ⟨listed, epochs, records, retired, fates⟩ := mending
  exact ⟨listed, epochs, records, retired, fun earlier record later cut =>
    (fates earlier record later cut).follow fun _ followed =>
      .inr (followed.resolve_left (by simp))⟩

/-! ## Slots -/

def Slotted (s : ReceiverState) : Prop :=
  0 < s.reassembler.entryFrameWidth → ∀ size, s.reassembler.slotCount size =
    tilesForWidthWithTile s.reassembler.entryFrameWidth size.width *
      tilesForHeightWithTile s.reassembler.entryFrameHeight size.height

theorem Slotted.keep (same : layout s'.reassembler = layout s.reassembler)
    (slotted : s.Slotted) : s'.Slotted := by
  obtain ⟨slots, frame⟩ := Prod.mk.inj same
  obtain ⟨width, height⟩ := Prod.mk.inj frame
  unfold Slotted
  rw [slots, width, height]
  exact slotted

theorem Laid.slotted (laid : Laid s s') (slotted : s.Slotted) : s'.Slotted := by
  rcases laid.slots with rfl | counts
  · exact slotted
  · intro _ size
    rw [laid.frame.1, laid.frame.2, laid.rest.1]
    exact counts size

theorem resetReassembler_slotted : s.resetReassembler.Slotted :=
  fun wide => absurd wide (Nat.lt_irrefl 0)

structure Orderly (s : ReceiverState) : Prop where
  slotted : s.Slotted
  listed : s.repairs.Listed s.config.display.totalTiles

theorem Effect.listed (effect : Effect taken s s')
    (listed : s.repairs.Listed s.config.display.totalTiles) :
    s'.repairs.Listed s.config.display.totalTiles := by
  cases effect with
  | kept _ _ queue => exact queue.listed listed
  | opened _ _ _ _ queue => exact queue.listed listed
  | dropped _ _ _ listed' => exact listed'

theorem Act.orderly (act : Act zstd taken s s') (orderly : s.Orderly) :
    s'.Orderly :=
  ⟨orderly.slotted.keep act.layout_eq,
    act.rest.1 ▸ (act.effect orderly.listed).listed orderly.listed⟩

theorem Laid.orderly (laid : Laid s s') (orderly : s.Orderly) : s'.Orderly := by
  refine ⟨laid.slotted orderly.slotted, ?_⟩
  rw [laid.repairs, laid.rest.1]
  exact orderly.listed

theorem Orderly.keep (orderly : s.Orderly) (config : s'.config = s.config)
    (reassembler : s'.reassembler = s.reassembler)
    (listed : s'.repairs.Listed s.config.display.totalTiles) : s'.Orderly :=
  ⟨orderly.slotted.keep (congrArg layout reassembler), config ▸ listed⟩

theorem resetReassembler_orderly (orderly : s.Orderly) :
    s.resetReassembler.Orderly := by
  refine ⟨resetReassembler_slotted, ?_⟩
  rw [resetReassembler_rest.1]
  exact removeAll_repairs _ s ▸ orderly.listed

theorem receivePacket_orderly {arrival : Arrival}
    {overtaking : List (Nat × ContentOwner)} (safe : s.Safe)
    (current : ∀ header, udpTilePacketDecode arrival.bytes = some header →
      header.contentEpoch = s.remote.epoch) (orderly : s.Orderly) :
    (s.receivePacket zstd arrival overtaking).state.Orderly := by
  have taken : (processUdpPacket zstd s arrival).1.Orderly := by
    cases admitted : admitPacket zstd s arrival.bytes with
    | none =>
        rw [processUdpPacket_refused admitted]
        exact orderly
    | some header =>
        obtain ⟨checked, -⟩ := admitPacket_eq_some admitted
        exact (processUdpPacket_taken safe admitted
          (current header checked.decoded)).keep safe checked
          (fun laid => laid.orderly orderly) (fun act => act.orderly) orderly
  rcases receivePacket_cases zstd s arrival overtaking with
    ⟨pending, -⟩ | ⟨tile, -, completed⟩
  · rw [pending]
    exact taken
  · rw [completed]
    obtain ⟨config, reassembler, repairs, -⟩ :=
      (processUdpPacket zstd s arrival).1.offerAll_rest overtaking
    have offered := taken.keep config reassembler (repairs ▸ taken.listed)
    unfold publish
    split
    · exact offered.keep rfl rfl (offered.listed.foldl_clearCompleted _ _)
    · exact offered

theorem step_orderly (event : ReceiverEvent) (safe : s.Safe)
    (orderly : s.Orderly) : (s.step zstd event).Orderly := by
  cases event with
  | datagram arrival overtaking =>
      show (s.processUdpDatagram zstd arrival overtaking).state.Orderly
      rcases processUdpDatagram_cases zstd s arrival overtaking with
        ignored | ⟨header, t, screened, entered, result⟩
      · rw [ignored]
        exact orderly
      · rw [result]
        refine receivePacket_orderly (entered.safe safe)
          (entered.current screened) ?_
        rcases entered.cases with rfl | ⟨-, rfl⟩
        · exact orderly
        · exact resetReassembler_orderly (orderly.keep rfl rfl orderly.listed)
  | expire now timeoutNs =>
      have acts : Acts zstd none s (s.expireStaleEntries now timeoutNs) :=
        expireStaleEntries_acts _ _
      exact acts.keep (fun act => act.orderly) orderly
  | offerContentEpoch epoch owner =>
      obtain ⟨config, reassembler, repairs, -⟩ :=
        s.acceptContentEpoch_rest epoch owner
      exact orderly.keep config reassembler (repairs ▸ orderly.listed)
  | queueRetransmit tileId generation =>
      show (s.queueRetransmitTile tileId generation).Orderly
      unfold queueRetransmitTile
      split
      · exact orderly
      · rename_i valid
        push Not at valid
        exact orderly.keep rfl rfl (orderly.listed.enqueue valid.1 generation)
  | flush input =>
      exact orderly.keep rfl rfl (orderly.listed.flush _ _ _ _)
  | configure config =>
      exact ⟨orderly.slotted.keep rfl, RepairTracking.initial_listed⟩
  | resetContentEpoch => exact orderly.keep rfl rfl orderly.listed
  | observeConfiguration => exact resetReassembler_orderly orderly

theorem run_orderly (zstd : Zstd) (config : ReceiveConfig) (contentEpoch
    maxActiveEntries maxActivePayloadBytes : Nat)
    (events : List ReceiverEvent) :
    (runFrom (step zstd) (initial config contentEpoch maxActiveEntries
      maxActivePayloadBytes) events).Orderly := by
  have start : (initial config contentEpoch maxActiveEntries
      maxActivePayloadBytes).Safe := (initial_bounded _ _ _ _).safe
  have orderly : (initial config contentEpoch maxActiveEntries
      maxActivePayloadBytes).Orderly :=
    ⟨fun wide => absurd wide (Nat.lt_irrefl 0), RepairTracking.initial_listed⟩
  generalize initial config contentEpoch maxActiveEntries
    maxActivePayloadBytes = s at start orderly
  induction events generalizing s with
  | nil => exact orderly
  | cons event rest ih =>
      exact ih _ (step_safe event start) (step_orderly event start orderly)

/-! ## Between two resets -/

/-- The budget admits a tile of every size, compressed or not. -/
def AdmitsEveryTile (zstd : Zstd) (maxActivePayloadBytes : Nat) : Prop :=
  ∀ size : TileSize, size.bytes ≤ maxActivePayloadBytes ∧
    zstd.compressBound size.bytes ≤ maxActivePayloadBytes

/-- The reassembler is reset by an observed configuration and by the first
packet of a newer epoch. -/
def resets (zstd : Zstd) (s : ReceiverState) : ReceiverEvent → Bool
  | .datagram arrival _ =>
      (screenDatagram zstd s arrival.bytes).any fun header =>
        s.remote.judge header.contentEpoch .tiles = .advanced
  | .observeConfiguration => true
  | _ => false

structure Tended (zstd : Zstd) (start : List Retired) (s : ReceiverState) :
    Prop where
  safe : s.Safe
  entries : 0 < s.reassembler.maxActiveEntries
  admits : AdmitsEveryTile zstd s.reassembler.maxActivePayloadBytes
  slotted : s.Slotted
  framed : s.FrameFits ∨ s.reassembler.activeEntries = []
  mending : Mending start none s

variable {start : List Retired}

theorem Tended.keep (tended : s.Tended zstd start)
    (config : s'.config = s.config)
    (reassembler : s'.reassembler = s.reassembler) (trace : s'.trace = s.trace)
    (listed : s'.repairs.Listed s.config.display.totalTiles)
    (epoch : s.remote.epoch ≤ s'.remote.epoch) : s'.Tended zstd start := by
  have versions : s'.versions = s.versions := by
    rw [ReceiverState.versions, reassembler]
    rfl
  obtain ⟨-, epochs, records, retired, fates⟩ := tended.mending
  refine ⟨⟨reassembler ▸ tended.safe.well, trace ▸ tended.safe.copies⟩,
    reassembler ▸ tended.entries, reassembler ▸ tended.admits,
    tended.slotted.keep (congrArg layout reassembler), ?_,
    ⟨config ▸ listed, ?_, records, trace ▸ retired, ?_⟩⟩
  · unfold FrameFits
    rw [reassembler, config]
    exact tended.framed
  · rw [versions]
    exact fun version member => Nat.le_trans (epochs version member) epoch
  · intro earlier record later cut
    refine (fates earlier record later cut).grow fun version => ?_
    unfold Followed
    rw [versions]
    exact id

theorem FrameFits.keep (fits : s.FrameFits) (config : s'.config = s.config)
    (same : layout s'.reassembler = layout s.reassembler) : s'.FrameFits := by
  obtain ⟨-, frame⟩ := Prod.mk.inj same
  obtain ⟨width, height⟩ := Prod.mk.inj frame
  unfold FrameFits
  rw [width, height, config]
  exact fits

theorem Acts.idle (acts : Acts zstd none s s')
    (idle : s.reassembler.activeEntries = []) :
    s'.reassembler.activeEntries = [] := by
  refine acts.keep (P := fun t => t.reassembler.activeEntries = []) ?_ idle
  intro t t' act idle
  cases act with
  | abandon stored =>
      rw [idle] at stored
      cases stored
  | touch => exact idle
  | complete taking => cases taking
  | supersede taking => cases taking
  | activate taking => cases taking
  | note taking => cases taking
  | copy taking => cases taking

theorem Tended.expire (tended : s.Tended zstd start)
    (acts : Acts zstd none s s') : s'.Tended zstd start := by
  obtain ⟨entries, bytes⟩ := Prod.mk.inj acts.limits_eq
  refine ⟨acts.safe tended.safe, entries ▸ tended.entries,
    bytes ▸ tended.admits, tended.slotted.keep acts.layout_eq, ?_,
    acts.mending nofun tended.mending⟩
  rcases tended.framed with fits | idle
  · exact Or.inl (fits.keep acts.rest.1 acts.layout_eq)
  · exact Or.inr (acts.idle idle)

theorem Tended.laid (tended : s.Tended zstd start) (laid : Laid s s') :
    s'.Tended zstd start := by
  obtain ⟨config, remote, -⟩ := laid.rest
  obtain ⟨entries, bytes⟩ := Prod.mk.inj laid.limits
  obtain ⟨trace, table⟩ := laid.kept tended.framed
  have versions : s'.versions = s.versions := by
    rw [ReceiverState.versions, TileReassembler.activeEntries, table]
    rfl
  obtain ⟨listed, epochs, records, retired, fates⟩ := tended.mending
  refine ⟨laid.safe tended.safe, entries ▸ tended.entries,
    bytes ▸ tended.admits, laid.slotted tended.slotted, Or.inl laid.frame,
    ⟨?_, ?_, records, trace ▸ retired, ?_⟩⟩
  · rw [laid.repairs, config]
    exact listed
  · rw [versions, remote]
    exact epochs
  · intro earlier record later cut
    refine (fates earlier record later cut).grow fun version => ?_
    unfold Followed
    rw [versions]
    exact id

theorem Tended.roomy {packet : List UInt8} (tended : s.Tended zstd start)
    (fits : s.FrameFits) (checked : Checked zstd s.config packet header) :
    Roomy header s := by
  have wide : 0 < s.reassembler.entryFrameWidth := by
    rw [fits.1]
    exact s.config.display.width_pos
  refine ⟨?_, tended.entries, ?_⟩
  · obtain ⟨plain, packed⟩ := tended.admits header.tileSize
    cases compressed : header.isCompressed with
    | true => exact Nat.le_trans (checked.valid.compressed compressed) packed
    | false => exact (checked.valid.raw compressed) ▸ plain
  · rw [tended.slotted wide, fits.1, fits.2]
    exact checked.valid.inGrid

theorem Safe.only {index : Nat} {entry : Entry} (safe : s.Safe)
    (stored : s.reassembler.activeEntries[index]? = some entry)
    (own : entry.tile = header.tile)
    (version : entry.version = headerVersion header) : s.Only header := by
  intro other member same
  obtain ⟨found, active, rfl⟩ := List.mem_map.mp member
  have first := safe.well.indexed.find_eq_some.mpr
    ⟨List.mem_of_getElem? stored, own⟩
  have second := safe.well.indexed.find_eq_some.mpr ⟨active, same⟩
  rw [first, Option.some.injEq] at second
  rw [← second]
  exact version

theorem Tended.packet {arrival : Arrival} (tended : s.Tended zstd start)
    (admitted : admitPacket zstd s arrival.bytes = some header)
    (current : header.contentEpoch = s.remote.epoch) :
    (processUdpPacket zstd s arrival).1.Tended zstd start := by
  obtain ⟨checked, -⟩ := admitPacket_eq_some admitted
  have taken := processUdpPacket_taken tended.safe admitted current
  generalize processUdpPacket zstd s arrival = result at taken
  cases taken with
  | unlaid => exact tended
  | late laid => exact tended.laid laid
  | full laid notOutdated cramped acts =>
      have checkedLaid := laid.rest.1.symm ▸ checked
      exact absurd ((tended.laid laid).roomy laid.frame checkedLaid) cramped
  | @fragment t u index entry laid notOutdated prepared acts stored own fits =>
      have before := tended.laid laid
      have safe := acts.safe before.safe
      have version : entry.version = headerVersion header := by
        simp only [matchesHeader, Bool.and_eq_true, decide_eq_true_eq] at fits
        simp only [Entry.version, headerVersion, own, fits.1, fits.2]
      have active : headerVersion header ∈ u.versions :=
        version ▸ List.mem_map_of_mem (List.mem_of_getElem? stored)
      -- Until the packet has its entry, the one it replaced awaits it.
      have opened : Mending start none u :=
        (acts.mending (fun other taking =>
          congrArg (fun header => some (headerVersion header))
            (Option.some.inj taking))
          (before.mending.await (headerVersion header))).arrived active
      have checkedLater : Checked zstd u.config arrival.bytes header := by
        rw [acts.rest.1, laid.rest.1]
        exact checked
      have later := takeFragment_acts safe checkedLater stored own
      have whole := acts.trans later
      obtain ⟨entries, bytes⟩ := Prod.mk.inj whole.limits_eq
      exact ⟨whole.safe before.safe, entries ▸ before.entries,
        bytes ▸ before.admits, before.slotted.keep whole.layout_eq,
        Or.inl (laid.frame.keep whole.rest.1 whole.layout_eq),
        later.mending_only (safe.only stored own version) opened⟩

theorem acceptContentEpoch_epoch (epoch : Nat) (owner : ContentOwner) :
    s.remote.epoch ≤ (s.acceptContentEpoch epoch owner).remote.epoch := by
  unfold acceptContentEpoch
  split
  · rename_i judged
    unfold RemoteContent.judge at judged
    split_ifs at judged
    show s.remote.epoch ≤ epoch
    omega
  · exact Nat.le_refl _

theorem Tended.offer (tended : s.Tended zstd start) (epoch : Nat)
    (owner : ContentOwner) :
    (s.acceptContentEpoch epoch owner).Tended zstd start := by
  obtain ⟨config, reassembler, repairs, -, trace⟩ :=
    s.acceptContentEpoch_rest epoch owner
  exact tended.keep config reassembler trace (repairs ▸ tended.mending.listed)
    (acceptContentEpoch_epoch epoch owner)

theorem Tended.offerAll (offers : List (Nat × ContentOwner))
    {s : ReceiverState} (tended : s.Tended zstd start) :
    (s.offerAll offers).Tended zstd start := by
  induction offers generalizing s with
  | nil => exact tended
  | cons offer rest ih => exact ih (tended.offer offer.1 offer.2)

theorem Tended.publish (tended : s.Tended zstd start) (tile : ReassembledTile) :
    (s.publish tile).1.Tended zstd start := by
  unfold ReceiverState.publish
  split
  · exact tended.keep rfl rfl rfl
      (tended.mending.listed.foldl_clearCompleted _ _) (Nat.le_refl _)
  · exact tended

theorem Tended.receivePacket {arrival : Arrival}
    {overtaking : List (Nat × ContentOwner)} (tended : s.Tended zstd start)
    (current : ∀ header, udpTilePacketDecode arrival.bytes = some header →
      header.contentEpoch = s.remote.epoch) :
    (s.receivePacket zstd arrival overtaking).state.Tended zstd start := by
  have taken : (processUdpPacket zstd s arrival).1.Tended zstd start := by
    cases admitted : admitPacket zstd s arrival.bytes with
    | none =>
        rw [processUdpPacket_refused admitted]
        exact tended
    | some header =>
        obtain ⟨checked, -⟩ := admitPacket_eq_some admitted
        exact tended.packet admitted (current header checked.decoded)
  rcases receivePacket_cases zstd s arrival overtaking with
    ⟨pending, -⟩ | ⟨tile, -, completed⟩
  · rw [pending]
    exact taken
  · rw [completed]
    exact (taken.offerAll overtaking).publish tile

theorem enterEpoch_of_not_advanced {epoch : Nat} {t : ReceiverState}
    (accepted : s.enterEpoch epoch = some t)
    (settled : s.remote.judge epoch .tiles ≠ .advanced) : t = s := by
  unfold enterEpoch at accepted
  split at accepted
  · cases accepted
  · exact (Option.some.inj accepted).symm
  · rename_i advanced
    exact absurd advanced settled

theorem processUdpDatagram_settled {arrival : Arrival}
    {overtaking : List (Nat × ContentOwner)}
    (kept : s.resets zstd (.datagram arrival overtaking) = false) :
    (s.processUdpDatagram zstd arrival overtaking = ⟨s, none, none⟩ ∧
      ∀ header, screenDatagram zstd s arrival.bytes = some header →
        s.enterEpoch header.contentEpoch = none) ∨
    ((∀ header, udpTilePacketDecode arrival.bytes = some header →
        header.contentEpoch = s.remote.epoch) ∧
      s.processUdpDatagram zstd arrival overtaking =
        s.receivePacket zstd arrival overtaking) := by
  unfold processUdpDatagram
  cases screened : screenDatagram zstd s arrival.bytes with
  | none => exact Or.inl ⟨rfl, nofun⟩
  | some header =>
      dsimp only
      cases accepted : s.enterEpoch header.contentEpoch with
      | none =>
          refine Or.inl ⟨rfl, fun other same => ?_⟩
          cases same
          exact accepted
      | some t =>
          rw [resets, screened] at kept
          have settled : s.remote.judge header.contentEpoch .tiles ≠
              .advanced := by
            simpa using kept
          have entered := enterEpoch_entered accepted
          cases enterEpoch_of_not_advanced accepted settled
          exact Or.inr ⟨entered.current screened, rfl⟩

theorem Tended.step (tended : s.Tended zstd start) {event : ReceiverEvent}
    (same : event.isConfigure = false) (kept : s.resets zstd event = false) :
    (s.step zstd event).Tended zstd start := by
  cases event with
  | datagram arrival overtaking =>
      show (s.processUdpDatagram zstd arrival overtaking).state.Tended zstd start
      rcases processUdpDatagram_settled kept with
        ⟨ignored, -⟩ | ⟨current, taken⟩
      · rw [ignored]
        exact tended
      · rw [taken]
        exact tended.receivePacket current
  | expire now timeoutNs => exact tended.expire (expireStaleEntries_acts _ _)
  | offerContentEpoch epoch owner => exact tended.offer epoch owner
  | queueRetransmit tileId generation =>
      show (s.queueRetransmitTile tileId generation).Tended zstd start
      unfold queueRetransmitTile
      split
      · exact tended
      · rename_i valid
        push Not at valid
        exact tended.keep rfl rfl rfl
          (tended.mending.listed.enqueue valid.1 generation) (Nat.le_refl _)
  | flush input =>
      exact tended.keep rfl rfl rfl
        (tended.mending.listed.flush _ _ _ _) (Nat.le_refl _)
  | configure | resetContentEpoch => cases same
  | observeConfiguration => cases kept

/-! ## Whole runs -/

theorem tended_of_idle (safe : s.Safe) (orderly : s.Orderly)
    (entries : 0 < s.reassembler.maxActiveEntries)
    (admits : AdmitsEveryTile zstd s.reassembler.maxActivePayloadBytes)
    (idle : s.reassembler.activeEntries = []) :
    s.Tended zstd s.trace.retired := by
  refine ⟨safe, entries, admits, orderly.slotted, Or.inr idle,
    ⟨orderly.listed, ?_, [], (List.append_nil _).symm, ?_⟩⟩
  · intro version member
    rw [versions, idle] at member
    exact absurd member List.not_mem_nil
  · intro earlier record later cut
    exact absurd cut.symm (List.append_ne_nil_of_right_ne_nil _
      (List.cons_ne_nil _ _))

theorem tended_of_idle_bounded {maxActiveEntries maxActivePayloadBytes : Nat}
    (bounded : s.Bounded (max 1 maxActiveEntries) (max 1 maxActivePayloadBytes))
    (orderly : s.Orderly)
    (admits : AdmitsEveryTile zstd maxActivePayloadBytes)
    (idle : s.reassembler.activeEntries = []) :
    s.Tended zstd s.trace.retired := by
  obtain ⟨maxEntries, maxBytes⟩ := Prod.mk.inj bounded.limits
  refine tended_of_idle bounded.safe orderly ?_ ?_ idle
  · rw [maxEntries]
    exact Nat.le_max_left _ _
  · intro size
    rw [maxBytes]
    exact ⟨Nat.le_trans (admits size).1 (Nat.le_max_right _ _),
      Nat.le_trans (admits size).2 (Nat.le_max_right _ _)⟩

/--
From any state without entries that a run reaches, as every reset leaves one, to
the next reset or configuration: whenever an entry was removed, its tile was
complete, or a repair of its generation waited for every base tile under it that
was still older, or a newer version of its tile took its place, which is still
being reassembled or was itself removed later.
-/
theorem removals_made_up_for (zstd : Zstd) (config : ReceiveConfig)
    (contentEpoch maxActiveEntries maxActivePayloadBytes : Nat)
    (history events : List ReceiverEvent) (start : ReceiverState)
    (reached : runFrom (step zstd) (initial config contentEpoch maxActiveEntries
      maxActivePayloadBytes) history = start)
    (idle : start.reassembler.activeEntries = [])
    (admits : AdmitsEveryTile zstd maxActivePayloadBytes)
    (undisturbed : Along (step zstd) (fun s event =>
      event.isConfigure = false ∧ s.resets zstd event = false) start events) :
    let s := runFrom (step zstd) start events
    ∃ records, s.trace.retired = start.trace.retired ++ records ∧
      ∀ earlier record later, records = earlier ++ record :: later →
        record.cause = .completed ∨ record.Repaired ∨
          ∃ version : Version, version.NewerThan record.entry.version ∧
            record.cause =
              .replaced version.contentEpoch version.generation ∧
            s.Followed later version := by
  have bounded := run_bounded zstd config contentEpoch maxActiveEntries
    maxActivePayloadBytes history
  have orderly := run_orderly zstd config contentEpoch maxActiveEntries
    maxActivePayloadBytes history
  rw [reached] at bounded orderly
  have tended := tended_of_idle_bounded bounded orderly admits idle
  have final := invariant_runFrom
    (fun _ _ tended permitted => tended.step permitted.1 permitted.2) tended
    undisturbed
  obtain ⟨-, -, records, retired, fates⟩ := final.mending
  refine ⟨records, retired, ?_⟩
  intro earlier record later cut
  cases fates earlier record later cut with
  | completed cause => exact Or.inl cause
  | repaired queued => exact Or.inr (Or.inl queued)
  | @replaced version newer cause followed =>
      exact Or.inr (Or.inr ⟨version, newer, cause,
        followed.resolve_left nofun⟩)

def replacedAndExpired : List ReceiverEvent :=
  [.datagram (halfTile 3 5 0 1) [], .datagram (halfTile 3 6 0 2) [],
    .expire 5000 fun _ => 1000]

theorem removals_made_up_for_replacedAndExpired :
    let start := initial smallPackets 3 8 40000
    let s := runFrom (step .stored) start replacedAndExpired
    s.trace.retired.map Retired.cause = [.replaced 3 6, .timedOut] ∧
      s.repairs.Queued 0 6 ∧
      ∃ records, s.trace.retired = start.trace.retired ++ records ∧
        ∀ earlier record later, records = earlier ++ record :: later →
          record.cause = .completed ∨ record.Repaired ∨
            ∃ version : Version, version.NewerThan record.entry.version ∧
              record.cause =
                .replaced version.contentEpoch version.generation ∧
              s.Followed later version :=
  ⟨by decide +kernel, by decide +kernel,
    removals_made_up_for .stored smallPackets 3 8 40000 [] replacedAndExpired
      (initial smallPackets 3 8 40000) rfl rfl
      (fun size => by cases size <;> decide) (by decide +kernel)⟩

end ReceiverState

end WayDisplay.Client
