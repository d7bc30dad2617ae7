import WayDisplay.Client.Reassembly.Repairs
import WayDisplay.Client.Repairs.Passes

/-!
Every pending tile has a decision ahead of it.

`Kept` states this for the tables of one moment, together with the agreement
between the generations and the dense list of pending tiles.  A promotion pass
takes entries off the due queue before it decides on them; until each of them is
scheduled again or requested, it is carried beside the queue.
-/

namespace WayDisplay.Client

open Common Foundation

namespace SummaryPending

/-! ## The index -/

section Index

variable {index : SlotTable Nat Nat}

/-- On a table whose slots agree with its items, the removal of the source is
the removal of the library. -/
theorem indexRemove_eq_swapRemove (indexed : index.Indexed id)
    {tileId position : Nat} (named : index.slot tileId = some position) :
    indexRemove index tileId = index.swapRemove id position := by
  obtain ⟨item, stored, keyed⟩ := indexed.getElem_of_slot named
  have inside := (List.getElem?_eq_some_iff.mp stored).choose
  obtain ⟨moved, last, removed⟩ := SlotTable.swapRemove_of_getElem id stored
  have lastTile : index.items.getLastD 0 = moved := by
    rw [List.getLastD_eq_getLast?, List.getLast?_eq_getElem?, last,
      Option.getD_some]
  rw [indexRemove, named]
  dsimp only
  rw [if_neg (Nat.not_le.mpr inside), removed, lastTile]
  congr 1
  funext k
  have slots := indexed.slot_swapRemove stored last k
  rw [removed] at slots
  dsimp only at slots
  rw [slots, keyed, Function.update_apply, Function.update_apply]
  rfl

theorem indexRemove_of_free {tileId : Nat} (free : index.slot tileId = none) :
    indexRemove index tileId = index := by
  rw [indexRemove, free]

theorem indexed_indexRemove (indexed : index.Indexed id) (tileId : Nat) :
    (indexRemove index tileId).Indexed id := by
  cases named : index.slot tileId with
  | none => rwa [indexRemove_of_free named]
  | some position =>
      rw [indexRemove_eq_swapRemove indexed named]
      exact indexed.swapRemove position

theorem isSome_slot_indexRemove (indexed : index.Indexed id)
    (tileId other : Nat) :
    ((indexRemove index tileId).slot other).isSome ↔
      other ≠ tileId ∧ (index.slot other).isSome := by
  cases named : index.slot tileId with
  | none =>
      rw [indexRemove_of_free named]
      constructor
      · intro listed
        refine ⟨?_, listed⟩
        rintro rfl
        rw [named] at listed
        cases listed
      · exact And.right
  | some position =>
      obtain ⟨item, stored, keyed⟩ := indexed.getElem_of_slot named
      obtain ⟨moved, last, -⟩ := SlotTable.swapRemove_of_getElem id stored
      rw [indexRemove_eq_swapRemove indexed named,
        indexed.slot_swapRemove stored last, keyed]
      split_ifs with gone follows
      · simp [gone]
      · have lastSlot := indexed.slot_of_getElem last
        rw [← follows] at lastSlot
        simp [gone, lastSlot]
      · simp [gone]

theorem indexAdd_spec (indexed : index.Indexed id) {tileId : Nat}
    {index' : SlotTable Nat Nat} (added : indexAdd index tileId = some index') :
    index'.Indexed id ∧ ∀ other,
      (index'.slot other).isSome ↔
        other = tileId ∨ (index.slot other).isSome := by
  unfold indexAdd at added
  cases named : index.slot tileId with
  | some position =>
      rw [named] at added
      cases added
      refine ⟨indexed, fun other => ⟨Or.inr, ?_⟩⟩
      rintro (rfl | listed)
      · rw [named]
        rfl
      · exact listed
  | none =>
      rw [named] at added
      dsimp only at added
      split at added
      · cases added
      · cases added
        refine ⟨indexed.push named, fun other => ?_⟩
        rw [SlotTable.push]
        dsimp only
        rw [Function.update_apply]
        split_ifs with own
        · exact ⟨fun _ => .inl own, fun _ => rfl⟩
        · exact ⟨.inr, fun either => either.resolve_left own⟩

end Index

/-! ## Decisions ahead -/

/-- The pending tiles are the listed ones, and a decision about each lies in the
due queue or among the carried ones. -/
structure Kept (totalTiles : Nat) (carried : List (Nat × Nat))
    (pending : SummaryPending) : Prop where
  indexed : pending.index.Indexed id
  listed : ∀ tileId,
    (pending.index.slot tileId).isSome ↔ pending.generation tileId ≠ 0
  inside : ∀ tileId, pending.generation tileId ≠ 0 → tileId < totalTiles
  since : ∀ tileId, pending.generation tileId ≠ 0 → pending.sinceNs tileId ≠ 0
  ahead : ∀ tileId, pending.generation tileId ≠ 0 →
    (tileId, pending.generation tileId) ∈
      carried ++ pending.dueQueue.map SummaryRepairDue.target

theorem kept_empty (totalTiles : Nat) (dueQueue : List SummaryRepairDue) :
    Kept totalTiles [] { SummaryPending.empty with dueQueue := dueQueue } where
  indexed := SlotTable.indexed_empty id
  listed _ := by simp [SummaryPending.empty, SlotTable.empty]
  inside _ pending := absurd rfl pending
  since _ pending := absurd rfl pending
  ahead _ pending := absurd rfl pending

section Operations

variable {totalTiles : Nat} {carried carried' : List (Nat × Nat)}
  {pending : SummaryPending}

theorem Kept.carry (kept : pending.Kept totalTiles carried)
    (moved : ∀ target ∈ carried,
      pending.generation target.1 = target.2 → target.2 ≠ 0 →
        target ∈ carried') :
    pending.Kept totalTiles carried' where
  indexed := kept.indexed
  listed := kept.listed
  inside := kept.inside
  since := kept.since
  ahead tileId waiting := by
    rw [List.mem_append]
    rcases List.mem_append.mp (kept.ahead tileId waiting) with here | queued
    · exact .inl (moved _ here rfl waiting)
    · exact .inr queued

theorem Kept.clear (kept : pending.Kept totalTiles carried) (tileId : Nat)
    (moved : ∀ target ∈ carried, target.1 ≠ tileId → target ∈ carried') :
    (pending.clear tileId).Kept totalTiles carried' := by
  -- The other tiles are where they were, and wait for what they waited for.
  have other : ∀ k, (pending.clear tileId).generation k ≠ 0 →
      k ≠ tileId ∧ pending.generation k ≠ 0 := by
    intro k waiting
    rw [clear_generation] at waiting
    split_ifs at waiting with own
    · exact absurd rfl waiting
    · exact ⟨own, waiting⟩
  refine ⟨indexed_indexRemove kept.indexed tileId, ?_, ?_, ?_, ?_⟩
  · intro k
    rw [clear_generation]
    refine (isSome_slot_indexRemove kept.indexed tileId k).trans ?_
    rw [kept.listed k]
    split_ifs with own
    · simp [own]
    · simp [own]
  · intro k waiting
    exact kept.inside k (other k waiting).2
  · intro k waiting
    obtain ⟨distinct, before⟩ := other k waiting
    rw [clear_sinceNs, if_neg distinct]
    exact kept.since k before
  · intro k waiting
    obtain ⟨distinct, before⟩ := other k waiting
    rw [clear_generation, if_neg distinct, List.mem_append]
    rcases List.mem_append.mp (kept.ahead k before) with here | queued
    · exact .inl (moved _ here distinct)
    · exact .inr queued

theorem Kept.schedule (kept : pending.Kept totalTiles carried)
    (tileId generation dueNs : Nat)
    (moved : ∀ target ∈ carried,
      target ≠ (tileId, generation) → target ∈ carried') :
    (pending.schedule tileId generation dueNs).Kept totalTiles carried' where
  indexed := kept.indexed
  listed := kept.listed
  inside := kept.inside
  since := kept.since
  ahead k waiting := by
    change (k, pending.generation k) ∈ _
    rw [SummaryPending.schedule, List.map_append, List.map_singleton]
    by_cases own : (k, pending.generation k) = (tileId, generation)
    · rw [own]
      simp [SummaryRepairDue.target]
    · rcases List.mem_append.mp (kept.ahead k waiting) with here | queued
      · exact List.mem_append_left _ (moved _ here own)
      · exact List.mem_append_right _ (List.mem_append_left _ queued)

theorem Kept.set (kept : pending.Kept totalTiles carried) (link : LinkTimers)
    {now tileId : Nat} (running : 0 < now) (within : tileId < totalTiles)
    (generation : Nat) :
    (pending.set link now tileId generation).Kept totalTiles carried := by
  unfold SummaryPending.set
  split_ifs with known
  · exact kept
  · cases added : indexAdd pending.index tileId with
    | none => exact kept
    | some index =>
        obtain ⟨indexed, slots⟩ := indexAdd_spec kept.indexed added
        rw [not_or] at known
        dsimp only
        refine ⟨indexed, ?_, ?_, ?_, ?_⟩
        · intro k
          change (index.slot k).isSome ↔ Function.update _ _ _ k ≠ 0
          rw [slots k, kept.listed k, Function.update_apply]
          split_ifs with own
          · exact ⟨fun _ => known.1, fun _ => .inl own⟩
          · exact ⟨fun either => either.resolve_left own, .inr⟩
        · intro k waiting
          change Function.update _ _ _ k ≠ 0 at waiting
          rw [Function.update_apply] at waiting
          split_ifs at waiting with own
          · rwa [own]
          · exact kept.inside k waiting
        · intro k waiting
          change Function.update _ _ _ k ≠ 0 at waiting ⊢
          rw [Function.update_apply] at waiting ⊢
          split_ifs at waiting ⊢
          · exact Nat.ne_of_gt running
          · exact kept.since k waiting
        · intro k waiting
          change Function.update _ _ _ k ≠ 0 at waiting
          change (k, Function.update pending.generation tileId generation k) ∈
            carried ++ List.map _ (pending.dueQueue ++ [_])
          rw [Function.update_apply] at waiting ⊢
          rw [List.map_append, List.map_singleton]
          split_ifs at waiting ⊢ with own
          · rw [own]
            simp [SummaryRepairDue.target]
          · rw [← List.append_assoc]
            exact List.mem_append_left _ (kept.ahead k waiting)

/-- There is always room for one more tile. -/
theorem Kept.indexAdd_ne_none (kept : pending.Kept totalTiles carried)
    (few : totalTiles ≤ uint32Limit) {tileId : Nat}
    (within : tileId < totalTiles) : indexAdd pending.index tileId ≠ none := by
  unfold indexAdd
  cases named : pending.index.slot tileId with
  | some position => exact Option.some_ne_none _
  | none =>
      have listed : ∀ other ∈ pending.index.items,
          (pending.index.slot other).isSome := by
        intro other member
        obtain ⟨position, stored⟩ := List.mem_iff_getElem?.mp member
        exact Option.isSome_of_eq_some (kept.indexed.slot_of_getElem stored)
      have fresh : tileId ∉ pending.index.items := by
        intro member
        have found := listed tileId member
        rw [named] at found
        cases found
      have inside : tileId :: pending.index.items ⊆ List.range totalTiles := by
        intro other member
        rw [List.mem_range]
        rcases List.mem_cons.mp member with rfl | waits
        · exact within
        · exact kept.inside other ((kept.listed other).mp (listed other waits))
      have count := ((List.nodup_cons.mpr
        ⟨fresh, kept.indexed.nodup⟩).subperm inside).length_le
      rw [List.length_cons, List.length_range] at count
      dsimp only
      rw [if_neg (by omega)]
      exact Option.some_ne_none _

theorem Kept.le_set (kept : pending.Kept totalTiles carried)
    (few : totalTiles ≤ uint32Limit) {tileId : Nat}
    (within : tileId < totalTiles) (link : LinkTimers) (now generation : Nat) :
    generation ≤ (pending.set link now tileId generation).generation tileId := by
  unfold SummaryPending.set
  split_ifs with known
  · omega
  · cases added : indexAdd pending.index tileId with
    | none => exact absurd added (kept.indexAdd_ne_none few within)
    | some index =>
        exact (Function.update_self tileId generation pending.generation).ge

theorem set_generation_of_ne {tileId other : Nat} (differs : other ≠ tileId)
    (link : LinkTimers) (now generation : Nat) :
    (pending.set link now tileId generation).generation other =
      pending.generation other := by
  unfold SummaryPending.set
  split_ifs
  · rfl
  · split
    · rfl
    · exact Function.update_of_ne differs _ _

theorem Kept.clearCompleted (kept : pending.Kept totalTiles carried)
    (received : Generations) (tileId : Nat) :
    (pending.clearCompleted received tileId).Kept totalTiles carried := by
  unfold SummaryPending.clearCompleted
  split_ifs
  · exact kept.clear tileId fun _ member _ => member
  · exact kept

end Operations

end SummaryPending

def ReaderPhase.Checked : ReaderPhase → Prop
  | .noting totalTiles _ entries => ∀ entry ∈ entries, entry.tileId < totalTiles
  | _ => True

namespace RepairState

/-- `Kept`, with the candidates that a pass has in hand. -/
structure PendingKept (totalTiles : Nat)
    (candidates : List SummaryRepairCandidate) (s : RepairState) : Prop where
  total : s.totalTiles = totalTiles
  checked : s.reader.Checked
  kept : s.pending.Kept totalTiles
    (candidates.map SummaryRepairCandidate.target)

section Passes

variable {totalTiles : Nat} {candidates : List SummaryRepairCandidate}
  {s : RepairState}

/-- A requested tile is no longer pending, and a candidate that cannot be
requested is not about a pending tile. -/
theorem PendingKept.requestCandidate {candidate : SummaryRepairCandidate}
    (kept : s.PendingKept totalTiles (candidate :: candidates)) :
    (s.requestCandidate candidate).PendingKept totalTiles candidates := by
  obtain ⟨total, checked, kept⟩ := kept
  rw [List.map_cons] at kept
  unfold RepairState.requestCandidate queueRetransmitTile
  split_ifs with refused
  · refine ⟨total, checked, kept.carry ?_⟩
    intro target member waits nonzero
    rcases List.mem_cons.mp member with rfl | rest
    · have inside := kept.inside candidate.tileId (by
        rw [show s.pending.generation candidate.tileId = candidate.generation
          from waits]
        exact nonzero)
      rw [total] at refused
      rcases refused with beyond | zero
      · exact absurd inside (Nat.not_lt.mpr beyond)
      · exact absurd zero nonzero
    · exact rest
  · refine ⟨total, checked, kept.clear candidate.tileId ?_⟩
    intro target member distinct
    rcases List.mem_cons.mp member with rfl | rest
    · exact absurd rfl distinct
    · exact rest

theorem PendingKept.mono {more : List SummaryRepairCandidate}
    (kept : s.PendingKept totalTiles candidates)
    (subset : ∀ candidate ∈ candidates, candidate ∈ more) :
    s.PendingKept totalTiles more := by
  refine ⟨kept.total, kept.checked, kept.kept.carry ?_⟩
  intro target member _ _
  obtain ⟨candidate, here, rfl⟩ := List.mem_map.mp member
  exact List.mem_map_of_mem (subset candidate here)

theorem pendingKept_closed (totalTiles : Nat) :
    PassClosed fun s candidates => s.PendingKept totalTiles candidates where
  perm kept same := kept.mono fun _ => same.mem_iff.mp
  request kept := kept.requestCandidate
  schedule _ kept := by
    refine ⟨kept.total, kept.checked, kept.kept.schedule _ _ _ ?_⟩
    intro target member distinct
    rcases List.mem_cons.mp member with rfl | later
    · exact absurd rfl distinct
    · exact later
  notBefore _ kept := ⟨kept.total, kept.checked, kept.kept⟩

/-! ## Summaries -/

variable {found : RepairState × List SummaryRepairCandidate}

theorem PendingKept.noteEntry {link : LinkTimers} {now : Nat}
    (running : 0 < now) {entry : SummaryEntry}
    (within : entry.tileId < totalTiles)
    (kept : found.1.PendingKept totalTiles []) :
    (RepairState.noteEntry link now found entry).1.PendingKept totalTiles
      [] := by
  unfold RepairState.noteEntry
  dsimp only
  split_ifs
  · exact ⟨kept.total, kept.checked, kept.kept.clear entry.tileId fun _ member _ => member⟩
  · exact ⟨kept.total, kept.checked, kept.kept.set link running within entry.tileGeneration⟩
  · exact kept
  · exact kept

/-- The candidates of a summary stay pending until they are requested, so none of
them is carried. -/
theorem pendingKept_noted_closed (totalTiles : Nat) :
    PassClosed fun s _ => s.PendingKept totalTiles [] where
  perm kept _ := kept
  request kept := (kept.mono nofun).requestCandidate
  schedule late kept :=
    (pendingKept_closed totalTiles).schedule late (kept.mono nofun)
  notBefore _ kept := ⟨kept.total, kept.checked, kept.kept⟩

theorem PendingKept.noteSummary (kept : s.PendingKept totalTiles [])
    (link : LinkTimers) {now : Nat} (running : 0 < now) {checkedTiles : Nat}
    {entries : List SummaryEntry}
    (within : ∀ entry ∈ entries, entry.tileId < checkedTiles) :
    (s.noteSummary link now checkedTiles entries).PendingKept totalTiles
      [] := by
  refine (pendingKept_noted_closed totalTiles).noteSummary kept link now ?_
  intro same entry member found here
  exact here.noteEntry running ((within entry member).trans_eq
    (same.trans kept.total))

/-! ## Promotion -/

/-- What a decision takes from the queue it leaves outdated, cleared, scheduled
again, or in hand. -/
theorem PendingKept.decideDue {link : LinkTimers} {due : SummaryRepairDue}
    (total : s.totalTiles = totalTiles) (checked : s.reader.Checked)
    (kept : s.pending.Kept totalTiles
      (due.target :: candidates.map SummaryRepairCandidate.target)) :
    (s.decideDue link due).1.PendingKept totalTiles
      (candidates ++ (s.decideDue link due).2) := by
  unfold RepairState.decideDue
  dsimp only
  split_ifs with outdated unseen answered putOff
  · rw [List.append_nil]
    refine ⟨total, checked, kept.carry ?_⟩
    intro target member waits nonzero
    rcases List.mem_cons.mp member with rfl | rest
    · have inside := kept.inside due.tileId (waits ▸ nonzero)
      rcases outdated with beyond | changed
      · exact absurd inside (Nat.not_lt.mpr (total ▸ beyond))
      · exact absurd waits changed
    · exact rest
  · rw [List.append_nil]
    refine ⟨total, checked, kept.carry ?_⟩
    intro target member waits nonzero
    rcases List.mem_cons.mp member with rfl | rest
    · exact absurd unseen (kept.since due.tileId (waits ▸ nonzero))
    · exact rest
  · rw [List.append_nil]
    refine ⟨total, checked, kept.clear due.tileId ?_⟩
    intro target member distinct
    rcases List.mem_cons.mp member with rfl | rest
    · exact absurd rfl distinct
    · exact rest
  · rw [List.append_nil]
    refine ⟨total, checked, kept.schedule _ _ _ ?_⟩
    intro target member distinct
    rcases List.mem_cons.mp member with rfl | rest
    · exact absurd rfl distinct
    · exact rest
  · refine ⟨total, checked, kept.carry ?_⟩
    intro target member _ _
    rw [List.map_append]
    rcases List.mem_cons.mp member with rfl | rest
    · exact List.mem_append_right _ (.head _)
    · exact List.mem_append_left _ rest

theorem PendingKept.promote (kept : s.PendingKept totalTiles [])
    (link : LinkTimers) :
    (s.promoteDeferredSummaryRetransmits link).PendingKept totalTiles [] := by
  refine (pendingKept_closed totalTiles).promote ?_ kept
  intro s due rest candidates queued kept
  refine PendingKept.decideDue kept.total kept.checked
    ⟨kept.kept.indexed, kept.kept.listed, kept.kept.inside, kept.kept.since, ?_⟩
  -- The entry is carried now instead of queued.
  intro tileId waiting
  have ahead := kept.kept.ahead tileId waiting
  rw [queued, List.map_cons] at ahead
  exact List.perm_middle.mem_iff.mp ahead

end Passes

/-! ## The loop ends at an entry that is not due -/

theorem decideDue_dueQueue (s : RepairState) (link : LinkTimers)
    (due : SummaryRepairDue) :
    (s.decideDue link due).1.clock = s.clock ∧
      ∃ put, (s.decideDue link due).1.pending.dueQueue =
          s.pending.dueQueue ++ put ∧
        ∀ later ∈ put, s.clock.ns < later.dueNs := by
  unfold decideDue
  dsimp only
  split_ifs with _ _ _ putOff
  · exact ⟨rfl, [], (List.append_nil _).symm, nofun⟩
  · exact ⟨rfl, [], (List.append_nil _).symm, nofun⟩
  · exact ⟨rfl, [], (List.append_nil _).symm, nofun⟩
  · refine ⟨rfl, [_], rfl, ?_⟩
    intro later member
    rw [List.mem_singleton.mp member]
    exact putOff
  · exact ⟨rfl, [], (List.append_nil _).symm, nofun⟩

/-! ## Tiles that a summary names -/

def Awaits (s : RepairState) (tileId generation : Nat) : Prop :=
  generation ≤ s.pending.generation tileId ∨
    generation ≤ s.repairs.retxQueuedGeneration tileId

/-- A missing tile is pending or queued, and whichever candidates are requested,
it will be. -/
structure Awaiting (tileId generation : Nat)
    (candidates : List SummaryRepairCandidate) (s : RepairState) : Prop where
  missing : s.received tileId < generation
  awaits : s.Awaits tileId generation
  asked : ∀ candidate ∈ candidates, candidate.tileId = tileId →
    generation ≤ candidate.generation ∨
      generation ≤ s.repairs.retxQueuedGeneration tileId

section Awaited

variable {tileId generation : Nat} {candidates : List SummaryRepairCandidate}
  {s : RepairState}

theorem Awaiting.requestCandidate {candidate : SummaryRepairCandidate}
    (awaiting : s.Awaiting tileId generation (candidate :: candidates)) :
    (s.requestCandidate candidate).Awaiting tileId generation candidates := by
  obtain ⟨missing, awaits, asked⟩ := awaiting
  obtain ⟨first, others⟩ := List.forall_mem_cons.mp asked
  unfold RepairState.requestCandidate queueRetransmitTile
  split_ifs
  · exact ⟨missing, awaits, others⟩
  have raised : s.repairs.retxQueuedGeneration tileId ≤
      (s.repairs.enqueue candidate.tileId
        candidate.generation).retxQueuedGeneration tileId := by
    rw [RepairTracking.enqueue_generation]
    split_ifs with own
    · exact own ▸ Nat.le_max_left _ _
    · exact Nat.le_refl _
  refine ⟨missing, ?_, fun other member same =>
    (others other member same).imp_right raised.trans'⟩
  by_cases own : candidate.tileId = tileId
  · refine .inr ((first own).elim (fun newer => ?_) raised.trans')
    change generation ≤ (s.repairs.enqueue candidate.tileId
      candidate.generation).retxQueuedGeneration tileId
    rw [RepairTracking.enqueue_generation, if_pos own.symm]
    exact newer.trans (Nat.le_max_right _ _)
  · refine awaits.imp (fun waits => ?_) raised.trans'
    exact waits.trans_eq (Function.update_of_ne (Ne.symm own) _ _).symm

theorem Awaiting.mono {fewer : List SummaryRepairCandidate}
    (awaiting : s.Awaiting tileId generation candidates)
    (subset : fewer ⊆ candidates) : s.Awaiting tileId generation fewer :=
  ⟨awaiting.missing, awaiting.awaits,
    fun candidate member => awaiting.asked candidate (subset member)⟩

theorem awaiting_closed (tileId generation : Nat) :
    PassClosed fun s candidates =>
      s.Awaiting tileId generation candidates where
  perm awaiting same := awaiting.mono same.symm.subset
  request awaiting := awaiting.requestCandidate
  schedule _ awaiting := ⟨awaiting.missing, awaiting.awaits,
    (List.forall_mem_cons.mp awaiting.asked).2⟩
  notBefore _ awaiting :=
    ⟨awaiting.missing, awaiting.awaits, awaiting.asked⟩

variable {found : RepairState × List SummaryRepairCandidate}

theorem awaits_noteEntry {link : LinkTimers} {now totalTiles : Nat}
    {entry : SummaryEntry} (kept : found.1.PendingKept totalTiles [])
    (few : totalTiles ≤ uint32Limit) (within : entry.tileId < totalTiles)
    (missing : found.1.received tileId < generation)
    (lowest : entry.tileId = tileId → generation ≤ entry.tileGeneration)
    (named : found.1.Awaits tileId generation ∨ entry.tileId = tileId) :
    (RepairState.noteEntry link now found entry).1.Awaits tileId
      generation := by
  by_cases own : entry.tileId = tileId
  · have newer := lowest own
    subst own
    unfold RepairState.noteEntry
    dsimp only
    split_ifs with have' held early
    · omega
    · exact .inl (newer.trans (kept.kept.le_set few within link now _))
    · exact .inl (newer.trans (Nat.not_lt.mp (not_or.mp held).2))
    · exact .inl (newer.trans (Nat.not_lt.mp (not_or.mp held).2))
  · have awaits := named.resolve_right own
    unfold RepairState.noteEntry
    dsimp only
    split_ifs
    · exact awaits.imp_left fun waits => waits.trans_eq
        (Function.update_of_ne (Ne.symm own) _ _).symm
    · exact awaits.imp_left fun waits => waits.trans_eq
        (SummaryPending.set_generation_of_ne (Ne.symm own) link now _).symm
    · exact awaits
    · exact awaits

theorem noteEntry_candidates (link : LinkTimers) (now : Nat)
    (entry : SummaryEntry) :
    ∀ candidate ∈ (RepairState.noteEntry link now found entry).2,
      candidate ∈ found.2 ∨ candidate.tileId = entry.tileId ∧
        candidate.generation = entry.tileGeneration := by
  intro candidate member
  unfold RepairState.noteEntry at member
  dsimp only at member
  split_ifs at member
  · exact .inl member
  · exact .inl member
  · exact .inl member
  · refine (List.mem_append.mp member).imp_right fun last => ?_
    rw [List.mem_singleton.mp last]
    exact ⟨rfl, rfl⟩

theorem noteEntry_received (link : LinkTimers) (now : Nat)
    (entry : SummaryEntry) :
    (RepairState.noteEntry link now found entry).1.received =
      found.1.received := by
  unfold RepairState.noteEntry
  dsimp only
  split_ifs <;> rfl

theorem awaiting_noteEntries (link : LinkTimers) {now totalTiles : Nat}
    (running : 0 < now) (few : totalTiles ≤ uint32Limit)
    {entries : List SummaryEntry}
    (within : ∀ entry ∈ entries, entry.tileId < totalTiles)
    (kept : found.1.PendingKept totalTiles [])
    (missing : found.1.received tileId < generation)
    (lowest : ∀ entry ∈ entries, entry.tileId = tileId →
      generation ≤ entry.tileGeneration)
    (above : ∀ candidate ∈ found.2, candidate.tileId = tileId →
      generation ≤ candidate.generation)
    (named : found.1.Awaits tileId generation ∨
      ∃ entry ∈ entries, entry.tileId = tileId) :
    (entries.foldl (RepairState.noteEntry link now) found).1.Awaiting tileId
      generation (entries.foldl (RepairState.noteEntry link now) found).2 := by
  induction entries generalizing found with
  | nil =>
      have awaits := named.resolve_right fun ⟨_, member, _⟩ =>
        List.not_mem_nil member
      exact ⟨missing, awaits, fun candidate member own =>
        .inl (above candidate member own)⟩
  | cons entry rest ih =>
      obtain ⟨inside, insideRest⟩ := List.forall_mem_cons.mp within
      obtain ⟨low, lowRest⟩ := List.forall_mem_cons.mp lowest
      refine ih insideRest (kept.noteEntry running inside)
        ((congrFun (noteEntry_received link now entry) tileId).trans_lt missing)
        lowRest ?_ ?_
      · intro candidate member own
        rcases noteEntry_candidates link now entry candidate member with
          earlier | ⟨tile, same⟩
        · exact above candidate earlier own
        · exact same ▸ low (tile ▸ own)
      · by_cases later : ∃ other ∈ rest, other.tileId = tileId
        · exact .inr later
        · refine .inl (awaits_noteEntry kept few inside missing low
            (named.imp_right fun ⟨other, member, own⟩ => ?_))
          rcases List.mem_cons.mp member with rfl | after
          · exact own
          · exact absurd ⟨other, after, own⟩ later

theorem keepOldest_subset (s : RepairState)
    (candidates : List SummaryRepairCandidate) :
    s.keepOldest candidates ⊆ candidates := by
  unfold RepairState.keepOldest
  split_ifs
  · exact List.Subset.trans (List.take_subset _ _)
      (List.perm_insertionSort _ candidates).subset
  · exact List.Subset.refl _

/-- The network reader is noting a summary of this grid that names the tile, and
no generation of it below this one. -/
def Names (s : RepairState) (tileId generation : Nat) : Prop :=
  ∃ read entries, s.reader = .noting s.totalTiles read entries ∧
    (∃ entry ∈ entries, entry.tileId = tileId) ∧
    ∀ entry ∈ entries, entry.tileId = tileId →
      generation ≤ entry.tileGeneration

theorem PendingKept.awaits_noteSummary (kept : s.PendingKept s.totalTiles [])
    (link : LinkTimers) (few : s.totalTiles ≤ uint32Limit)
    (missing : s.received tileId < generation)
    (names : s.Names tileId generation) :
    (s.step (.noteSummary link)).Awaits tileId generation := by
  obtain ⟨read, entries, noting, named, lowest⟩ := names
  have within := kept.checked
  rw [noting] at within
  have grid : ¬(s.totalTiles = 0 ∨ s.totalTiles ≠ s.totalTiles) := by
    obtain ⟨entry, member, _⟩ := named
    have inside := within entry member
    omega
  have start : (s, ([] : List SummaryRepairCandidate)).1.PendingKept
      s.totalTiles [] := kept
  have noted := awaiting_noteEntries link read.running few within start missing
    lowest (fun _ member => absurd member List.not_mem_nil) (.inr named)
  rw [RepairState.step, noting]
  change (s.noteSummary link read.ns s.totalTiles entries).Awaits tileId
    generation
  rw [RepairState.noteSummary, if_neg grid]
  generalize entries.foldl (RepairState.noteEntry link read.ns) (s, []) =
    found at noted ⊢
  dsimp only
  split_ifs
  · exact noted.awaits
  · exact ((awaiting_closed tileId generation).requestNoted
      (noted.mono (keepOldest_subset _ _))
      (fun awaiting => awaiting.mono (List.nil_subset _)) link read.ns _).awaits

/-! ## Promotion keeps them -/

theorem Awaiting.decideDue (awaiting : s.Awaiting tileId generation candidates)
    (link : LinkTimers) (due : SummaryRepairDue) :
    (s.decideDue link due).1.Awaiting tileId generation
      (candidates ++ (s.decideDue link due).2) := by
  obtain ⟨missing, awaits, asked⟩ := awaiting
  unfold RepairState.decideDue
  dsimp only
  split_ifs with outdated unseen answered putOff
  · exact ⟨missing, awaits, by rwa [List.append_nil]⟩
  · exact ⟨missing, awaits, by rwa [List.append_nil]⟩
  · refine ⟨missing, awaits.imp_left fun waits => ?_, by rwa [List.append_nil]⟩
    -- The tile that was cleared had arrived, so it is another one.
    by_cases own : tileId = due.tileId
    · subst own
      omega
    · exact waits.trans_eq (Function.update_of_ne own _ _).symm
  · exact ⟨missing, awaits, by rwa [List.append_nil]⟩
  · refine ⟨missing, awaits, List.forall_mem_append.mpr ⟨asked, ?_⟩⟩
    intro candidate member own
    rw [List.mem_singleton.mp member] at own ⊢
    subst own
    exact awaits.imp_left fun waits =>
      waits.trans_eq (not_not.mp (not_or.mp outdated).2)

theorem Awaits.promote (awaits : s.Awaits tileId generation)
    (missing : s.received tileId < generation) (link : LinkTimers) :
    (s.promoteDeferredSummaryRetransmits link).Awaits tileId generation := by
  refine ((awaiting_closed tileId generation).promote ?_
    ⟨missing, awaits, fun _ member => absurd member List.not_mem_nil⟩).awaits
  intro s due rest candidates _ awaiting
  have popped : (s.withPending { s.pending with dueQueue := rest }).Awaiting
      tileId generation candidates :=
    ⟨awaiting.missing, awaiting.awaits, awaiting.asked⟩
  exact popped.decideDue link due

end Awaited

/-! ## Whole runs -/

def PendingSound (s : RepairState) : Prop := s.PendingKept s.totalTiles []

variable {s : RepairState}

theorem PendingKept.sound {totalTiles : Nat}
    (kept : s.PendingKept totalTiles []) : s.PendingSound :=
  ⟨rfl, kept.checked, kept.total ▸ kept.kept⟩

theorem PendingSound.withReader (sound : s.PendingSound) {reader : ReaderPhase}
    (checked : reader.Checked) :
    (s.withReader reader).PendingSound :=
  ⟨rfl, checked, sound.kept⟩

theorem PendingSound.acceptContentEpoch (sound : s.PendingSound) (epoch : Nat)
    (owner : ContentOwner) :
    (s.acceptContentEpoch epoch owner).PendingSound := by
  unfold RepairState.acceptContentEpoch
  split
  · exact ⟨rfl, sound.checked, sound.kept⟩
  · exact sound

theorem PendingSound.resetContentEpoch (sound : s.PendingSound) (epoch : Nat)
    (owner : ContentOwner) :
    (s.resetContentEpoch epoch owner).PendingSound := by
  unfold RepairState.resetContentEpoch
  split_ifs
  · exact sound
  · exact ⟨rfl, sound.checked, sound.kept⟩

theorem PendingSound.offerSummary (sound : s.PendingSound) (contentEpoch : Nat)
    (entries : List SummaryEntry) :
    (s.offerSummary contentEpoch entries).PendingSound := by
  unfold RepairState.offerSummary
  split_ifs with outside
  · exact sound
  · split
    · exact sound
    · apply (sound.acceptContentEpoch contentEpoch .tiles).withReader
      intro entry member
      by_contra beyond
      exact outside (List.any_eq_true.mpr
        ⟨entry, member, decide_eq_true (Nat.not_lt.mp beyond)⟩)

theorem offerSummary_reader (s : RepairState) (contentEpoch : Nat)
    (entries : List SummaryEntry) (idle : s.reader = .idle)
    (within : ∀ entry ∈ entries, entry.tileId < s.totalTiles)
    (current : s.remote.judge contentEpoch .tiles ≠ .stale) :
    (s.step (.offerSummary contentEpoch entries)).reader =
      .noting s.totalTiles s.clock entries := by
  have inside : ¬entries.any fun entry =>
      decide (entry.tileId ≥ s.totalTiles) := by
    rw [List.any_eq_true]
    rintro ⟨entry, member, beyond⟩
    exact Nat.not_lt.mpr (of_decide_eq_true beyond) (within entry member)
  rw [step, idle]
  dsimp only
  rw [RepairState.offerSummary, if_neg inside]
  split
  next stale => exact absurd stale current
  next => rfl

theorem PendingSound.completeTiles (sound : s.PendingSound) (tileIds : List Nat)
    (generation : Nat) :
    (s.completeTiles tileIds generation).PendingSound := by
  refine ⟨rfl, sound.checked, ?_⟩
  have kept := sound.kept
  change SummaryPending.Kept s.totalTiles _ (List.foldl _ s.pending tileIds)
  generalize s.pending = pending at kept ⊢
  generalize ClientState.markCompletedBaseGenerations s.received tileIds
    generation = received
  induction tileIds generalizing pending with
  | nil => exact kept
  | cons tileId rest ih => exact ih _ (kept.clearCompleted received tileId)

theorem PendingSound.collectRequests (sound : s.PendingSound)
    (link : LinkTimers) :
    (s.collectRequests link).PendingSound := by
  refine ⟨rfl, ?_, sound.kept⟩
  unfold RepairState.collectRequests
  dsimp only
  split_ifs
  · trivial
  · trivial

theorem PendingSound.sendRequest (sound : s.PendingSound)
    (entries : List (Nat × Nat)) (queued : Bool) :
    (s.sendRequest entries queued).PendingSound := by
  refine ⟨rfl, ?_, sound.kept⟩
  cases queued
  · trivial
  · trivial

theorem PendingSound.step (sound : s.PendingSound) (event : RepairEvent) :
    (s.step event).PendingSound := by
  have untouched : ∀ {t : RepairState}, t.totalTiles = s.totalTiles →
      t.reader = s.reader → t.pending = s.pending → t.PendingSound := by
    intro t total reader pending
    refine ⟨rfl, reader ▸ sound.checked, ?_⟩
    rw [total, pending]
    exact sound.kept
  have acts := s.step_acts event
  generalize s.step event = t at acts ⊢
  cases acts with
  | ignored => exact sound
  | tick elapsed => exact untouched rfl rfl rfl
  | offerSummary contentEpoch entries idle =>
      exact sound.offerSummary contentEpoch entries
  | @noteSummary link totalTiles read entries noting =>
      have checked := sound.checked
      rw [noting] at checked
      exact (PendingKept.noteSummary sound link read.running
        checked).sound.withReader trivial
  | promote link idle => exact (PendingKept.promote sound link).sound
  | collect link idle => exact sound.collectRequests link
  | @send queued entries sending => exact sound.sendRequest entries queued
  | completeTiles tileIds generation idle =>
      exact sound.completeTiles tileIds generation
  | partialTimeout tileId generation idle => exact untouched rfl rfl rfl
  | markInflight tileId generation => exact untouched rfl rfl rfl
  | clearInflight tileId generation => exact untouched rfl rfl rfl
  | acceptEpoch epoch owner => exact sound.acceptContentEpoch epoch owner
  | applyConfig totalTiles =>
      exact ⟨rfl, sound.checked, SummaryPending.kept_empty _ _⟩
  | resetEpoch epoch => exact sound.resetContentEpoch epoch .tiles
  | connect totalTiles contentEpoch =>
      have fresh : (s.resetTables totalTiles []).PendingSound :=
        ⟨rfl, sound.checked, SummaryPending.kept_empty _ _⟩
      exact (fresh.resetContentEpoch contentEpoch .tiles).withReader trivial

theorem pendingSound_init (totalTiles contentEpoch : Nat)
    (clock : MonotonicClock) :
    (init totalTiles contentEpoch clock).PendingSound :=
  ⟨rfl, trivial, SummaryPending.kept_empty totalTiles []⟩

theorem PendingSound.run (sound : s.PendingSound) (events : List RepairEvent) :
    (repairRun s events).PendingSound :=
  invariant_runFrom_of_step (fun _ event sound => sound.step event) sound events

/-- A tile that the client knows to be missing has a decision about that very
generation ahead of it, and the index lists the pending tiles, each once and
where its position says.  A tile gets there when an accepted summary names it,
and no promotion pass forgets it. -/
theorem pending_scheduled (totalTiles contentEpoch : Nat)
    (clock : MonotonicClock) (events : List RepairEvent) :
    let s := repairRun (init totalTiles contentEpoch clock) events
    (∀ tileId, s.pending.generation tileId ≠ 0 →
      ∃ due ∈ s.pending.dueQueue,
        due.tileId = tileId ∧ due.generation = s.pending.generation tileId) ∧
      (∀ tileId, tileId ∈ s.pending.index.items ↔
        s.pending.generation tileId ≠ 0) ∧
      s.pending.index.items.Nodup ∧
      (∀ tileId position, s.pending.index.slot tileId = some position ↔
        s.pending.index.items[position]? = some tileId) ∧
      (∀ contentEpoch entries, s.reader = .idle →
        (∀ entry ∈ entries, entry.tileId < s.totalTiles) →
        s.remote.judge contentEpoch .tiles ≠ .stale →
        (s.step (.offerSummary contentEpoch entries)).reader =
          .noting s.totalTiles s.clock entries) ∧
      ∀ link tileId generation, s.received tileId < generation →
        (s.totalTiles ≤ uint32Limit → s.Names tileId generation →
          (s.step (.noteSummary link)).Awaits tileId generation) ∧
        (s.Awaits tileId generation →
          (s.step (.promote link)).Awaits tileId generation) := by
  have sound := (pendingSound_init totalTiles contentEpoch clock).run events
  intro s
  have kept := sound.kept
  have positions : ∀ tileId position,
      s.pending.index.slot tileId = some position ↔
        s.pending.index.items[position]? = some tileId := by
    intro tileId position
    rw [kept.indexed tileId position]
    exact ⟨fun ⟨_, stored, same⟩ => same ▸ stored, fun stored => ⟨_, stored, rfl⟩⟩
  refine ⟨?_, ?_, kept.indexed.nodup, positions, ?_, ?_⟩
  · intro tileId waiting
    obtain ⟨due, member, target⟩ := List.mem_map.mp (kept.ahead tileId waiting)
    exact ⟨due, member, congrArg Prod.fst target, congrArg Prod.snd target⟩
  · intro tileId
    rw [← kept.listed tileId, List.mem_iff_getElem?, Option.isSome_iff_exists]
    exact exists_congr fun position => (positions tileId position).symm
  · exact s.offerSummary_reader
  · intro link tileId generation missing
    refine ⟨fun few => PendingKept.awaits_noteSummary sound link few missing,
      fun awaits => ?_⟩
    have acts := s.step_acts (.promote link)
    generalize s.step (.promote link) = t at acts ⊢
    cases acts with
    | ignored => exact awaits
    | promote link idle => exact awaits.promote missing link

end RepairState

end WayDisplay.Client
