import Mathlib.Data.List.Nodup
import WayDisplay.Server.DirtyRegionSet

/-!
How large the heap of the dirty-region scheduler gets.

Only a take prunes the heap, and only from its top.  A region that leaves the
queue keeps its entry, and another one is pushed when it is enqueued again.
-/

namespace WayDisplay.Server

open Foundation

namespace DirtyRegionScheduler

variable {s : DirtyRegionScheduler}

def after (s : DirtyRegionScheduler) (event : SchedulerEvent) :
    DirtyRegionScheduler :=
  (event.onScheduler s).1

def reached (capacity starvationNs : Nat) (events : List SchedulerEvent) :
    DirtyRegionScheduler :=
  runFrom after (create capacity starvationNs) events

/-- A region is enqueued only when the heap has no old entry of it. -/
def FindsNone (s : DirtyRegionScheduler) : SchedulerEvent → Prop
  | .enqueue id _ _ => s.queued id = false → ∀ entry ∈ s.heap,
      entry.regionId ≠ id
  | _ => True

structure Distinct (capacity : Nat) (s : DirtyRegionScheduler) : Prop where
  capacity_eq : s.capacity = capacity
  regions : (s.heap.toList.map (·.regionId)).Nodup
  inside : ∀ entry ∈ s.heap, entry.regionId < capacity

variable {capacity : Nat}

theorem Distinct.of_subperm {t : DirtyRegionScheduler}
    (distinct : s.Distinct capacity) (same : t.capacity = s.capacity)
    (fewer : List.Subperm t.heap.toList s.heap.toList) :
    t.Distinct capacity where
  capacity_eq := same.trans distinct.capacity_eq
  regions := by
    obtain ⟨entries, perm, sublist⟩ := fewer
    exact (perm.map _).nodup_iff.mp
      (distinct.regions.sublist (sublist.map _))
  inside := fun entry member =>
    distinct.inside entry (by simpa using fewer.subset (by simpa using member))

theorem Distinct.heapPruneFrom (fuel : Nat) (distinct : s.Distinct capacity) :
    (s.heapPruneFrom fuel).Distinct capacity := by
  induction fuel generalizing s with
  | zero => exact distinct
  | succ fuel ih =>
      unfold DirtyRegionScheduler.heapPruneFrom
      split
      · exact distinct
      · split
        · exact distinct
        · refine ih (distinct.of_subperm rfl ?_)
          rw [heapPop_eq]
          exact BinaryHeap.pop_subperm

theorem Distinct.enqueue (distinct : s.Distinct capacity) (id now : Nat)
    (grows : Bool) (room : s.FindsNone (.enqueue id now grows)) :
    (s.enqueue id now grows).1.Distinct capacity := by
  unfold DirtyRegionScheduler.enqueue
  split_ifs with outside queued failed
  · exact distinct
  · exact distinct
  · exact ⟨distinct.capacity_eq, distinct.regions, distinct.inside⟩
  · have fresh := room (by simpa using queued)
    refine ⟨distinct.capacity_eq, ?_, fun entry member => ?_⟩
    · dsimp only
      rw [heapPush_eq, BinaryHeap.push,
        (BinaryHeap.siftUp_perm.toList.map _).nodup_iff, Array.toList_push,
        List.map_append, List.map_singleton, ← List.concat_eq_append]
      refine distinct.regions.concat fun member => ?_
      obtain ⟨entry, found, same⟩ := List.mem_map.mp member
      exact fresh entry (by simpa using found) same
    · dsimp only at member
      rw [heapPush_eq, BinaryHeap.mem_push] at member
      rcases member with old | rfl
      · exact distinct.inside entry old
      · exact distinct.capacity_eq ▸ Nat.not_le.mp outside

theorem Distinct.after {event : SchedulerEvent} (distinct : s.Distinct capacity)
    (room : s.FindsNone event) :
    (s.after event).Distinct capacity := by
  cases event with
  | enqueue id now grows => exact distinct.enqueue id now grows room
  | take cursor now =>
      have pruned : s.heapPrune.Distinct capacity := distinct.heapPruneFrom _
      change (s.take cursor now).1.Distinct capacity
      unfold DirtyRegionScheduler.take takeSelected
      split_ifs
      · exact distinct
      · split
        · exact pruned
        · split_ifs
          · exact pruned
          · exact pruned.of_subperm rfl (List.Subperm.refl _)
  | forget id =>
      change (s.forget id).Distinct capacity
      unfold DirtyRegionScheduler.forget
      split_ifs
      · exact distinct
      · exact distinct.of_subperm rfl (List.Subperm.refl _)
      · exact distinct.of_subperm rfl (List.Subperm.refl _)
  | reset => exact distinct.of_subperm rfl List.nil_subperm

theorem heap_size_le (capacity starvationNs : Nat)
    (events : List SchedulerEvent)
    (room : Along after FindsNone (create capacity starvationNs) events) :
    (reached capacity starvationNs events).heap.size ≤ capacity := by
  have distinct : (reached capacity starvationNs events).Distinct capacity :=
    invariant_runFrom (fun _ _ distinct room => distinct.after room)
      ⟨rfl, List.nodup_nil, by simp [create]⟩ room
  have inside : (reached capacity starvationNs events).heap.toList.map
      (·.regionId) ⊆ List.range capacity := by
    intro id member
    obtain ⟨entry, found, rfl⟩ := List.mem_map.mp member
    exact List.mem_range.mpr (distinct.inside entry (by simpa using found))
  simpa using (distinct.regions.subperm inside).length_le

def forgottenRound : List SchedulerEvent :=
  [.enqueue 0 1 true, .forget 0, .take 0 1]

theorem size_forgottenRounds (count : Nat) (inside : s.capacity = 1)
    (idle : s.queued 0 = false) (none : s.count = 0) :
    (runFrom after s (List.replicate count forgottenRound).flatten).heap.size =
      s.heap.size + count := by
  induction count generalizing s with
  | zero => rfl
  | succ count ih =>
      rw [List.replicate_succ, List.flatten_cons, runFrom_append, ih]
      all_goals simp [forgottenRound, after, SchedulerEvent.onScheduler, enqueue,
        forget, take, unqueue, inside, idle, none, heapPush_eq, BinaryHeap.push,
        BinaryHeap.siftUp_perm.size_eq]
      omega

theorem heap_unbounded :
    ¬∃ bound : Nat → Nat, ∀ capacity starvationNs events,
      (∀ event ∈ events, event ≠ .reset) →
        (reached capacity starvationNs events).heap.size ≤ bound capacity := by
  rintro ⟨bound, bounded⟩
  have size : (reached 1 0 (List.replicate (bound 1 + 1)
      forgottenRound).flatten).heap.size = 0 + (bound 1 + 1) :=
    size_forgottenRounds _ rfl rfl rfl
  have small := bounded 1 0 (List.replicate (bound 1 + 1)
    forgottenRound).flatten (by simp [forgottenRound])
  omega

/-- Region 2 comes back after a take has pruned its old entry, beside an entry
of region 0 that is outdated and one of region 1 that is not. -/
theorem heap_size_le_pruned :
    (reached 3 10 [.enqueue 2 1 true, .enqueue 0 2 true, .enqueue 1 18 true,
        .take 0 20, .take 0 21, .enqueue 1 22 true,
        .enqueue 2 23 true]).heap.size ≤ 3 ∧
      (reached 3 10 [.enqueue 2 1 true, .enqueue 0 2 true, .enqueue 1 18 true,
        .take 0 20, .take 0 21, .enqueue 1 22 true,
        .enqueue 2 23 true]).heap.toList.map (·.regionId) = [2, 1, 0] :=
  ⟨heap_size_le 3 10 _ ⟨fun _ => by decide +kernel, fun _ => by decide +kernel,
    fun _ => by decide +kernel, trivial, trivial,
    fun free => absurd free (by decide +kernel), fun _ => by decide +kernel,
    trivial⟩, by decide +kernel⟩

end DirtyRegionScheduler

end WayDisplay.Server
