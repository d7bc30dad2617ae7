import Mathlib.Algebra.Order.Ring.Nat
import Mathlib.Data.List.Pairwise

/-!
One pass that merges neighbours of a sorted list.

Each item is merged into the one before it when the two join, and starts a run
of its own otherwise.  If the order is one that merging keeps, the pass neither
loses nor adds what the items cover, and no two of its runs join.
-/

namespace WayDisplay.Foundation

universe u v

variable {Item : Type u} {Cell : Type v}

/-- A sort by a strict order, as the standard library documents it: equal items
come in any order. -/
structure Sorting (before : Item → Item → Bool) where
  sort : List Item → List Item
  perm : ∀ items, (sort items).Perm items
  sorted : ∀ items, (sort items).Pairwise fun a b => before b a = false

/-- There is such a sort for every strict weak order. -/
def Sorting.ofMergeSort (before : Item → Item → Bool)
    (total : ∀ a b, before a b = false ∨ before b a = false)
    (trans : ∀ a b c, before b a = false → before c b = false →
      before c a = false) : Sorting before where
  sort items := items.mergeSort fun a b => !before b a
  perm items := List.mergeSort_perm items _
  sorted items := by
    have ordered := @List.pairwise_mergeSort _ (fun a b => !before b a)
      (by simpa using trans) (by simpa using fun a b => (total a b).symm) items
    simpa using ordered

section Pass

variable (joins : Item → Item → Bool) (merge : Item → Item → Item)

/-- The pass behind an item that may still grow. -/
def mergeFrom : Item → List Item → List Item
  | last, [] => [last]
  | last, item :: rest =>
    if joins last item then mergeFrom (merge last item) rest
    else last :: mergeFrom item rest

def mergeRuns : List Item → List Item
  | [] => []
  | first :: rest => mergeFrom joins merge first rest

theorem length_mergeFrom_le (last : Item) (items : List Item) :
    (mergeFrom joins merge last items).length ≤ items.length + 1 := by
  induction items generalizing last with
  | nil => exact Nat.le_refl _
  | cons item rest ih =>
      rw [mergeFrom]
      split
      · exact (ih _).trans (Nat.le_succ _)
      · exact Nat.succ_le_succ (ih item)

theorem length_mergeRuns_le (items : List Item) :
    (mergeRuns joins merge items).length ≤ items.length := by
  cases items with
  | nil => exact Nat.le_refl _
  | cons first rest => exact length_mergeFrom_le joins merge first rest

end Pass

/-- Merging neighbours of an ordered list of valid items is exact. -/
structure Mergeable (joins : Item → Item → Bool) (merge : Item → Item → Item)
    (before : Item → Item → Bool) (valid : Item → Prop)
    (covers : Item → Cell → Prop) : Prop where
  irrefl : ∀ a, before a a = false
  /-- A merged item stands in the order where its first part stood. -/
  keepsLeft : ∀ a b c, before c (merge a b) = before c a
  keepsRight : ∀ a b c, before (merge a b) c = before a c
  staysValid : ∀ a b, valid a → valid b → before b a = false →
    joins a b = true → valid (merge a b)
  coversBoth : ∀ a b, valid a → valid b → before b a = false → joins a b = true →
    ∀ cell, covers (merge a b) cell ↔ covers a cell ∨ covers b cell
  /-- What does not join an item does not join an earlier one either. -/
  apart : ∀ a b c, before b a = false → before c b = false →
    joins a b = false → joins a c = false

section Mergeable

variable {joins : Item → Item → Bool} {merge : Item → Item → Item}
  {before : Item → Item → Bool} {valid : Item → Prop}
  {covers : Item → Cell → Prop}
  (mergeable : Mergeable joins merge before valid covers)

include mergeable

variable {items : List Item}

theorem mergeFrom_covers {last : Item}
    (ordered : (last :: items).Pairwise fun a b => before b a = false)
    (allValid : ∀ item ∈ last :: items, valid item) :
    (∀ item ∈ mergeFrom joins merge last items, valid item) ∧
      ∀ cell, (∃ item ∈ mergeFrom joins merge last items, covers item cell) ↔
        ∃ item ∈ last :: items, covers item cell := by
  induction items generalizing last with
  | nil => exact ⟨allValid, fun _ => Iff.rfl⟩
  | cons item rest ih =>
      obtain ⟨first, tail⟩ := List.pairwise_cons.mp ordered
      have after := first item List.mem_cons_self
      have validLast := allValid last List.mem_cons_self
      have validItem := allValid item (by simp)
      rw [mergeFrom]
      split
      · rename_i joined
        have merged : (merge last item :: rest).Pairwise
            fun a b => before b a = false := by
          refine List.pairwise_cons.mpr ⟨fun later member => ?_,
            (List.pairwise_cons.mp tail).2⟩
          rw [mergeable.keepsLeft]
          exact first later (List.mem_cons_of_mem _ member)
        obtain ⟨valids, cover⟩ := ih merged (List.forall_mem_cons.mpr
          ⟨mergeable.staysValid _ _ validLast validItem after joined,
            fun later member => allValid later (by simp [member])⟩)
        refine ⟨valids, fun cell => ?_⟩
        have both :=
          mergeable.coversBoth last item validLast validItem after joined cell
        rw [cover]
        simp only [List.mem_cons, exists_eq_or_imp, both, or_assoc]
      · obtain ⟨valids, cover⟩ := ih tail fun later member =>
          allValid later (List.mem_cons_of_mem _ member)
        refine ⟨List.forall_mem_cons.mpr ⟨validLast, valids⟩, fun cell => ?_⟩
        have rest := cover cell
        simp only [List.mem_cons, exists_eq_or_imp] at rest ⊢
        rw [rest]

/-- Every run stands where one of the items stood. -/
theorem mergeFrom_ordered {last earlier : Item}
    (after : ∀ item ∈ last :: items, before item earlier = false) :
    ∀ item ∈ mergeFrom joins merge last items,
      before item earlier = false := by
  induction items generalizing last with
  | nil => exact after
  | cons item rest ih =>
      obtain ⟨first, tail⟩ := List.forall_mem_cons.mp after
      rw [mergeFrom]
      split
      · refine ih (List.forall_mem_cons.mpr ⟨?_, ?_⟩)
        · rw [mergeable.keepsRight]
          exact first
        · exact (List.forall_mem_cons.mp tail).2
      · exact List.forall_mem_cons.mpr ⟨first, ih tail⟩

theorem mergeFrom_apart {last : Item}
    (ordered : (last :: items).Pairwise fun a b => before b a = false) :
    (mergeFrom joins merge last items).Pairwise fun a b =>
      before b a = false ∧ joins a b = false := by
  induction items generalizing last with
  | nil => exact List.pairwise_singleton _ _
  | cons item rest ih =>
      obtain ⟨first, tail⟩ := List.pairwise_cons.mp ordered
      rw [mergeFrom]
      split
      · refine ih (List.pairwise_cons.mpr ⟨fun later member => ?_,
          (List.pairwise_cons.mp tail).2⟩)
        rw [mergeable.keepsLeft]
        exact first later (List.mem_cons_of_mem _ member)
      · rename_i separate
        refine List.pairwise_cons.mpr ⟨fun later member => ?_, ih tail⟩
        have behindLast := mergeFrom_ordered mergeable first later member
        have behindItem := mergeFrom_ordered mergeable
          (List.forall_mem_cons.mpr ⟨mergeable.irrefl item,
            (List.pairwise_cons.mp tail).1⟩) later member
        exact ⟨behindLast, mergeable.apart last item later
          (first item List.mem_cons_self) behindItem
          (Bool.eq_false_of_not_eq_true separate)⟩

structure Merged (items runs : List Item) (joins before : Item → Item → Bool)
    (valid : Item → Prop) (covers : Item → Cell → Prop) : Prop where
  fewer : runs.length ≤ items.length
  valid : ∀ run ∈ runs, valid run
  same : ∀ cell, (∃ run ∈ runs, covers run cell) ↔
    ∃ item ∈ items, covers item cell
  apart : runs.Pairwise fun a b => before b a = false ∧ joins a b = false

theorem mergeRuns_merged (sorting : Sorting before)
    (allValid : ∀ item ∈ items, valid item) :
    Merged items (mergeRuns joins merge (sorting.sort items)) joins before
      valid covers := by
  have perm := sorting.perm items
  have ordered := sorting.sorted items
  have few := length_mergeRuns_le joins merge (sorting.sort items)
  rw [perm.length_eq] at few
  cases result : sorting.sort items with
  | nil =>
      rw [result] at perm
      obtain rfl := perm.symm.eq_nil
      exact ⟨Nat.le_refl _, allValid, fun _ => Iff.rfl, List.Pairwise.nil⟩
  | cons first rest =>
      rw [result] at perm ordered few
      obtain ⟨valids, cover⟩ := mergeFrom_covers mergeable ordered
        fun item member => allValid item (perm.mem_iff.mp member)
      refine ⟨few, valids, fun cell => (cover cell).trans ?_,
        mergeFrom_apart mergeable ordered⟩
      simp only [perm.mem_iff]

end Mergeable

end WayDisplay.Foundation
