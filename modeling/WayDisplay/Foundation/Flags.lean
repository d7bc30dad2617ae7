import Mathlib.Algebra.Order.Ring.Nat
import Mathlib.Data.List.Perm.Subperm
import Mathlib.Logic.Function.Basic

/-!
Flags over a range of numbers, and how many of them are set.
-/

namespace WayDisplay.Foundation

/-- One more set bit is counted once. -/
theorem countP_range_insert {n k : Nat} {f g : Nat → Bool} (inside : k < n)
    (clear : f k = false) (set : g k = true)
    (others : ∀ i, i ≠ k → g i = f i) :
    (List.range n).countP g = (List.range n).countP f + 1 := by
  induction n with
  | zero => exact absurd inside (Nat.not_lt_zero k)
  | succ n ih =>
      rw [List.range_succ, List.countP_append, List.countP_append,
        List.countP_singleton, List.countP_singleton]
      rcases Nat.eq_or_lt_of_le (Nat.le_of_lt_succ inside) with here | below
      · subst here
        have same : (List.range k).countP g = (List.range k).countP f := by
          apply List.countP_congr
          intro i member
          rw [others i (Nat.ne_of_lt (List.mem_range.mp member))]
        rw [same, set, clear]
        rfl
      · rw [ih below, others n (Nat.ne_of_gt below)]
        omega

/-- Set bits below a bound are no more than the bound. -/
theorem countP_range_le {n bound : Nat} {f : Nat → Bool}
    (bounded : ∀ i, f i = true → i < bound) :
    (List.range n).countP f ≤ bound := by
  rw [List.countP_eq_length_filter, ← List.length_range (n := bound)]
  apply List.Subperm.length_le
  apply List.subperm_of_subset ((List.nodup_range).filter _)
  intro i member
  exact List.mem_range.mpr (bounded i (List.mem_filter.mp member).2)

variable {n id : Nat} {flags : Nat → Bool}

theorem countP_range_set (inside : id < n) (clear : flags id = false) :
    (List.range n).countP (Function.update flags id true) =
      (List.range n).countP flags + 1 :=
  countP_range_insert inside clear (Function.update_self _ _ _)
    fun _ other => Function.update_of_ne other _ _

theorem countP_range_clear (inside : id < n) (set : flags id = true) :
    (List.range n).countP (Function.update flags id false) + 1 =
      (List.range n).countP flags :=
  (countP_range_insert inside (Function.update_self _ _ _) set
    fun _ other => (Function.update_of_ne other _ _).symm).symm

theorem countP_range_pos :
    0 < (List.range n).countP flags ↔ ∃ id < n, flags id = true := by
  rw [List.countP_pos_iff]
  simp only [List.mem_range]

/-- A set that lost a member and gained none is smaller. -/
theorem countP_range_lt_of_clear {fewer : Nat → Bool}
    (subset : ∀ i, fewer i = true → flags i = true) (inside : id < n)
    (set : flags id = true) (clear : fewer id = false) :
    (List.range n).countP fewer < (List.range n).countP flags := by
  have below : (List.range n).countP fewer ≤
      (List.range n).countP (Function.update flags id false) := by
    apply List.countP_mono_left
    intro i _ member
    have apart : i ≠ id := by
      rintro rfl
      rw [clear] at member
      contradiction
    rw [Function.update_of_ne apart]
    exact subset i member
  have removed := countP_range_clear inside set
  omega

/-- A list without repetition has room for a number it does not name. -/
theorem length_lt_of_absent {items : List Nat} (once : items.Nodup)
    (below : ∀ i ∈ items, i < n) (inside : id < n) (absent : id ∉ items) :
    items.length < n := by
  have subset : id :: items ⊆ List.range n := by
    intro other member
    rw [List.mem_range]
    rcases List.mem_cons.mp member with rfl | member
    · exact inside
    · exact below other member
  have more := (List.nodup_cons.mpr ⟨absent, once⟩).length_le_of_subset subset
  rw [List.length_range] at more
  exact more

end WayDisplay.Foundation
