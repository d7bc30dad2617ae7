import Mathlib.Data.List.Perm.Subperm
import Mathlib.Algebra.Order.Ring.Nat
import Mathlib.Data.List.Basic
import Mathlib.Logic.Equiv.Basic

/-!
A binary heap in an array, with the least entry at the top.

An entry that is pushed rises by exchanges with its parent, and the entry that
takes the place of the top sinks by exchanges with its least child.  During both
the order may be broken at one index only; `RisesAt` and `SinksAt` say how.
-/

namespace WayDisplay.Foundation.BinaryHeap

universe u

variable {α : Type u} {less : α → α → Bool} {heap : Array α} {i j k : Nat}

def lessAt (less : α → α → Bool) (heap : Array α) (i j : Nat) : Bool :=
  match heap[i]?, heap[j]? with
  | some entry, some other => less entry other
  | _, _ => false

def siftUp (less : α → α → Bool) : Nat → Nat → Array α → Array α
  | 0, _, heap => heap
  | fuel + 1, index, heap =>
      if index = 0 then heap
      else
        let parent := (index - 1) / 2
        if lessAt less heap index parent then
          siftUp less fuel parent (heap.swapIfInBounds index parent)
        else heap

def smallest (less : α → α → Bool) (heap : Array α) (index : Nat) : Nat :=
  let left := index * 2 + 1
  let right := left + 1
  let smallest :=
    if left < heap.size ∧ lessAt less heap left index then left else index
  if right < heap.size ∧ lessAt less heap right smallest then right else smallest

def siftDown (less : α → α → Bool) : Nat → Nat → Array α → Array α
  | 0, _, heap => heap
  | fuel + 1, index, heap =>
      if smallest less heap index = index then heap
      else
        siftDown less fuel (smallest less heap index)
          (heap.swapIfInBounds index (smallest less heap index))

def push (less : α → α → Bool) (heap : Array α) (entry : α) : Array α :=
  siftUp less heap.size heap.size (heap.push entry)

def pop (less : α → α → Bool) (heap : Array α) : Array α :=
  match heap.back? with
  | none => heap
  | some last =>
      let rest := heap.pop
      if rest.size = 0 then rest
      else siftDown less rest.size 0 (rest.setIfInBounds 0 last)

/-! ## Comparisons -/

/-- A strict order up to entries that are level with one another. -/
structure Orders (less : α → α → Bool) : Prop where
  asymm : ∀ {x y}, less x y = true → less y x = false
  trans : ∀ {x y z}, less x y = false → less y z = false → less x z = false

theorem lessAt_outside (outside : heap.size ≤ i) :
    lessAt less heap i j = false := by
  simp [lessAt, Array.getElem?_eq_none outside]

theorem lessAt_of_outside (outside : heap.size ≤ j) :
    lessAt less heap i j = false := by
  rw [lessAt, Array.getElem?_eq_none outside]
  cases heap[i]? <;> rfl

theorem inside_of_lessAt (is : lessAt less heap i j = true) :
    i < heap.size ∧ j < heap.size := by
  refine ⟨?_, ?_⟩
  · by_contra outside
    rw [lessAt_outside (Nat.le_of_not_lt outside)] at is
    cases is
  · by_contra outside
    rw [lessAt_of_outside (Nat.le_of_not_lt outside)] at is
    cases is

theorem Orders.asymmAt (orders : Orders less)
    (is : lessAt less heap i j = true) : lessAt less heap j i = false := by
  revert is
  unfold lessAt
  cases heap[i]? with
  | none => exact fun is => by cases is
  | some entry =>
      cases heap[j]? with
      | none => exact fun is => by cases is
      | some other => exact orders.asymm

theorem Orders.transAt (orders : Orders less) (inside : j < heap.size)
    (first : lessAt less heap i j = false)
    (second : lessAt less heap j k = false) :
    lessAt less heap i k = false := by
  have middle : heap[j]? = some heap[j] := Array.getElem?_eq_getElem inside
  unfold lessAt at first second ⊢
  rw [middle] at first second
  cases left : heap[i]? with
  | none => rfl
  | some entry =>
      cases right : heap[k]? with
      | none => rfl
      | some other =>
          rw [left] at first
          rw [right] at second
          exact orders.trans first second

theorem Orders.lessAt_trans (orders : Orders less)
    (first : lessAt less heap i j = true)
    (second : lessAt less heap j k = true) :
    lessAt less heap i k = true := by
  by_contra refused
  rw [Bool.not_eq_true] at refused
  have inside := (inside_of_lessAt second).2
  have back := orders.asymmAt second
  rw [orders.transAt inside refused back] at first
  cases first

/-! ## Exchanges -/

theorem getElem?_swapIfInBounds (hi : i < heap.size) (hj : j < heap.size) :
    (heap.swapIfInBounds i j)[k]? = heap[Equiv.swap i j k]? := by
  rw [Array.swapIfInBounds_def, dif_pos hi, dif_pos hj, Array.getElem?_swap,
    Equiv.swap_apply_def]
  by_cases isJ : j = k
  · by_cases isI : k = i
    · simp [isJ, isI, hi]
    · simp [isJ, isI, hi]
  · by_cases isI : i = k
    · simp [isJ, isI, hj]
    · simp [isJ, isI, Ne.symm isJ, Ne.symm isI]

theorem swapIfInBounds_perm : (heap.swapIfInBounds i j).Perm heap := by
  rw [Array.swapIfInBounds_def]
  split
  · split
    · exact Array.swap_perm _ _
    · exact .rfl
  · exact .rfl

theorem lessAt_swap (hi : i < heap.size) (hj : j < heap.size) (m n : Nat) :
    lessAt less (heap.swapIfInBounds i j) m n =
      lessAt less heap (Equiv.swap i j m) (Equiv.swap i j n) := by
  rw [lessAt, getElem?_swapIfInBounds hi hj, getElem?_swapIfInBounds hi hj]
  rfl

/-! ## Rising -/

def Ordered (less : α → α → Bool) (heap : Array α) : Prop :=
  ∀ i, 0 < i → lessAt less heap i ((i - 1) / 2) = false

structure RisesAt (less : α → α → Bool) (heap : Array α) (index : Nat) :
    Prop where
  others : ∀ i, 0 < i → i ≠ index → lessAt less heap i ((i - 1) / 2) = false
  children : 0 < index → ∀ i, 0 < i → (i - 1) / 2 = index →
    lessAt less heap i ((index - 1) / 2) = false

theorem RisesAt.exchange (orders : Orders less) {index : Nat}
    (rises : RisesAt less heap index) (notTop : 0 < index)
    (is : lessAt less heap index ((index - 1) / 2) = true) :
    RisesAt less (heap.swapIfInBounds index ((index - 1) / 2))
      ((index - 1) / 2) := by
  obtain ⟨inside, insideParent⟩ := inside_of_lessAt is
  have back := orders.asymmAt is
  have below : (index - 1) / 2 < index := by omega
  refine ⟨fun i positive differs => ?_, fun notTopParent i positive child => ?_⟩
  · rw [lessAt_swap inside insideParent, Equiv.swap_apply_def,
      Equiv.swap_apply_def]
    by_cases isIndex : i = index
    · rw [if_pos isIndex, isIndex, if_neg (Nat.ne_of_lt below), if_pos rfl]
      exact back
    rw [if_neg isIndex, if_neg differs]
    by_cases ofIndex : (i - 1) / 2 = index
    · rw [if_pos ofIndex]
      exact rises.children notTop i positive ofIndex
    rw [if_neg ofIndex]
    by_cases sibling : (i - 1) / 2 = (index - 1) / 2
    · -- the parent is level with or before its other child, and now lower
      rw [if_pos sibling]
      have ordered := rises.others i positive isIndex
      rw [sibling] at ordered
      exact orders.transAt insideParent ordered back
    · rw [if_neg sibling]
      exact rises.others i positive isIndex
  · have grand : (((index - 1) / 2 - 1) / 2) < (index - 1) / 2 := by omega
    have ordered := rises.others ((index - 1) / 2) notTopParent
      (Nat.ne_of_lt below)
    rw [lessAt_swap inside insideParent, Equiv.swap_apply_of_ne_of_ne
      (Nat.ne_of_lt (Nat.lt_trans grand below)) (Nat.ne_of_lt grand),
      Equiv.swap_apply_def]
    by_cases isIndex : i = index
    · rw [if_pos isIndex]
      exact ordered
    · have notParent : i ≠ (index - 1) / 2 := by omega
      rw [if_neg isIndex, if_neg notParent]
      have first := rises.others i positive isIndex
      rw [child] at first
      exact orders.transAt insideParent first ordered

variable {fuel index : Nat}

theorem RisesAt.siftUp (orders : Orders less) (rises : RisesAt less heap index)
    (enough : index ≤ fuel) :
    Ordered less (siftUp less fuel index heap) := by
  induction fuel generalizing index heap with
  | zero =>
      intro i positive
      exact rises.others i positive (by omega)
  | succ fuel ih =>
      unfold BinaryHeap.siftUp
      split
      · rename_i isTop
        exact fun i positive => rises.others i positive (by omega)
      rename_i notTop
      dsimp only
      split
      · rename_i is
        exact ih (rises.exchange orders (Nat.pos_of_ne_zero notTop) is)
          (by omega)
      · rename_i refused
        intro i positive
        by_cases isIndex : i = index
        · rw [isIndex]
          exact Bool.not_eq_true _ ▸ refused
        · exact rises.others i positive isIndex

theorem siftUp_perm {fuel index : Nat} :
    (siftUp less fuel index heap).Perm heap := by
  induction fuel generalizing index heap with
  | zero => exact .rfl
  | succ fuel ih =>
      unfold siftUp
      split
      · exact .rfl
      dsimp only
      split
      · exact ih.trans swapIfInBounds_perm
      · exact .rfl

theorem getElem?_push_lessAt {x : α} (hi : i < heap.size) (hj : j < heap.size) :
    lessAt less (heap.push x) i j = lessAt less heap i j := by
  rw [lessAt, Array.getElem?_push, Array.getElem?_push,
    if_neg (Nat.ne_of_lt hi), if_neg (Nat.ne_of_lt hj)]
  rfl

theorem Ordered.push (orders : Orders less) (ordered : Ordered less heap)
    (x : α) : Ordered less (push less heap x) := by
  have rises : RisesAt less (heap.push x) heap.size := by
    refine ⟨fun i positive differs => ?_, fun _ i positive child => ?_⟩
    · by_cases inside : i < heap.size
      · rw [getElem?_push_lessAt inside (by omega)]
        exact ordered i positive
      · exact lessAt_outside (by rw [Array.size_push]; omega)
    · exact lessAt_outside (by rw [Array.size_push]; omega)
  exact rises.siftUp orders (Nat.le_refl _)

theorem mem_push {x y : α} : x ∈ push less heap y ↔ x ∈ heap ∨ x = y := by
  rw [push, siftUp_perm.mem_iff, Array.mem_push]

/-- The top of an ordered heap is its least entry. -/
theorem Ordered.top_least (orders : Orders less) (ordered : Ordered less heap)
    (i : Nat) : lessAt less heap i 0 = false := by
  induction i using Nat.strongRecOn with
  | ind i ih =>
      by_cases isTop : i = 0
      · subst isTop
        by_contra is
        rw [Bool.not_eq_false] at is
        exact absurd ((orders.asymmAt is).symm.trans is) Bool.false_ne_true
      by_cases inside : i < heap.size
      · exact orders.transAt (by omega) (ordered i (Nat.pos_of_ne_zero isTop))
          (ih ((i - 1) / 2) (by omega))
      · exact lessAt_outside (Nat.le_of_not_lt inside)

/-! ## Sinking -/

structure SinksAt (less : α → α → Bool) (heap : Array α) (index : Nat) :
    Prop where
  others : ∀ i, 0 < i → (i - 1) / 2 ≠ index →
    lessAt less heap i ((i - 1) / 2) = false
  children : 0 < index → ∀ i, 0 < i → (i - 1) / 2 = index →
    lessAt less heap i ((index - 1) / 2) = false

/-- The first comparison: the left child or the index itself. -/
theorem smallest_left (orders : Orders less) (heap : Array α) (index : Nat) :
    ∃ first, (if index * 2 + 1 < heap.size ∧
        lessAt less heap (index * 2 + 1) index then index * 2 + 1 else index) =
          first ∧
      (first = index ∨ first = index * 2 + 1 ∧
        lessAt less heap first index = true) ∧
      lessAt less heap (index * 2 + 1) first = false := by
  split
  · rename_i is
    refine ⟨_, rfl, Or.inr ⟨rfl, is.2⟩, ?_⟩
    by_contra self
    rw [Bool.not_eq_false] at self
    exact absurd ((orders.asymmAt self).symm.trans self) Bool.false_ne_true
  · rename_i refused
    refine ⟨_, rfl, Or.inl rfl, ?_⟩
    by_contra is
    rw [Bool.not_eq_false] at is
    exact refused ⟨(inside_of_lessAt is).1, is⟩

/-- The choice is the index or a child before it, and no child is before it. -/
theorem smallest_spec (orders : Orders less) (heap : Array α) (index : Nat) :
    (smallest less heap index = index ∨
      0 < smallest less heap index ∧
        (smallest less heap index - 1) / 2 = index ∧
        lessAt less heap (smallest less heap index) index = true) ∧
      ∀ i, 0 < i → (i - 1) / 2 = index →
        lessAt less heap i (smallest less heap index) = false := by
  obtain ⟨first, chosen, origin, left⟩ := smallest_left orders heap index
  unfold smallest
  dsimp only
  rw [chosen]
  have child : ∀ i, 0 < i → (i - 1) / 2 = index →
      i = index * 2 + 1 ∨ i = index * 2 + 1 + 1 := by omega
  split
  · rename_i right
    refine ⟨Or.inr ⟨by omega, by omega, ?_⟩, ?_⟩
    · rcases origin with same | ⟨-, is⟩
      · exact same ▸ right.2
      · exact orders.lessAt_trans right.2 is
    · intro i positive isChild
      have back := orders.asymmAt right.2
      rcases child i positive isChild with isLeft | isRight
      · rw [isLeft]
        exact orders.transAt (inside_of_lessAt right.2).2 left back
      · rw [isRight]
        by_contra self
        rw [Bool.not_eq_false] at self
        exact absurd ((orders.asymmAt self).symm.trans self) Bool.false_ne_true
  · rename_i refused
    refine ⟨?_, ?_⟩
    · rcases origin with same | ⟨isLeft, is⟩
      · exact Or.inl same
      · exact Or.inr ⟨by omega, by omega, is⟩
    · intro i positive isChild
      rcases child i positive isChild with isLeft | isRight
      · rw [isLeft]
        exact left
      · rw [isRight]
        by_contra is
        rw [Bool.not_eq_false] at is
        exact refused ⟨(inside_of_lessAt is).1, is⟩

theorem SinksAt.exchange (orders : Orders less) {index m : Nat}
    (sinks : SinksAt less heap index) (positive : 0 < m)
    (child : (m - 1) / 2 = index) (is : lessAt less heap m index = true)
    (least : ∀ i, 0 < i → (i - 1) / 2 = index → lessAt less heap i m = false) :
    SinksAt less (heap.swapIfInBounds index m) m := by
  obtain ⟨insideChild, inside⟩ := inside_of_lessAt is
  have below : index < m := by omega
  refine ⟨fun i iPositive notOfM => ?_, fun _ i iPositive ofM => ?_⟩
  · rw [lessAt_swap inside insideChild, Equiv.swap_apply_def,
      Equiv.swap_apply_def]
    by_cases isIndex : i = index
    · -- the parent of the index is before its grandchild
      have above : (i - 1) / 2 ≠ index := by omega
      rw [if_pos isIndex, if_neg above, if_neg notOfM, isIndex]
      exact sinks.children (isIndex ▸ iPositive) m positive child
    rw [if_neg isIndex]
    by_cases isM : i = m
    · rw [if_pos isM, isM, if_pos child]
      exact orders.asymmAt is
    rw [if_neg isM]
    by_cases ofIndex : (i - 1) / 2 = index
    · rw [if_pos ofIndex]
      exact least i iPositive ofIndex
    · rw [if_neg ofIndex, if_neg notOfM]
      exact sinks.others i iPositive ofIndex
  · have other : i ≠ index ∧ i ≠ m := by omega
    rw [child, lessAt_swap inside insideChild, Equiv.swap_apply_left,
      Equiv.swap_apply_of_ne_of_ne other.1 other.2]
    have ordered := sinks.others i iPositive (by omega)
    rw [ofM] at ordered
    exact ordered

theorem SinksAt.siftDown (orders : Orders less)
    (sinks : SinksAt less heap index) (enough : heap.size ≤ index + fuel) :
    Ordered less (siftDown less fuel index heap) := by
  induction fuel generalizing index heap with
  | zero =>
      intro i positive
      by_cases ofIndex : (i - 1) / 2 = index
      · have outside : heap.size ≤ (i - 1) / 2 := by omega
        exact lessAt_of_outside outside
      · exact sinks.others i positive ofIndex
  | succ fuel ih =>
      obtain ⟨choice, least⟩ := smallest_spec orders heap index
      unfold BinaryHeap.siftDown
      split
      · rename_i stays
        intro i positive
        by_cases ofIndex : (i - 1) / 2 = index
        · have ordered := least i positive ofIndex
          rw [stays, ← ofIndex] at ordered
          exact ordered
        · exact sinks.others i positive ofIndex
      · rename_i moves
        obtain ⟨positive, child, is⟩ := choice.resolve_left moves
        refine ih (sinks.exchange orders positive child is least) ?_
        rw [Array.size_swapIfInBounds]
        omega

theorem siftDown_perm {fuel index : Nat} :
    (siftDown less fuel index heap).Perm heap := by
  induction fuel generalizing index heap with
  | zero => exact .rfl
  | succ fuel ih =>
      unfold siftDown
      split
      · exact .rfl
      · exact ih.trans swapIfInBounds_perm

theorem lessAt_pop_set {last : α} (hi : i < heap.pop.size) (notTop : i ≠ 0)
    (hj : j < heap.pop.size) (notTop' : j ≠ 0) :
    lessAt less (heap.pop.setIfInBounds 0 last) i j = lessAt less heap i j := by
  rw [Array.size_pop] at hi hj
  rw [lessAt, Array.getElem?_setIfInBounds, Array.getElem?_setIfInBounds,
    if_neg (Ne.symm notTop), if_neg (Ne.symm notTop'), Array.getElem?_pop,
    Array.getElem?_pop, if_pos hi, if_pos hj]
  rfl

theorem Ordered.pop (orders : Orders less) (ordered : Ordered less heap) :
    Ordered less (pop less heap) := by
  unfold BinaryHeap.pop
  cases heap.back? with
  | none => exact ordered
  | some last =>
      dsimp only
      split
      · rename_i empty
        exact fun i positive => lessAt_outside (by omega)
      have sinks : SinksAt less (heap.pop.setIfInBounds 0 last) 0 := by
        refine ⟨fun i positive below => ?_, fun impossible => by omega⟩
        by_cases inside : i < heap.pop.size
        · rw [lessAt_pop_set inside (by omega) (by omega) below]
          exact ordered i positive
        · refine lessAt_outside ?_
          rw [Array.size_setIfInBounds]
          omega
      refine sinks.siftDown orders ?_
      rw [Array.size_setIfInBounds]
      omega

/-- Popping loses the top entry and no other. -/
theorem mem_pop_of_mem {x top : α} (isTop : heap[0]? = some top)
    (member : x ∈ heap) (differs : x ≠ top) : x ∈ pop less heap := by
  obtain ⟨i, found⟩ := Array.mem_iff_getElem?.mp member
  have inside := (Array.getElem?_eq_some_iff.mp found).1
  have notTop : i ≠ 0 := by
    rintro rfl
    exact differs (Option.some.inj (found.symm.trans isTop))
  have back : heap.back? = heap[heap.size - 1]? := Array.back?_eq_getElem?
  have several : heap.pop.size ≠ 0 := by
    rw [Array.size_pop]
    omega
  unfold pop
  cases isBack : heap.back? with
  | none => exact member
  | some last =>
      dsimp only
      rw [if_neg several, siftDown_perm.mem_iff]
      by_cases isLast : i = heap.size - 1
      · rw [isBack, ← isLast, found, Option.some.injEq] at back
        exact back ▸ Array.mem_setIfInBounds (Nat.pos_of_ne_zero several)
      · refine Array.mem_iff_getElem?.mpr ⟨i, ?_⟩
        rw [Array.getElem?_setIfInBounds, if_neg (Ne.symm notTop),
          Array.getElem?_pop, if_pos (by omega)]
        exact found

theorem pop_subperm : List.Subperm (pop less heap).toList heap.toList := by
  unfold pop
  cases isBack : heap.back? with
  | none => exact List.Subperm.refl _
  | some last =>
      dsimp only
      split
      · rw [Array.toList_pop]
        exact (List.dropLast_sublist _).subperm
      · refine siftDown_perm.toList.subperm.trans ?_
        rw [Array.toList_setIfInBounds, Array.toList_pop]
        obtain ⟨front, split⟩ : ∃ front, heap.toList = front ++ [last] :=
          List.getLast?_eq_some_iff.mp (by simpa using isBack)
        rw [split, List.dropLast_concat]
        cases front with
        | nil => exact List.nil_subperm
        | cons top middle =>
            -- The last entry stands where the top was.
            have moved : (last :: middle).Perm (middle ++ [last]) :=
              (List.perm_append_singleton last middle).symm
            exact moved.subperm.trans (List.sublist_cons_self _ _).subperm

end WayDisplay.Foundation.BinaryHeap
