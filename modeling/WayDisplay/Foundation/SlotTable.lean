import Mathlib.Algebra.Order.Ring.Nat
import Mathlib.Data.List.Basic
import Mathlib.Data.List.Nodup
import Mathlib.Data.List.Perm.Basic
import Mathlib.Logic.Function.Basic

/-!
A dense list of items with a table of slots that says where the item of each
key lies.

An item is removed by moving the last one into its place, so that the list stays
dense; the slot of the item that was moved has to follow it.  `Indexed` is the
agreement between the list and the slots.
-/

namespace WayDisplay.Foundation

universe u v

structure SlotTable (Key : Type u) (Item : Type v) where
  items : List Item
  slot : Key → Option Nat

namespace SlotTable

variable {Key : Type u} {Item : Type v}

def empty : SlotTable Key Item := ⟨[], fun _ => none⟩

/-- A slot names the position of the item with its key, and no other. -/
def Indexed (key : Item → Key) (table : SlotTable Key Item) : Prop :=
  ∀ k i, table.slot k = some i ↔
    ∃ item, table.items[i]? = some item ∧ key item = k

theorem indexed_empty (key : Item → Key) :
    (empty : SlotTable Key Item).Indexed key := by
  intro k i
  simp [empty]

def find (table : SlotTable Key Item) (k : Key) : Option Item :=
  (table.slot k).bind fun i => table.items[i]?

section Find

variable {key : Item → Key} {table : SlotTable Key Item}

theorem Indexed.slot_of_getElem (indexed : table.Indexed key) {i : Nat}
    {item : Item} (stored : table.items[i]? = some item) :
    table.slot (key item) = some i :=
  (indexed _ _).mpr ⟨item, stored, rfl⟩

theorem Indexed.getElem_of_slot (indexed : table.Indexed key) {k : Key}
    {i : Nat} (named : table.slot k = some i) :
    ∃ item, table.items[i]? = some item ∧ key item = k :=
  (indexed _ _).mp named

theorem Indexed.find_eq_some (indexed : table.Indexed key) {k : Key}
    {item : Item} :
    table.find k = some item ↔ item ∈ table.items ∧ key item = k := by
  constructor
  · intro found
    obtain ⟨i, named, stored⟩ := Option.bind_eq_some_iff.mp found
    obtain ⟨other, storedOther, keyed⟩ := indexed.getElem_of_slot named
    rw [stored, Option.some.injEq] at storedOther
    exact ⟨List.mem_of_getElem? stored, storedOther ▸ keyed⟩
  · rintro ⟨member, rfl⟩
    obtain ⟨i, stored⟩ := List.mem_iff_getElem?.mp member
    rw [find, indexed.slot_of_getElem stored, Option.bind_some, stored]

theorem Indexed.find_eq_none (indexed : table.Indexed key) {k : Key} :
    table.find k = none ↔ ∀ item ∈ table.items, key item ≠ k := by
  constructor
  · intro missing item member keyed
    rw [indexed.find_eq_some.mpr ⟨member, keyed⟩] at missing
    cases missing
  · intro missing
    cases found : table.find k with
    | none => rfl
    | some item =>
        obtain ⟨member, keyed⟩ := indexed.find_eq_some.mp found
        exact absurd keyed (missing item member)

theorem Indexed.slot_eq_none (indexed : table.Indexed key) {k : Key} :
    table.slot k = none ↔ table.find k = none := by
  constructor
  · intro missing
    rw [find, missing, Option.bind_none]
  · intro missing
    cases named : table.slot k with
    | none => rfl
    | some i =>
        obtain ⟨item, stored, _⟩ := indexed.getElem_of_slot named
        rw [find, named, Option.bind_some, stored] at missing
        cases missing

/-- Two positions do not hold items of one key. -/
theorem Indexed.position_unique (indexed : table.Indexed key) {i j : Nat}
    {item other : Item} (stored : table.items[i]? = some item)
    (storedOther : table.items[j]? = some other)
    (same : key item = key other) : i = j := by
  have first := indexed.slot_of_getElem stored
  have second := indexed.slot_of_getElem storedOther
  rw [same, second, Option.some.injEq] at first
  exact first.symm

theorem Indexed.nodup (indexed : table.Indexed key) : table.items.Nodup := by
  rw [List.nodup_iff_injective_getElem]
  intro i j same
  exact Fin.ext (indexed.position_unique (List.getElem?_eq_getElem i.2)
    (List.getElem?_eq_getElem j.2) (congrArg key same))

end Find

/-! ## Adding and changing items -/

variable [DecidableEq Key]

def push (key : Item → Key) (table : SlotTable Key Item) (item : Item) :
    SlotTable Key Item where
  items := table.items ++ [item]
  slot := Function.update table.slot (key item) (some table.items.length)

variable {table : SlotTable Key Item} {key : Item → Key}

theorem Indexed.push (indexed : table.Indexed key) {item : Item}
    (free : table.slot (key item) = none) :
    (table.push key item).Indexed key := by
  have missing := indexed.find_eq_none.mp (indexed.slot_eq_none.mp free)
  intro k i
  dsimp only [SlotTable.push]
  by_cases own : k = key item
  · subst own
    rw [Function.update_self, Option.some.injEq]
    constructor
    · rintro rfl
      exact ⟨item, by simp, rfl⟩
    · rintro ⟨other, stored, keyed⟩
      rw [List.getElem?_append] at stored
      split at stored
      · exact absurd keyed (missing other (List.mem_of_getElem? stored))
      · rename_i beyond
        obtain ⟨inside, _⟩ := List.getElem?_eq_some_iff.mp stored
        rw [List.length_singleton] at inside
        omega
  · rw [Function.update_of_ne own, indexed k i]
    constructor
    · rintro ⟨other, stored, keyed⟩
      have inside := (List.getElem?_eq_some_iff.mp stored).choose
      exact ⟨other, by rw [List.getElem?_append_left inside, stored], keyed⟩
    · rintro ⟨other, stored, keyed⟩
      rw [List.getElem?_append] at stored
      split at stored
      · exact ⟨other, stored, keyed⟩
      · obtain ⟨_, same⟩ := List.getElem?_eq_some_iff.mp stored
        rw [List.getElem_singleton] at same
        exact absurd (same ▸ keyed).symm own

def modify (table : SlotTable Key Item) (i : Nat) (change : Item → Item) :
    SlotTable Key Item :=
  { table with items := table.items.modify i change }

omit [DecidableEq Key] in
theorem Indexed.modify (indexed : table.Indexed key) (i : Nat)
    {change : Item → Item} (keyed : ∀ item, key (change item) = key item) :
    (table.modify i change).Indexed key := by
  intro k j
  rw [SlotTable.modify, indexed k j]
  constructor
  · rintro ⟨item, stored, rfl⟩
    rw [List.getElem?_modify, stored]
    by_cases here : i = j
    · exact ⟨change item, by simp [here], keyed item⟩
    · exact ⟨item, by simp [here], rfl⟩
  · rintro ⟨item, stored, rfl⟩
    rw [List.getElem?_modify, Option.map_eq_map, Option.map_eq_some_iff] at stored
    obtain ⟨old, storedOld, rfl⟩ := stored
    refine ⟨old, storedOld, ?_⟩
    split
    · exact (keyed old).symm
    · rfl

/-- An item that was just added can still be changed. -/
theorem modify_push (table : SlotTable Key Item) {item : Item}
    {change : Item → Item} (keyed : key (change item) = key item) :
    (table.push key item).modify table.items.length change =
      table.push key (change item) := by
  unfold SlotTable.modify SlotTable.push
  congr 1
  · apply List.ext_getElem?
    intro i
    rw [List.getElem?_modify, List.getElem?_append, List.getElem?_append]
    by_cases inside : i < table.items.length
    · rw [if_pos inside, if_pos inside]
      cases table.items[i]? <;> simp [Nat.ne_of_gt inside]
    · rw [if_neg inside, if_neg inside]
      rcases Nat.eq_or_lt_of_le (Nat.le_of_not_lt inside) with here | beyond
      · simp [← here]
      · rw [List.getElem?_eq_none (by simp only [List.length_singleton]; omega),
          List.getElem?_eq_none (by simp only [List.length_singleton]; omega)]
        rfl
  · rw [keyed]

/-! ## Removing an item -/

def swapRemove (key : Item → Key) (table : SlotTable Key Item) (i : Nat) :
    SlotTable Key Item :=
  match table.items[i]?, table.items.getLast? with
  | some retired, some moved =>
      let cleared := Function.update table.slot (key retired) none
      if i = table.items.length - 1 then ⟨table.items.dropLast, cleared⟩
      else
        ⟨(table.items.set i moved).dropLast,
          Function.update cleared (key moved) (some i)⟩
  | _, _ => table

variable {retired : Item}

theorem swapRemove_of_getElem (key : Item → Key) {i : Nat}
    (stored : table.items[i]? = some retired) :
    ∃ moved, table.items[table.items.length - 1]? = some moved ∧
      table.swapRemove key i =
        ⟨(table.items.set i moved).dropLast,
          if i = table.items.length - 1 then
            Function.update table.slot (key retired) none
          else
            Function.update (Function.update table.slot (key retired) none)
              (key moved) (some i)⟩ := by
  have inside := (List.getElem?_eq_some_iff.mp stored).choose
  have nonempty : table.items ≠ [] := by
    rintro blank
    rw [blank] at inside
    exact absurd inside (Nat.not_lt_zero _)
  obtain ⟨moved, last⟩ : ∃ moved, table.items.getLast? = some moved :=
    ⟨_, List.getLast?_eq_some_getLast nonempty⟩
  have position := List.getLast?_eq_getElem? (l := table.items) ▸ last
  refine ⟨moved, position, ?_⟩
  rw [swapRemove, stored, last]
  dsimp only
  split
  next here =>
      have same : table.items.set i moved = table.items := by
        apply List.ext_getElem?
        intro j
        rw [List.getElem?_set]
        split
        · rename_i there
          subst there
          rw [← position, here]
        · rfl
      rw [same]
  next => rfl

/-- What lies where after a removal. -/
theorem getElem_swapRemove (key : Item → Key) {i : Nat}
    (stored : table.items[i]? = some retired) (j : Nat) :
    (table.swapRemove key i).items[j]? =
      if j < table.items.length - 1 then
        if j = i then table.items[table.items.length - 1]?
        else table.items[j]?
      else none := by
  obtain ⟨moved, last, removed⟩ := swapRemove_of_getElem key stored
  have inside := (List.getElem?_eq_some_iff.mp stored).choose
  rw [removed, List.getElem?_dropLast, List.length_set]
  by_cases within : j < table.items.length - 1
  · rw [if_pos within, if_pos within, List.getElem?_set]
    by_cases here : i = j
    · rw [if_pos here, if_pos (here ▸ inside), if_pos here.symm, last]
    · rw [if_neg here, if_neg (Ne.symm here)]
  · rw [if_neg within, if_neg within]

/-- A removal takes one item out and keeps the others. -/
theorem perm_swapRemove (key : Item → Key) {i : Nat}
    (stored : table.items[i]? = some retired) :
    table.items.Perm (retired :: (table.swapRemove key i).items) := by
  obtain ⟨moved, last, removed⟩ := swapRemove_of_getElem key stored
  obtain ⟨inside, value⟩ := List.getElem?_eq_some_iff.mp stored
  rw [removed]
  have split : table.items =
      table.items.take i ++ retired :: table.items.drop (i + 1) := by
    rw [← value, List.getElem_cons_drop, List.take_append_drop]
  have lengthTake : (table.items.take i).length = i := by
    rw [List.length_take]
    omega
  have replaced : table.items.set i moved =
      table.items.take i ++ moved :: table.items.drop (i + 1) :=
    List.set_eq_take_append_cons_drop.trans (if_pos inside)
  dsimp only
  rw [replaced]
  rcases List.eq_nil_or_concat (table.items.drop (i + 1)) with
    blank | ⟨front, final, tail⟩
  · rw [blank] at split ⊢
    rw [show table.items.take i ++ [moved] =
      (table.items.take i).concat moved from (List.concat_eq_append).symm,
      List.concat_eq_append, List.dropLast_concat]
    conv_lhs => rw [split]
    exact List.perm_append_comm
  · have final_eq : final = moved := by
      rw [split, tail, List.getElem?_append_right (by
        simp only [lengthTake, List.length_append, List.length_cons,
          List.concat_eq_append]
        omega)] at last
      simp only [List.length_append, List.length_cons, lengthTake,
        List.concat_eq_append, List.length_nil] at last
      rw [show i + (front.length + (0 + 1) + 1) - 1 - i = front.length + 1 by
        omega] at last
      simpa using last
    rw [tail, final_eq] at split
    rw [tail, final_eq]
    have shortened : (table.items.take i ++ moved :: front.concat moved).dropLast =
        table.items.take i ++ moved :: front := by
      rw [List.concat_eq_append, ← List.cons_append, ← List.append_assoc,
        List.dropLast_concat]
    rw [shortened]
    conv_lhs => rw [split]
    rw [List.concat_eq_append, ← List.cons_append, ← List.append_assoc]
    calc table.items.take i ++ retired :: front ++ [moved]
        _ |>.Perm (moved :: (table.items.take i ++ retired :: front)) :=
          List.perm_append_singleton _ _
        _ |>.Perm (moved :: (retired :: (table.items.take i ++ front))) :=
          (List.perm_middle).cons _
        _ |>.Perm (retired :: moved :: (table.items.take i ++ front)) :=
          List.Perm.swap _ _ _
        _ |>.Perm (retired :: (table.items.take i ++ moved :: front)) :=
          (List.perm_middle.symm).cons _

/-- The slots after a removal: one is cleared and one follows its item. -/
theorem Indexed.slot_swapRemove (indexed : table.Indexed key) {i : Nat}
    {retired moved : Item} (stored : table.items[i]? = some retired)
    (last : table.items[table.items.length - 1]? = some moved) (k : Key) :
    (table.swapRemove key i).slot k =
      if k = key retired then none
      else if k = key moved then some i
      else table.slot k := by
  obtain ⟨other, lastOther, removed⟩ := swapRemove_of_getElem key stored
  rw [last, Option.some.injEq] at lastOther
  subst lastOther
  rw [removed]
  dsimp only
  split
  next atEnd =>
      rw [← atEnd, stored, Option.some.injEq] at last
      subst last
      rw [Function.update_apply]
      split
      · rfl
      · rfl
  next inner =>
      have distinct : key moved ≠ key retired := fun same =>
        inner (indexed.position_unique last stored same).symm
      rw [Function.update_apply, Function.update_apply]
      by_cases gone : k = key retired
      · rw [if_pos gone, if_pos gone, if_neg (gone ▸ Ne.symm distinct)]
      · rw [if_neg gone, if_neg gone]

theorem Indexed.swapRemove (indexed : table.Indexed key) (i : Nat) :
    (table.swapRemove key i).Indexed key := by
  cases stored : table.items[i]? with
  | none => simpa only [SlotTable.swapRemove, stored] using indexed
  | some retired =>
      obtain ⟨moved, last, -⟩ := swapRemove_of_getElem key stored
      have inside := (List.getElem?_eq_some_iff.mp stored).choose
      intro k j
      rw [indexed.slot_swapRemove stored last, getElem_swapRemove key stored]
      by_cases gone : k = key retired
      · -- The item of this key was at position `i` only.
        rw [if_pos gone]
        refine ⟨nofun, ?_⟩
        rintro ⟨item, found, keyed⟩
        split_ifs at found with within here
        · have := indexed.position_unique found stored (keyed.trans gone)
          omega
        · exact absurd (indexed.position_unique found stored
            (keyed.trans gone)) here
      · rw [if_neg gone]
        by_cases follows : k = key moved
        · rw [if_pos follows, Option.some.injEq]
          constructor
          · rintro rfl
            have inner : i ≠ table.items.length - 1 := by
              rintro atEnd
              rw [← atEnd, stored, Option.some.injEq] at last
              exact gone (follows.trans (congrArg key last.symm))
            exact ⟨moved, by rw [if_pos (by omega), if_pos rfl, last],
              follows.symm⟩
          · rintro ⟨item, found, keyed⟩
            split_ifs at found with within here
            · exact here.symm
            · have := indexed.position_unique found last (keyed.trans follows)
              omega
        · rw [if_neg follows, indexed k j]
          constructor
          · rintro ⟨item, found, rfl⟩
            have small := (List.getElem?_eq_some_iff.mp found).choose
            have notEnd : j ≠ table.items.length - 1 := by
              rintro atEnd
              rw [atEnd, last, Option.some.injEq] at found
              exact follows (congrArg key found.symm)
            have notHere : j ≠ i := by
              rintro rfl
              rw [stored, Option.some.injEq] at found
              exact gone (congrArg key found.symm)
            exact ⟨item, by rw [if_pos (by omega), if_neg notHere, found], rfl⟩
          · rintro ⟨item, found, rfl⟩
            split_ifs at found with within here
            · rw [last, Option.some.injEq] at found
              exact absurd (congrArg key found.symm) follows
            · exact ⟨item, found, rfl⟩

/-- A removal is felt under the removed key only. -/
theorem Indexed.find_swapRemove (indexed : table.Indexed key) {i : Nat}
    (stored : table.items[i]? = some retired) (k : Key) :
    (table.swapRemove key i).find k =
      if k = key retired then none else table.find k := by
  have kept := perm_swapRemove key stored
  split
  next gone =>
      rw [(indexed.swapRemove i).find_eq_none]
      intro item member keyed
      obtain ⟨j, found⟩ := List.mem_iff_getElem?.mp member
      rw [← keyed] at gone
      have named := (indexed.swapRemove i).slot_of_getElem found
      obtain ⟨moved, last, -⟩ := swapRemove_of_getElem key stored
      rw [indexed.slot_swapRemove stored last, if_pos gone] at named
      cases named
  next other =>
      apply Option.ext
      intro item
      rw [(indexed.swapRemove i).find_eq_some, indexed.find_eq_some,
        kept.mem_iff, List.mem_cons]
      constructor
      · rintro ⟨member, keyed⟩
        exact ⟨Or.inr member, keyed⟩
      · rintro ⟨rfl | member, keyed⟩
        · exact absurd keyed.symm other
        · exact ⟨member, keyed⟩

end SlotTable

end WayDisplay.Foundation
