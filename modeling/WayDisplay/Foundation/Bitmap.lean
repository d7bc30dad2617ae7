import Mathlib.Algebra.Order.Ring.Nat
import Mathlib.Logic.Function.Basic
import Mathlib.Tactic.Common

/-!
Sets of numbers as words of 64 bits.

A set is read through one test.  A scan goes from one end of a range to the other
word by word: it masks the ends and takes the lowest bit of the first word that is
not zero.  It finds the least member of the range.
-/

namespace WayDisplay.Foundation

/-- Bit `i` of word `w` stands for the number `64 * w + i`. -/
abbrev Bitmap := Nat → BitVec 64

namespace Bitmap

def empty : Bitmap := fun _ => 0

def test (words : Bitmap) (id : Nat) : Bool :=
  (words (id / 64)).getLsbD (id % 64)

def set (words : Bitmap) (id : Nat) : Bitmap :=
  Function.update words (id / 64) (words (id / 64) ||| 1#64 <<< (id % 64))

def clear (words : Bitmap) (id : Nat) : Bitmap :=
  Function.update words (id / 64) (words (id / 64) &&& ~~~(1#64 <<< (id % 64)))

def lowBits (count : Nat) (bits : BitVec 64) : BitVec 64 :=
  bits &&& (1#64 <<< count - 1#64)

/-- The last of `remaining + 1` words may be cut at the end of the range. -/
def scanWords (words : Bitmap) (capacity finish : Nat) :
    Nat → Nat → BitVec 64 → Option Nat
  | 0, word, bits =>
      let bits := if finish % 64 ≠ 0 then lowBits (finish % 64) bits else bits
      if bits ≠ 0 ∧ word * 64 + bits.ctz.toNat < capacity then
        some (word * 64 + bits.ctz.toNat)
      else none
  | remaining + 1, word, bits =>
      if bits ≠ 0 ∧ word * 64 + bits.ctz.toNat < capacity then
        some (word * 64 + bits.ctz.toNat)
      else
        scanWords words capacity finish remaining (word + 1) (words (word + 1))

def scan (words : Bitmap) (capacity start finish : Nat) : Option Nat :=
  if finish ≤ start then none
  else
    scanWords words capacity finish ((finish - 1) / 64 - start / 64)
      (start / 64) (words (start / 64) &&& (BitVec.allOnes 64 <<< (start % 64)))

variable {words : Bitmap} {id other start finish : Nat}

/-! ## Members -/

@[simp]
theorem test_empty (id : Nat) : empty.test id = false := by
  simp [empty, test]

theorem getLsbD_one_shiftLeft {count i : Nat} (inside : i < 64) :
    (1#64 <<< count).getLsbD i = decide (i = count) := by
  rw [BitVec.getLsbD_shiftLeft, BitVec.getLsbD_one]
  by_cases same : i = count
  · subst same
    simp [inside]
  · by_cases below : i < count
    · simp [below, same]
    · have apart : i - count ≠ 0 := by omega
      simp [apart, same]

theorem same_place (id other : Nat) :
    id / 64 = other / 64 ∧ id % 64 = other % 64 ↔ id = other := by
  constructor
  · rintro ⟨word, bit⟩
    omega
  · rintro rfl
    exact ⟨rfl, rfl⟩

theorem same_bit_iff {id other : Nat} (word : other / 64 = id / 64) :
    other % 64 = id % 64 ↔ other = id := by
  rw [← same_place other id]
  exact ⟨fun same => ⟨word, same⟩, And.right⟩

theorem test_set (words : Bitmap) (id other : Nat) :
    (words.set id).test other = (words.test other || decide (other = id)) := by
  have inside : other % 64 < 64 := Nat.mod_lt _ (by decide)
  unfold test set
  by_cases word : other / 64 = id / 64
  · rw [word, Function.update_self, BitVec.getLsbD_or,
      getLsbD_one_shiftLeft inside]
    simp only [same_bit_iff word]
  · have apart : other ≠ id := fun same => word (same ▸ rfl)
    rw [Function.update_of_ne word]
    simp [apart]

theorem test_clear (words : Bitmap) (id other : Nat) :
    (words.clear id).test other = (words.test other && !decide (other = id)) := by
  have inside : other % 64 < 64 := Nat.mod_lt _ (by decide)
  unfold test clear
  by_cases word : other / 64 = id / 64
  · rw [word, Function.update_self, BitVec.getLsbD_and, BitVec.getLsbD_not,
      getLsbD_one_shiftLeft inside]
    simp [same_bit_iff word, inside]
  · have apart : other ≠ id := fun same => word (same ▸ rfl)
    rw [Function.update_of_ne word]
    simp [apart]

/-! ## Scanning -/

theorem getLsbD_lowBits {count i : Nat} (bits : BitVec 64) (few : count < 64) :
    (lowBits count bits).getLsbD i = (bits.getLsbD i && decide (i < count)) := by
  have value : (1#64 <<< count - 1#64).toNat = 2 ^ count - 1 := by
    have small : 2 ^ count < 2 ^ 64 := Nat.pow_lt_pow_right (by decide) few
    have positive : 0 < 2 ^ count := Nat.pow_pos (by decide)
    have one : (1#64).toNat = 1 := rfl
    have shifted : (1#64 <<< count).toNat = 2 ^ count := by
      rw [BitVec.toNat_shiftLeft, Nat.shiftLeft_eq, one, Nat.one_mul,
        Nat.mod_eq_of_lt small]
    rw [BitVec.toNat_sub_of_le, shifted, one]
    rw [BitVec.le_def, shifted, one]
    exact positive
  rw [lowBits, BitVec.getLsbD_and, BitVec.getLsbD, BitVec.getLsbD, value,
    Nat.testBit_two_pow_sub_one]

def Shows (words : Bitmap) (start finish word : Nat) (bits : BitVec 64) : Prop :=
  ∀ i < 64, bits.getLsbD i = true ↔
    words.test (word * 64 + i) = true ∧ start ≤ word * 64 + i ∧
      word * 64 + i < finish

def IsLeast (words : Bitmap) (start finish : Nat) : Option Nat → Prop
  | none => ∀ id, start ≤ id → id < finish → words.test id = false
  | some id => words.test id = true ∧ start ≤ id ∧ id < finish ∧
      ∀ other, start ≤ other → other < id → words.test other = false

theorem Shows.lowest {word : Nat} {bits : BitVec 64}
    (shows : Shows words start finish word bits) (some : bits ≠ 0)
    (before : ∀ id, start ≤ id → id < word * 64 → words.test id = false) :
    IsLeast words start finish (.some (word * 64 + bits.ctz.toNat)) := by
  have set : bits.getLsbD bits.ctz.toNat = true :=
    BitVec.getLsbD_true_ctz_of_ne_zero some
  have inside : bits.ctz.toNat < 64 := BitVec.lt_of_getLsbD set
  obtain ⟨member, above, below⟩ := (shows _ inside).mp set
  refine ⟨member, above, below, ?_⟩
  intro other low high
  by_cases earlier : other < word * 64
  · exact before other low earlier
  · have place : other = word * 64 + (other - word * 64) := by omega
    have clear : bits.getLsbD (other - word * 64) = false :=
      BitVec.getLsbD_false_of_lt_ctz (by omega)
    have absent := (shows (other - word * 64) (by omega)).not.mp (by simp [clear])
    rw [← place] at absent
    by_contra present
    exact absent ⟨by simpa using present, low, by omega⟩

theorem Shows.none {word : Nat} {bits : BitVec 64}
    (shows : Shows words start finish word bits) (zero : bits = 0) {id : Nat}
    (low : start ≤ id) (high : id < finish) (here : id / 64 = word) :
    words.test id = false := by
  have place : id = word * 64 + id % 64 := by omega
  have absent := (shows (id % 64) (by omega)).not.mp (by simp [zero])
  rw [← place] at absent
  by_contra present
  exact absent ⟨by simpa using present, low, high⟩

theorem scanWords_isLeast {capacity remaining word : Nat} {bits : BitVec 64}
    (fits : finish ≤ capacity) (last : word + remaining = (finish - 1) / 64)
    (started : start < finish) (reached : start / 64 ≤ word)
    (here : ∀ i < 64, bits.getLsbD i = true ↔
      words.test (word * 64 + i) = true ∧ start ≤ word * 64 + i)
    (before : ∀ id, start ≤ id → id < word * 64 → words.test id = false) :
    IsLeast words start finish
      (scanWords words capacity finish remaining word bits) := by
  induction remaining generalizing word bits with
  | zero =>
      -- The last word, cut at the end of the range.
      have shows : Shows words start finish word
          (if finish % 64 ≠ 0 then lowBits (finish % 64) bits else bits) := by
        intro i inside
        split
        · rename_i cut
          rw [getLsbD_lowBits bits (Nat.mod_lt _ (by decide)), Bool.and_eq_true,
            here i inside, decide_eq_true_eq, and_assoc]
          have bound : i < finish % 64 ↔ word * 64 + i < finish := by omega
          rw [bound]
        · rw [here i inside]
          have bound : word * 64 + i < finish := by omega
          simp [bound]
      unfold scanWords
      dsimp only
      generalize (if finish % 64 ≠ 0 then lowBits (finish % 64) bits else bits) =
        cut at shows ⊢
      by_cases zero : cut = 0
      · rw [if_neg fun both => both.1 zero]
        intro id low high
        by_cases earlier : id < word * 64
        · exact before id low earlier
        · exact shows.none zero low high (by omega)
      · have least := shows.lowest zero before
        rw [if_pos ⟨zero, Nat.lt_of_lt_of_le least.2.2.1 fits⟩]
        exact least
  | succ remaining ih =>
      have shows : Shows words start finish word bits := by
        intro i inside
        rw [here i inside]
        have bound : word * 64 + i < finish := by omega
        simp [bound]
      unfold scanWords
      by_cases zero : bits = 0
      · rw [if_neg fun both => both.1 zero]
        have passed : ∀ id, start ≤ id → id < (word + 1) * 64 →
            words.test id = false := by
          intro id low high
          by_cases earlier : id < word * 64
          · exact before id low earlier
          · exact shows.none zero low (by omega) (by omega)
        refine ih (by omega) (by omega) ?_ passed
        intro i inside
        have place : words.test ((word + 1) * 64 + i) =
            (words (word + 1)).getLsbD i := by
          rw [test, show ((word + 1) * 64 + i) / 64 = word + 1 by omega,
            show ((word + 1) * 64 + i) % 64 = i by omega]
        rw [place]
        constructor
        · intro set
          exact ⟨set, by omega⟩
        · exact And.left
      · have least := shows.lowest zero before
        rw [if_pos ⟨zero, Nat.lt_of_lt_of_le least.2.2.1 fits⟩]
        exact least

/-- A scan finds the least member of its range. -/
theorem scan_isLeast {capacity : Nat} (fits : finish ≤ capacity) :
    IsLeast words start finish (words.scan capacity start finish) := by
  unfold scan
  split
  · intro id low high
    omega
  · refine scanWords_isLeast fits (by omega) (by omega) (Nat.le_refl _) ?_ ?_
    · intro i inside
      have place : words.test (start / 64 * 64 + i) =
          (words (start / 64)).getLsbD i := by
        rw [test, show (start / 64 * 64 + i) / 64 = start / 64 by omega,
          show (start / 64 * 64 + i) % 64 = i by omega]
      have mask : (BitVec.allOnes 64 <<< (start % 64)).getLsbD i =
          decide (start % 64 ≤ i) := by
        rw [BitVec.getLsbD_shiftLeft, BitVec.getLsbD_allOnes]
        by_cases below : i < start % 64
        · simp [below]
        · simp only [inside, below, decide_true, decide_false, Bool.not_false,
            Bool.true_and]
          simp [show i - start % 64 < 64 by omega,
            show start % 64 ≤ i by omega]
      rw [BitVec.getLsbD_and, Bool.and_eq_true, mask, decide_eq_true_eq, place]
      have bound : start % 64 ≤ i ↔ start ≤ start / 64 * 64 + i := by omega
      rw [bound]
    · intro id low high
      omega

end Bitmap

end WayDisplay.Foundation
