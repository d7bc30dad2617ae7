import Mathlib.Algebra.Order.Ring.Nat
import Mathlib.Order.Interval.Finset.Nat

/-!
A ring of slots shared by one writer and one reader.

Each side owns one position and only reads the other's.  Items are stored and
fetched slot by slot, and a side publishes its position when it is done.  The
invariant is stated against the log of everything that was ever published.
-/

namespace WayDisplay.Foundation.SharedRing

universe u

variable {Item : Type u}

inductive Writer (Item : Type u)
  | idle
  | storing (items : List Item) (stored : Nat)

/-- What the reader is doing: the items fetched out of those it asked for, or
the write position it is about to take as its own. -/
inductive Reader (Item : Type u)
  | idle
  | fetching (count : Nat) (fetched : List Item)
  | dropping (seen : Nat)

structure Ring (Item : Type u) where
  capacity : Nat
  slots : Nat → Item
  read : Nat
  write : Nat
  writer : Writer Item
  reader : Reader Item

/-! ## Operations -/

def empty (capacity : Nat) (item : Item) : Ring Item :=
  ⟨capacity, fun _ => item, 0, 0, .idle, .idle⟩

def Ring.slot (ring : Ring Item) (position : Nat) : Item :=
  ring.slots (position % ring.capacity)

def Ring.setSlot (ring : Ring Item) (position : Nat) (item : Item) :
    Ring Item :=
  { ring with
    slots := fun index =>
      if index = position % ring.capacity then item else ring.slots index }

def Ring.setWriter (ring : Ring Item) (writer : Writer Item) : Ring Item :=
  { ring with writer := writer }

def Ring.setReader (ring : Ring Item) (reader : Reader Item) : Ring Item :=
  { ring with reader := reader }

def Ring.startStore (ring : Ring Item) (items : List Item) : Ring Item :=
  ring.setWriter (.storing items 0)

def Ring.storeItem (ring : Ring Item) (items : List Item) (stored : Nat)
    (item : Item) : Ring Item :=
  (ring.setSlot (ring.write + stored) item).setWriter
    (.storing items (stored + 1))

def Ring.publish (ring : Ring Item) (items : List Item) : Ring Item :=
  { ring with
    write := ring.write + items.length
    writer := .idle }

def Ring.startFetch (ring : Ring Item) (count : Nat) : Ring Item :=
  ring.setReader (.fetching count [])

def Ring.fetchItem (ring : Ring Item) (count : Nat) (fetched : List Item) :
    Ring Item :=
  ring.setReader
    (.fetching count (fetched ++ [ring.slot (ring.read + fetched.length)]))

/-- The reader moves to a position, with what lies before it consumed. -/
def Ring.advance (ring : Ring Item) (position : Nat) : Ring Item :=
  { ring with
    read := position
    reader := .idle }

def Ring.startDrop (ring : Ring Item) : Ring Item :=
  ring.setReader (.dropping ring.write)

/-! ## The invariant -/

def WriterHolds (ring : Ring Item) : Writer Item → Prop
  | .idle => True
  | .storing items stored =>
      stored ≤ items.length ∧
        ring.write + items.length ≤ ring.read + ring.capacity ∧
        ∀ index < stored, items[index]? = some (ring.slot (ring.write + index))

def ReaderHolds (ring : Ring Item) (log : List Item) : Reader Item → Prop
  | .idle => True
  | .fetching count fetched =>
      fetched.length ≤ count ∧ ring.read + count ≤ ring.write ∧
        fetched = (log.drop ring.read).take fetched.length
  | .dropping seen => ring.read ≤ seen ∧ seen ≤ ring.write

structure Holds (ring : Ring Item) (log : List Item) : Prop where
  length : log.length = ring.write
  ordered : ring.read ≤ ring.write
  bounded : ring.write ≤ ring.read + ring.capacity
  content : ∀ position, ring.read ≤ position → position < ring.write →
    log[position]? = some (ring.slot position)
  writer : WriterHolds ring ring.writer
  reader : ReaderHolds ring log ring.reader

/-- Positions less than one revolution apart are in different slots. -/
theorem mod_ne_mod {capacity first second : Nat} (before : first < second)
    (within : second < first + capacity) :
    first % capacity ≠ second % capacity := by
  intro same
  have inside : first ∈ Finset.Ico first (first + capacity) :=
    Finset.mem_Ico.mpr ⟨Nat.le_refl _, by omega⟩
  have later : second ∈ Finset.Ico first (first + capacity) :=
    Finset.mem_Ico.mpr ⟨Nat.le_of_lt before, within⟩
  have equal := Nat.mod_injOn_Ico first capacity inside later same
  exact Nat.ne_of_lt before equal

@[simp]
theorem Ring.slot_setSlot_self (ring : Ring Item) (position : Nat)
    (item : Item) : (ring.setSlot position item).slot position = item :=
  if_pos rfl

variable {ring : Ring Item}

theorem Ring.slot_setSlot_of_ne {position other : Nat} (item : Item)
    (apart : other % ring.capacity ≠ position % ring.capacity) :
    (ring.setSlot position item).slot other = ring.slot other :=
  if_neg apart

theorem holds_empty (capacity : Nat) (item : Item) :
    Holds (empty capacity item) [] where
  length := rfl
  ordered := Nat.le_refl _
  bounded := Nat.zero_le _
  content _ _ before := absurd before (Nat.not_lt_zero _)
  writer := trivial
  reader := trivial

variable {log items : List Item}

theorem Holds.startStore (holds : Holds ring log)
    (room : ring.write + items.length ≤ ring.read + ring.capacity) :
    Holds (ring.startStore items) log :=
  { holds with
    writer := ⟨Nat.zero_le _, room, fun _ none => absurd none (Nat.not_lt_zero _)⟩ }

/-- The slot that is stored holds nothing the reader can see. -/
theorem Holds.slot_apart {stored position : Nat} (holds : Holds ring log)
    (storing : ring.writer = .storing items stored)
    (more : stored < items.length) (seen : ring.read ≤ position)
    (published : position < ring.write) :
    position % ring.capacity ≠ (ring.write + stored) % ring.capacity := by
  have writer := holds.writer
  rw [storing] at writer
  have room := writer.2.1
  exact mod_ne_mod (by omega) (by omega)

theorem Holds.storeItem {stored : Nat} {item : Item} (holds : Holds ring log)
    (storing : ring.writer = .storing items stored)
    (next : items[stored]? = some item) :
    Holds (ring.storeItem items stored item) log := by
  have more : stored < items.length := (List.getElem?_eq_some_iff.mp next).1
  have writer := holds.writer
  rw [storing] at writer
  obtain ⟨-, room, placed⟩ := writer
  exact {
    length := holds.length
    ordered := holds.ordered
    bounded := holds.bounded
    content := by
      intro position seen published
      have apart := holds.slot_apart storing more seen published
      rw [holds.content position seen published]
      exact congrArg some (Ring.slot_setSlot_of_ne item apart).symm
    writer := by
      refine ⟨more, room, fun index before => ?_⟩
      rcases Nat.lt_or_eq_of_le (Nat.lt_succ_iff.mp before) with less | rfl
      · have apart : (ring.write + index) % ring.capacity ≠
            (ring.write + stored) % ring.capacity :=
          mod_ne_mod (by omega) (by have := holds.ordered; omega)
        rw [placed index less]
        exact congrArg some (Ring.slot_setSlot_of_ne item apart).symm
      · rw [next]
        exact congrArg some (Ring.slot_setSlot_self ring _ item).symm
    reader := holds.reader }

/-- The whole call becomes part of the log at once. -/
theorem Holds.publish (holds : Holds ring log)
    (storing : ring.writer = .storing items items.length) :
    Holds (ring.publish items) (log ++ items) := by
  have writer := holds.writer
  rw [storing] at writer
  obtain ⟨-, room, placed⟩ := writer
  exact {
    length := by rw [List.length_append, holds.length]; rfl
    ordered := Nat.le_trans holds.ordered (Nat.le_add_right _ _)
    bounded := room
    content := by
      intro position seen published
      rcases Nat.lt_or_ge position ring.write with old | new
      · rw [List.getElem?_append_left (by rw [holds.length]; exact old)]
        exact holds.content position seen old
      · have inside : position - ring.write < items.length := by
          have bound : position < ring.write + items.length := published
          omega
        rw [List.getElem?_append_right (by rw [holds.length]; exact new),
          holds.length, placed _ inside, Nat.add_sub_cancel' new]
        rfl
    writer := trivial
    reader := by
      have reader := holds.reader
      show ReaderHolds _ _ ring.reader
      cases phase : ring.reader with
      | idle => trivial
      | fetching count fetched =>
          rw [phase] at reader
          obtain ⟨fewer, within, equal⟩ := reader
          refine ⟨fewer, Nat.le_trans within (Nat.le_add_right _ _), ?_⟩
          have long := holds.length
          show fetched = List.take _ (List.drop ring.read (log ++ items))
          rw [List.drop_append_of_le_length (by omega),
            List.take_append_of_le_length (by rw [List.length_drop]; omega)]
          exact equal
      | dropping seen =>
          rw [phase] at reader
          exact ⟨reader.1, Nat.le_trans reader.2 (Nat.le_add_right _ _)⟩ }

variable {log : List Item}

theorem Holds.setReader (holds : Holds ring log) {reader : Reader Item}
    (valid : ReaderHolds ring log reader) :
    Holds (ring.setReader reader) log :=
  { holds with reader := by cases reader <;> exact valid }

theorem Holds.startFetch {count : Nat} (holds : Holds ring log)
    (enough : ring.read + count ≤ ring.write) :
    Holds (ring.startFetch count) log :=
  holds.setReader ⟨Nat.zero_le _, enough, rfl⟩

theorem Holds.fetchItem {log fetched : List Item} {count : Nat}
    (holds : Holds ring log) (fetching : ring.reader = .fetching count fetched)
    (more : fetched.length < count) :
    Holds (ring.fetchItem count fetched) log := by
  have reader := holds.reader
  rw [fetching] at reader
  obtain ⟨-, within, equal⟩ := reader
  refine holds.setReader ⟨?_, within, ?_⟩
  · rw [List.length_append, List.length_singleton]
    exact more
  · have next := holds.content (ring.read + fetched.length)
      (Nat.le_add_right _ _) (by omega)
    rw [List.length_append, List.length_singleton, List.take_add_one,
      ← equal, List.getElem?_drop, next]
    rfl

theorem Holds.startDrop (holds : Holds ring log) :
    Holds ring.startDrop log :=
  holds.setReader ⟨holds.ordered, Nat.le_refl _⟩

theorem Holds.advance {position : Nat} (holds : Holds ring log)
    (after : ring.read ≤ position) (within : position ≤ ring.write) :
    Holds (ring.advance position) log where
  length := holds.length
  ordered := within
  bounded := by
    have bounded := holds.bounded
    show ring.write ≤ position + ring.capacity
    omega
  content other seen published :=
    holds.content other (Nat.le_trans after seen) published
  writer := by
    have writer := holds.writer
    show WriterHolds _ ring.writer
    cases phase : ring.writer with
    | idle => trivial
    | storing items stored =>
        rw [phase] at writer
        obtain ⟨fewer, room, placed⟩ := writer
        refine ⟨fewer, ?_, placed⟩
        show ring.write + items.length ≤ position + ring.capacity
        omega
  reader := trivial

/-- What a finished fetch holds. -/
theorem Holds.fetched_eq {log fetched : List Item} {count : Nat}
    (holds : Holds ring log) (fetching : ring.reader = .fetching count fetched) :
    fetched = (log.drop ring.read).take fetched.length ∧
      fetched.length ≤ count ∧ ring.read + count ≤ ring.write := by
  have reader := holds.reader
  rw [fetching] at reader
  exact ⟨reader.2.2, reader.1, reader.2.1⟩

end WayDisplay.Foundation.SharedRing
