import Mathlib.Algebra.Order.Ring.Nat
import Mathlib.Data.List.Basic
import Mathlib.Order.Nat

/-!
Messages that are numbered per object and epoch.

An object covers cells, and each cell remembers a version.  A message about an
object is numbered above the versions of all the cells it covers.  If the cells
then take the message's number, no later message of the epoch about the object
can have it, so messages with equal labels have equal contents.
-/

namespace WayDisplay.Foundation

structure VersionEntry (Key Content : Type) where
  epoch : Nat
  key : Key
  version : Nat
  content : Content

structure VersionLog (Key Cell Content : Type) where
  epoch : Nat
  cover : Key → Option (List Cell)
  version : Cell → Nat
  entries : List (VersionEntry Key Content)

namespace VersionLog

variable {Key Cell Content : Type}

/-- Messages of one number about one object, and the cells' new versions. -/
structure Publishes (log log' : VersionLog Key Cell Content) (key : Key)
    (cells : List Cell) (version : Nat) (content : Content) : Prop where
  covered : log.cover key = some cells
  inhabited : cells ≠ []
  fresh : ∀ cell ∈ cells, log.version cell < version
  recorded : ∀ cell ∈ cells, version ≤ log'.version cell
  entries : ∃ new, log'.entries = new ++ log.entries ∧
    ∀ entry ∈ new, entry = ⟨log.epoch, key, version, content⟩

inductive Move (log log' : VersionLog Key Cell Content) : Prop
  | renew (later : log.epoch < log'.epoch)
      (entries : log'.entries = log.entries)
  | keep (epoch : log'.epoch = log.epoch) (cover : log'.cover = log.cover)
      (grows : ∀ cell, log.version cell ≤ log'.version cell)
      (entries : log'.entries = log.entries)
  | publish {key : Key} {cells : List Cell} {version : Nat} {content : Content}
      (epoch : log'.epoch = log.epoch) (cover : log'.cover = log.cover)
      (grows : ∀ cell, log.version cell ≤ log'.version cell)
      (publishes : Publishes log log' key cells version content)

structure Sound (log : VersionLog Key Cell Content) : Prop where
  bounded : ∀ entry ∈ log.entries, entry.epoch ≤ log.epoch
  recorded : ∀ entry ∈ log.entries, entry.epoch = log.epoch →
    ∃ cells, log.cover entry.key = some cells ∧ cells ≠ [] ∧
      ∀ cell ∈ cells, entry.version ≤ log.version cell
  faithful : ∀ entry ∈ log.entries, ∀ entry' ∈ log.entries,
    entry.epoch = entry'.epoch → entry.key = entry'.key →
      entry.version = entry'.version → entry.content = entry'.content

variable {log log' : VersionLog Key Cell Content}

theorem Sound.grow (sound : log.Sound) (epoch : log'.epoch = log.epoch)
    (cover : log'.cover = log.cover)
    (grows : ∀ cell, log.version cell ≤ log'.version cell) :
    ∀ entry ∈ log.entries, entry.epoch = log'.epoch →
      ∃ cells, log'.cover entry.key = some cells ∧ cells ≠ [] ∧
        ∀ cell ∈ cells, entry.version ≤ log'.version cell := by
  intro entry member current
  obtain ⟨cells, covered, inhabited, versions⟩ :=
    sound.recorded entry member (current.trans epoch)
  exact ⟨cells, cover ▸ covered, inhabited, fun cell inside =>
    (versions cell inside).trans (grows cell)⟩

/-- What is published now has no namesake among the earlier messages. -/
theorem Publishes.unlike {key : Key} {cells : List Cell} {version : Nat}
    {content : Content}
    (publishes : Publishes log log' key cells version content)
    (sound : log.Sound) {entry : VersionEntry Key Content}
    (member : entry ∈ log.entries) (epoch : entry.epoch = log.epoch)
    (same : entry.key = key) : entry.version ≠ version := by
  obtain ⟨cells', covered', -, versions⟩ := sound.recorded entry member epoch
  rw [same, publishes.covered, Option.some.injEq] at covered'
  obtain ⟨cell, inside⟩ := List.exists_mem_of_ne_nil cells publishes.inhabited
  have older := versions cell (covered' ▸ inside)
  exact (older.trans_lt (publishes.fresh cell inside)).ne

theorem Move.sound (move : Move log log') (sound : log.Sound) : log'.Sound := by
  cases move with
  | renew later entries =>
      refine ⟨fun entry member => ?_, fun entry member current => ?_,
        entries ▸ sound.faithful⟩
      · exact (sound.bounded entry (entries ▸ member)).trans later.le
      · have bound := sound.bounded entry (entries ▸ member)
        exact absurd (current ▸ bound) (Nat.not_le.mpr later)
  | keep epoch cover grows entries =>
      exact ⟨entries ▸ epoch ▸ sound.bounded,
        entries ▸ sound.grow epoch cover grows, entries ▸ sound.faithful⟩
  | @publish key cells version content epoch cover grows publishes =>
      obtain ⟨new, entries, labelled⟩ := publishes.entries
      refine ⟨fun entry member => ?_, fun entry member current => ?_,
        fun entry member entry' member' sameEpoch sameKey sameVersion => ?_⟩
      · rw [entries, List.mem_append] at member
        rcases member with member | member
        · rw [labelled entry member, epoch]
        · exact epoch ▸ sound.bounded entry member
      · rw [entries, List.mem_append] at member
        rcases member with member | member
        · rw [labelled entry member]
          exact ⟨cells, cover ▸ publishes.covered, publishes.inhabited,
            publishes.recorded⟩
        · exact sound.grow epoch cover grows entry member current
      · rw [entries, List.mem_append] at member member'
        rcases member with member | member <;>
          rcases member' with member' | member'
        · rw [labelled entry member, labelled entry' member']
        · rw [labelled entry member] at sameEpoch sameKey sameVersion
          exact absurd sameVersion.symm (publishes.unlike sound member'
            sameEpoch.symm sameKey.symm)
        · rw [labelled entry' member'] at sameEpoch sameKey sameVersion
          exact absurd sameVersion (publishes.unlike sound member sameEpoch
            sameKey)
        · exact sound.faithful entry member entry' member' sameEpoch sameKey
            sameVersion

end VersionLog

end WayDisplay.Foundation
