import Mathlib.Algebra.Order.Ring.Nat
import Mathlib.Data.List.Basic
import Mathlib.Order.Nat

/-!
Two parties that own a resource in turn, and label what they send.

The owner changes only together with the epoch.  Each party labels its messages
with an epoch.  If a party sends only while it owns the resource, no epoch labels
messages of both; a party that takes over may send its first message in advance,
labelled with the epoch that its ownership is about to open.
-/

namespace WayDisplay.Foundation

structure EpochLedger where
  secondOwns : Bool
  epoch : Nat
  firstLabels : List Nat
  secondLabels : List Nat
  deriving DecidableEq, Repr

namespace EpochLedger

inductive Move : EpochLedger → EpochLedger → Prop
  | advance {ledger : EpochLedger} {owns : Bool} {epoch : Nat}
      (later : ledger.epoch ≤ epoch)
      (change : owns ≠ ledger.secondOwns → ledger.epoch < epoch) :
      Move ledger { ledger with secondOwns := owns, epoch := epoch }
  | sendFirst {ledger : EpochLedger} {labels : List Nat}
      (current : ∀ label ∈ labels, label = ledger.epoch) :
      Move ledger { ledger with firstLabels := labels ++ ledger.firstLabels }
  | sendSecond {ledger : EpochLedger} (owns : ledger.secondOwns = true) :
      Move ledger
        { ledger with secondLabels := ledger.epoch :: ledger.secondLabels }
  | handOver {ledger : EpochLedger} (owns : ledger.secondOwns = false) :
      Move ledger
        { ledger with
          secondOwns := true
          epoch := ledger.epoch + 1
          secondLabels := (ledger.epoch + 1) :: ledger.secondLabels }

structure Ordered (ledger : EpochLedger) : Prop where
  second_le : ∀ label ∈ ledger.secondLabels, label ≤ ledger.epoch
  second_owner : ledger.secondOwns = false →
    ledger.epoch ∉ ledger.secondLabels

/-- An advance to an epoch that is known already changes nothing. -/
theorem kept_of_le {ledger : EpochLedger} {owns : Bool} {epoch : Nat}
    (later : ledger.epoch ≤ epoch)
    (change : owns ≠ ledger.secondOwns → ledger.epoch < epoch)
    (bound : epoch ≤ ledger.epoch) :
    owns = ledger.secondOwns ∧ epoch = ledger.epoch :=
  ⟨by_contra fun changed => absurd (change changed) (Nat.not_lt.mpr bound),
    le_antisymm bound later⟩

theorem Ordered.advance {ledger : EpochLedger} (ordered : ledger.Ordered)
    {owns : Bool} {epoch : Nat} (later : ledger.epoch ≤ epoch)
    (change : owns ≠ ledger.secondOwns → ledger.epoch < epoch) :
    Ordered { ledger with secondOwns := owns, epoch := epoch } := by
  refine ⟨fun label member => (ordered.second_le label member).trans later, ?_⟩
  intro firstOwns member
  obtain ⟨kept, same⟩ := kept_of_le later change (ordered.second_le epoch member)
  exact ordered.second_owner (kept ▸ firstOwns) (same ▸ member)

theorem Move.ordered {ledger ledger' : EpochLedger} (move : Move ledger ledger')
    (ordered : ledger.Ordered) : ledger'.Ordered := by
  cases move with
  | advance later change => exact ordered.advance later change
  | sendFirst => exact ⟨ordered.second_le, ordered.second_owner⟩
  | sendSecond owns =>
      refine ⟨?_, fun firstOwns => absurd (owns.symm.trans firstOwns) (by simp)⟩
      intro label member
      rcases List.mem_cons.mp member with rfl | member
      · exact le_rfl
      · exact ordered.second_le label member
  | handOver =>
      refine ⟨?_, fun firstOwns => absurd firstOwns (by simp)⟩
      intro label member
      rcases List.mem_cons.mp member with rfl | member
      · exact le_rfl
      · exact (ordered.second_le label member).trans (Nat.le_succ _)

structure Separated (ledger : EpochLedger) : Prop where
  first_le : ∀ label ∈ ledger.firstLabels, label ≤ ledger.epoch
  first_owner : ledger.secondOwns = true → ledger.epoch ∉ ledger.firstLabels
  disjoint : ∀ label ∈ ledger.firstLabels, label ∉ ledger.secondLabels

theorem Separated.advance {ledger : EpochLedger} (separated : ledger.Separated)
    {owns : Bool} {epoch : Nat} (later : ledger.epoch ≤ epoch)
    (change : owns ≠ ledger.secondOwns → ledger.epoch < epoch) :
    Separated { ledger with secondOwns := owns, epoch := epoch } := by
  refine ⟨fun label member => (separated.first_le label member).trans later, ?_,
    separated.disjoint⟩
  intro secondOwns member
  obtain ⟨kept, same⟩ := kept_of_le later change (separated.first_le epoch member)
  exact separated.first_owner (kept ▸ secondOwns) (same ▸ member)

/-- A move, as it is seen beside other labels of the first party. -/
theorem Move.withFirst {ledger ledger' : EpochLedger}
    (move : Move ledger ledger') (labels : List Nat) :
    Move { ledger with firstLabels := labels }
      { ledger' with firstLabels := labels } := by
  cases move with
  | advance later change => exact .advance later change
  | sendFirst => exact .advance le_rfl (absurd rfl)
  | sendSecond owns => exact .sendSecond owns
  | handOver owns => exact .handOver owns

/-- Separation is kept when the first party sends as the owner only. -/
theorem Move.separated {ledger ledger' : EpochLedger}
    (move : Move ledger ledger') (ordered : ledger.Ordered)
    (separated : ledger.Separated)
    (sender : ledger'.firstLabels ≠ ledger.firstLabels →
      ledger.secondOwns = false) : ledger'.Separated := by
  cases move with
  | advance later change => exact separated.advance later change
  | @sendFirst labels current =>
      cases labels with
      | nil => exact separated
      | cons first rest =>
          have longer : first :: rest ++ ledger.firstLabels ≠
              ledger.firstLabels := by
            intro same
            have := congrArg List.length same
            simp only [List.length_append, List.length_cons] at this
            omega
          have owner := sender longer
          refine ⟨?_, fun owns => absurd (owns.symm.trans owner) (by simp), ?_⟩
          · intro label member
            rcases List.mem_append.mp member with member | member
            · exact (current label member).le
            · exact separated.first_le label member
          · intro label member
            rcases List.mem_append.mp member with member | member
            · rw [current label member]
              exact ordered.second_owner owner
            · exact separated.disjoint label member
  | sendSecond owns =>
      refine ⟨separated.first_le, separated.first_owner, ?_⟩
      intro label member
      rw [List.mem_cons, not_or]
      refine ⟨?_, separated.disjoint label member⟩
      rintro rfl
      exact separated.first_owner owns member
  | handOver =>
      have fresh : ∀ label ∈ ledger.firstLabels, label ≠ ledger.epoch + 1 :=
        fun label member => (Nat.lt_succ_of_le
          (separated.first_le label member)).ne
      refine ⟨fun label member => (separated.first_le label member).trans
        (Nat.le_succ _), fun _ member => fresh _ member rfl, ?_⟩
      intro label member
      rw [List.mem_cons, not_or]
      exact ⟨fresh label member, separated.disjoint label member⟩

end EpochLedger

end WayDisplay.Foundation
