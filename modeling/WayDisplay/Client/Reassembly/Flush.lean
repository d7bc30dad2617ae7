import WayDisplay.Client.Reassembly.System

/-!
What a flush of the repair queue does to each tile that it looks at.

A popped tile is passed over, dropped, put back, or asked for; it is asked for
exactly when it is `Due`.  A property of the tables and the entries that these
four keep is kept by the whole flush.
-/

namespace WayDisplay.Client.RepairTracking

open Common Foundation

variable (received : Generations) (totalTiles : Nat) (input : FlushInput)

/-- The queued generation of a tile is missing, and neither a request nor a
partial tile may still bring it. -/
def Due (repairs : RepairTracking) (tileId : Nat) : Prop :=
  tileId < totalTiles ∧ repairs.retxQueuedGeneration tileId ≠ 0 ∧
    received tileId < repairs.retxQueuedGeneration tileId ∧
    heldOff repairs.retxInflightGeneration repairs.retxInflightSinceNs tileId
      (repairs.retxQueuedGeneration tileId) input.now
      input.inflightGraceNs = false ∧
    heldOff repairs.retxLastRequestedGeneration repairs.retxLastRequestNs tileId
      (repairs.retxQueuedGeneration tileId) input.now
      input.requestIntervalNs = false

instance (repairs : RepairTracking) (tileId : Nat) :
    Decidable (repairs.Due received totalTiles input tileId) :=
  inferInstanceAs (Decidable (_ ∧ _))

def dequeued (repairs : RepairTracking) (tileId : Nat) : RepairTracking :=
  { repairs with
    retxQueuedGeneration :=
      Function.update repairs.retxQueuedGeneration tileId 0 }

def requeued (repairs : RepairTracking) (tileId : Nat) : RepairTracking :=
  { repairs with retxQueue := repairs.retxQueue ++ [tileId] }

def requested (now : Nat) (repairs : RepairTracking) (tileId : Nat) :
    RepairTracking :=
  { repairs.dequeued tileId with
    retxLastRequestedGeneration :=
      Function.update repairs.retxLastRequestedGeneration tileId
        (repairs.retxQueuedGeneration tileId)
    retxLastRequestNs :=
      Function.update repairs.retxLastRequestNs tileId now }

/-- What `flushTile` can come to. -/
inductive Flushed (repairs : RepairTracking) (tileId : Nat) :
    RepairTracking × Option (Nat × Nat) → Prop where
  | passed (outside : totalTiles ≤ tileId) : Flushed repairs tileId
      (repairs, none)
  | dropped (answered : repairs.retxQueuedGeneration tileId = 0 ∨
      repairs.retxQueuedGeneration tileId ≤ received tileId) :
      Flushed repairs tileId (repairs.dequeued tileId, none)
  | putBack (waiting : repairs.retxQueuedGeneration tileId ≠ 0)
      (waits : ¬repairs.Due received totalTiles input tileId) :
      Flushed repairs tileId (repairs.requeued tileId, none)
  | asked (due : repairs.Due received totalTiles input tileId) :
      Flushed repairs tileId (repairs.requested input.now tileId,
        some (tileId, repairs.retxQueuedGeneration tileId))

theorem flushTile_flushed (repairs : RepairTracking) (tileId : Nat) :
    Flushed received totalTiles input repairs tileId
      (flushTile received totalTiles input repairs tileId) := by
  have restored : Function.update
      (Function.update repairs.retxQueuedGeneration tileId 0) tileId
        (repairs.retxQueuedGeneration tileId) =
          repairs.retxQueuedGeneration := by
    rw [Function.update_idem, Function.update_eq_self]
  unfold flushTile
  dsimp only
  rw [restored]
  split_ifs with outside answered inflight lately
  · exact .passed outside
  · exact .dropped answered
  · exact .putBack (not_or.mp answered).1 fun due => by
      rw [due.2.2.2.1] at inflight
      cases inflight
  · exact .putBack (not_or.mp answered).1 fun due => by
      rw [due.2.2.2.2] at lately
      cases lately
  · obtain ⟨waiting, missing⟩ := not_or.mp answered
    exact .asked ⟨Nat.not_le.mp outside, waiting, Nat.not_le.mp missing,
      Bool.not_eq_true _ ▸ inflight, Bool.not_eq_true _ ▸ lately⟩

theorem flush_invariant {P : RepairTracking → List (Nat × Nat) → Prop}
    (tileStep : ∀ repairs entries tileId rest outcome,
      repairs.retxQueue = tileId :: rest →
      Flushed received totalTiles input { repairs with retxQueue := rest }
        tileId outcome →
      P repairs entries → P outcome.1 (entries ++ outcome.2.toList))
    (pending : Nat) {repairs : RepairTracking} {entries : List (Nat × Nat)}
    (initially : P repairs entries) :
    P (flush received totalTiles input pending repairs entries).1
      (flush received totalTiles input pending repairs entries).2 := by
  induction pending generalizing repairs entries with
  | zero => exact initially
  | succ pending ih =>
      unfold flush
      split
      · exact initially
      · split
        · exact initially
        · rename_i first
          exact ih (tileStep _ _ _ _ _ first
            (flushTile_flushed received totalTiles input _ _) initially)

end WayDisplay.Client.RepairTracking
