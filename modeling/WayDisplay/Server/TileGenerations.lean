import Mathlib.Algebra.Order.Ring.Nat

/-!
Generations that the server gives to tiles, and the identity they hold under.

A result covers several tiles and is sent under one generation, which is newer
than that of every tile it covers (`wd_stream_next_generation_for_result_locked`).
-/

namespace WayDisplay.Server

/-- What a delivery must still agree with when its packets have completed. -/
structure EpochIdentity where
  connectionEpoch : Nat
  configEpoch : Nat
  contentEpoch : Nat
  framebufferGeneration : Nat
  deriving DecidableEq, Repr

section NextGeneration

variable (totalTiles : Nat) (generation : Nat → Nat)

def raiseGeneration (next coveredId : Nat) : Nat :=
  if coveredId < totalTiles ∧ generation coveredId ≥ next then
    generation coveredId + 1
  else next

def nextGeneration (ids : List Nat) : Nat :=
  ids.foldl (raiseGeneration totalTiles generation) 1

theorem le_foldl_raiseGeneration (ids : List Nat) (next : Nat) :
    next ≤ ids.foldl (raiseGeneration totalTiles generation) next := by
  induction ids generalizing next with
  | nil => exact Nat.le_refl _
  | cons first rest ih =>
      refine Nat.le_trans ?_ (ih _)
      unfold raiseGeneration
      split_ifs <;> omega

variable {totalTiles}

theorem generation_lt_foldl {ids : List Nat} {tileId : Nat}
    (member : tileId ∈ ids) (inside : tileId < totalTiles) (next : Nat) :
    generation tileId <
      ids.foldl (raiseGeneration totalTiles generation) next := by
  induction ids generalizing next with
  | nil => exact absurd member List.not_mem_nil
  | cons first rest ih =>
      rcases List.mem_cons.mp member with rfl | member
      · refine Nat.lt_of_lt_of_le ?_ (le_foldl_raiseGeneration _ _ rest _)
        unfold raiseGeneration
        split_ifs <;> omega
      · exact ih member _

theorem generation_lt_nextGeneration {ids : List Nat} {tileId : Nat}
    (member : tileId ∈ ids) (inside : tileId < totalTiles) :
    generation tileId < nextGeneration totalTiles generation ids :=
  generation_lt_foldl generation member inside 1

end NextGeneration

end WayDisplay.Server
