import Mathlib.Data.List.Basic
import Mathlib.Logic.Function.Basic
import WayDisplay.Common.Tile

/-!
The planning helpers of the render loop (`render_planning.cpp`,
`tile_render_policy.hpp`): which generations a pass claims, commits or puts
back, and what part of the framebuffer it uploads.
-/

namespace WayDisplay.Client

open Common

/-! ## Generations -/

abbrev Generations := Nat → Nat

structure ClientTileGenerationUpdate where
  tileId : Nat
  generation : Nat
  deriving DecidableEq, Repr

/-- Claims one tile: an update if it is new, and nothing left pending. -/
def claimTile (presented : Generations) (total : Nat)
    (claim : Generations × List ClientTileGenerationUpdate) (tileId : Nat) :
    Generations × List ClientTileGenerationUpdate :=
  if tileId ≥ total then claim
  else
    (if claim.1 tileId ≠ 0 then Function.update claim.1 tileId 0 else claim.1,
      if claim.1 tileId > presented tileId then
        claim.2 ++ [⟨tileId, claim.1 tileId⟩]
      else claim.2)

/-- The pending generations after the claim, and the updates claimed.  The
updates are a new list: what an earlier claim left there is dropped. -/
def claimPendingTileGenerations (pending presented : Generations) (total : Nat)
    (tileIds : List Nat) : Generations × List ClientTileGenerationUpdate :=
  tileIds.foldl (claimTile presented total) (pending, [])

def claimAllPendingTileGenerations (pending presented : Generations)
    (total : Nat) : Generations × List ClientTileGenerationUpdate :=
  claimPendingTileGenerations pending presented total (List.range total)

def raiseGeneration (total : Nat) (generations : Generations)
    (update : ClientTileGenerationUpdate) : Generations :=
  if update.tileId < total ∧
      generations update.tileId < update.generation then
    Function.update generations update.tileId update.generation
  else generations

def requeueTileGenerationUpdates (total : Nat) (pending : Generations)
    (updates : List ClientTileGenerationUpdate) : Generations :=
  updates.foldl (raiseGeneration total) pending

def commitTileGenerationUpdates (total : Nat) (presented : Generations)
    (updates : List ClientTileGenerationUpdate) : Generations :=
  updates.foldl (raiseGeneration total) presented

/-! ## What claims and commits do -/

theorem claimTile_of_lt {presented pending : Generations}
    {total tileId : Nat} {updates : List ClientTileGenerationUpdate}
    (inside : tileId < total) :
    claimTile presented total (pending, updates) tileId =
      (Function.update pending tileId 0,
        if presented tileId < pending tileId then
          updates ++ [⟨tileId, pending tileId⟩]
        else updates) := by
  rw [claimTile, if_neg (Nat.not_le.mpr inside)]
  by_cases held : pending tileId = 0
  · rw [if_neg (not_not.mpr held), ← held, Function.update_eq_self]
  · rw [if_pos held]

/-- A claim leaves nothing pending for its tiles; every generation it takes
that was not presented becomes an update. -/
theorem foldl_claimTile {presented : Generations} {total : Nat}
    (tileIds : List Nat) (pending : Generations)
    (updates : List ClientTileGenerationUpdate) :
    (∀ tile, (tileIds.foldl (claimTile presented total)
        (pending, updates)).1 tile =
      if tile ∈ tileIds ∧ tile < total then 0 else pending tile) ∧
    ∀ update, update ∈ (tileIds.foldl (claimTile presented total)
        (pending, updates)).2 ↔
      update ∈ updates ∨ update.tileId ∈ tileIds ∧ update.tileId < total ∧
        update.generation = pending update.tileId ∧
        presented update.tileId < update.generation := by
  induction tileIds generalizing pending updates with
  | nil => simp
  | cons tileId rest ih =>
      by_cases inside : tileId < total
      · rw [List.foldl_cons, claimTile_of_lt inside]
        obtain ⟨left, claimed⟩ := ih (Function.update pending tileId 0)
          (if presented tileId < pending tileId then
            updates ++ [⟨tileId, pending tileId⟩] else updates)
        refine ⟨fun tile => ?_, fun update => ?_⟩
        · rw [left]
          by_cases here : tile = tileId
          · subst here
            simp [inside]
          · simp [here]
        · rw [claimed]
          obtain ⟨tile, generation⟩ := update
          by_cases here : tile = tileId
          · subst here
            by_cases fresh : presented tile < pending tile
            · simp only [if_pos fresh, Function.update_self, List.mem_append,
                ClientTileGenerationUpdate.mk.injEq, List.mem_cons, true_and,
                true_or, inside]
              grind
            · simp only [if_neg fresh, Function.update_self, List.mem_cons,
                true_or, true_and, inside]
              grind
          · simp only [Function.update_of_ne here, List.mem_cons, here,
              false_or]
            refine or_congr_left ?_
            split_ifs
            · simp [here]
            · rfl
      · rw [List.foldl_cons, claimTile, if_pos (Nat.not_lt.mp inside)]
        obtain ⟨left, claimed⟩ := ih pending updates
        refine ⟨fun tile => ?_, fun update => ?_⟩
        · rw [left]
          grind
        · rw [claimed, List.mem_cons]
          grind

theorem mem_claim {pending presented : Generations} {total : Nat}
    {tileIds : List Nat} {update : ClientTileGenerationUpdate} :
    update ∈ (claimPendingTileGenerations pending presented total tileIds).2 ↔
      update.tileId ∈ tileIds ∧ update.tileId < total ∧
        update.generation = pending update.tileId ∧
        presented update.tileId < update.generation := by
  rw [claimPendingTileGenerations, (foldl_claimTile tileIds pending []).2]
  simp

/-- Raising leaves at each tile the old generation or that of an update, and
nothing below either. -/
theorem foldl_raiseGeneration {total : Nat}
    (updates : List ClientTileGenerationUpdate) (generations : Generations) :
    (∀ tile, generations tile ≤
      updates.foldl (raiseGeneration total) generations tile) ∧
    (∀ update ∈ updates, update.tileId < total → update.generation ≤
      updates.foldl (raiseGeneration total) generations update.tileId) ∧
    ∀ tile, updates.foldl (raiseGeneration total) generations tile =
        generations tile ∨
      ⟨tile, updates.foldl (raiseGeneration total) generations tile⟩ ∈
        updates := by
  induction updates generalizing generations with
  | nil => simp
  | cons update rest ih =>
      have grown : ∀ tile, generations tile ≤
          raiseGeneration total generations update tile := by
        intro tile
        unfold raiseGeneration
        split
        next raised =>
          by_cases here : tile = update.tileId
          · subst here
            rw [Function.update_self]
            exact Nat.le_of_lt raised.2
          · rw [Function.update_of_ne here]
        next => exact Nat.le_refl _
      obtain ⟨later, reached, origin⟩ :=
        ih (raiseGeneration total generations update)
      rw [List.foldl_cons]
      refine ⟨fun tile => Nat.le_trans (grown tile) (later tile), ?_, ?_⟩
      · intro other member inside
        rcases List.mem_cons.mp member with rfl | among
        · refine Nat.le_trans ?_ (later other.tileId)
          unfold raiseGeneration
          split
          next => rw [Function.update_self]
          next low => omega
        · exact reached other among inside
      · intro tile
        rcases origin tile with same | among
        · rw [same]
          unfold raiseGeneration
          split
          next =>
            by_cases here : tile = update.tileId
            · subst here
              rw [Function.update_self]
              exact Or.inr List.mem_cons_self
            · exact Or.inl (Function.update_of_ne here _ _)
          next => exact Or.inl rfl
        · exact Or.inr (List.mem_cons_of_mem _ among)

/-! ## The remote frame -/

/-- Whether a wake still stands for remote work once both paths have been
looked at (`client_remote_tile_present_decide`). -/
def remoteFrameStillDirty (remoteFrameDirty directTileUpdated
    textureNeedsFullUpload staleVideoNeedsTileRestore : Bool)
    (sourceDirtyRectCount : Nat) : Bool :=
  remoteFrameDirty && (directTileUpdated || textureNeedsFullUpload ||
    staleVideoNeedsTileRestore || sourceDirtyRectCount != 0)

def clientTileFrameComplete (received : Generations) (total : Nat) : Bool :=
  total != 0 && (List.range total).all fun tile => received tile != 0

/-! ## Uploads of the framebuffer -/

inductive DirtyTextureUploadMode where
  | rects
  | bounds
  | full
  deriving DecidableEq, Repr

def boundingDirtyRect : List Rect → Rect
  | [] => ⟨0, 0, 0, 0⟩
  | first :: rest =>
      let minX := rest.foldl (fun low rect => min low rect.x) first.x
      let minY := rest.foldl (fun low rect => min low rect.y) first.y
      let maxX := rest.foldl (fun high rect => max high (rect.x + rect.width))
        (first.x + first.width)
      let maxY := rest.foldl (fun high rect => max high (rect.y + rect.height))
        (first.y + first.height)
      if maxX ≤ minX ∨ maxY ≤ minY then ⟨0, 0, 0, 0⟩
      else
        ⟨minX, minY, min (maxX - minX) uint16Limit,
          min (maxY - minY) uint16Limit⟩

theorem foldl_below (below : Nat → Nat → Prop) {op : Nat → Nat → Nat}
    (refl : ∀ a, below a a) (trans : ∀ a b c, below a b → below b c → below a c)
    (left : ∀ a b, below (op a b) a) (right : ∀ a b, below (op a b) b)
    (part : Rect → Nat) (items : List Rect) (start : Nat) :
    below (items.foldl (fun bound rect => op bound (part rect)) start) start ∧
      ∀ rect ∈ items,
        below (items.foldl (fun bound rect => op bound (part rect)) start)
          (part rect) := by
  induction items generalizing start with
  | nil => exact ⟨refl start, fun _ member => absurd member List.not_mem_nil⟩
  | cons item rest ih =>
      obtain ⟨first, each⟩ := ih (op start (part item))
      refine ⟨trans _ _ _ first (left _ _), fun rect member => ?_⟩
      rcases List.mem_cons.mp member with rfl | among
      · exact trans _ _ _ first (right _ _)
      · exact each rect among

theorem foldl_min_le_part (part : Rect → Nat) {first rect : Rect}
    {rest : List Rect} (member : rect ∈ first :: rest) :
    rest.foldl (fun low rect => min low (part rect)) (part first) ≤
      part rect := by
  obtain ⟨start, each⟩ := foldl_below (· ≤ ·) Nat.le_refl
    (fun _ _ _ => Nat.le_trans) Nat.min_le_left Nat.min_le_right part rest
    (part first)
  rcases List.mem_cons.mp member with rfl | among
  · exact start
  · exact each rect among

theorem part_le_foldl_max (part : Rect → Nat) {first rect : Rect}
    {rest : List Rect} (member : rect ∈ first :: rest) :
    part rect ≤
      rest.foldl (fun high rect => max high (part rect)) (part first) := by
  obtain ⟨start, each⟩ := foldl_below (· ≥ ·) Nat.le_refl
    (fun _ _ _ high low => Nat.le_trans low high) Nat.le_max_left
    Nat.le_max_right part rest (part first)
  rcases List.mem_cons.mp member with rfl | among
  · exact start
  · exact each rect among

theorem boundingDirtyRect_contains {rects : List Rect} {rect : Rect}
    {x y : Nat} (member : rect ∈ rects) (inside : rect.contains x y = true)
    (narrow : x < uint16Limit) (low : y < uint16Limit) :
    (boundingDirtyRect rects).contains x y = true := by
  cases rects with
  | nil => cases member
  | cons first rest =>
      rw [Rect.contains_iff] at inside
      have left := foldl_min_le_part Rect.x member
      have top := foldl_min_le_part Rect.y member
      have right := part_le_foldl_max
        (fun rect => rect.x + rect.width) member
      have bottom := part_le_foldl_max
        (fun rect => rect.y + rect.height) member
      simp only [boundingDirtyRect]
      rw [if_neg (by omega), Rect.contains_iff]
      dsimp only
      omega

end WayDisplay.Client
