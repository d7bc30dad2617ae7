import WayDisplay.Common.Tile

/-!
The readback planner (`wd_readback_regions.c`).

The damaged tiles of each row are gathered into runs, and runs of equal width
that touch vertically into regions.  When there are more regions than fit, one
bounding rectangle replaces them all.  The planner may read too much, never too
little: that is the coverage theorem at the end.
-/

namespace WayDisplay.Server

open Common

def readbackRegionCapacity : Nat := 16

structure ReadbackGrid where
  totalTiles : Nat
  tilesX : Nat
  tileWidth : Nat
  tileHeight : Nat
  maxWidth : Nat
  maxHeight : Nat
  deriving DecidableEq, Repr

namespace ReadbackGrid

variable (grid : ReadbackGrid) (damage : Nat → Bool)

def damagedAt (row column : Nat) : Bool :=
  row * grid.tilesX + column < grid.totalTiles &&
    damage (row * grid.tilesX + column)

def rowCount : Nat := (grid.totalTiles + grid.tilesX - 1) / grid.tilesX

end ReadbackGrid

/-! ## Runs -/

structure TileRun where
  row : Nat
  start : Nat
  stop : Nat
  deriving DecidableEq, Repr

def runEnd (damaged : Nat → Bool) : Nat → Nat → Nat
  | 0, column => column
  | remaining + 1, column =>
      if damaged column then runEnd damaged remaining (column + 1) else column

theorem le_runEnd (damaged : Nat → Bool) (remaining column : Nat) :
    column ≤ runEnd damaged remaining column := by
  induction remaining generalizing column with
  | zero => exact le_rfl
  | succ remaining ih =>
      unfold runEnd
      split
      · exact Nat.le_trans (Nat.le_succ column) (ih (column + 1))
      · exact le_rfl

def rowRuns (damaged : Nat → Bool) (row tilesX : Nat) :
    Nat → Nat → List TileRun
  | 0, _ => []
  | remaining + 1, column =>
      if column ≥ tilesX then []
      else if !damaged column then
        rowRuns damaged row tilesX remaining (column + 1)
      else
        let stop := runEnd damaged (tilesX - column) column
        ⟨row, column, stop⟩ :: rowRuns damaged row tilesX remaining stop

theorem rowRuns_cover {damaged : Nat → Bool} {row tilesX target : Nat}
    (marked : damaged target = true) (inRow : target < tilesX)
    (remaining column : Nat) (ahead : column ≤ target)
    (enough : tilesX ≤ column + remaining) :
    ∃ run ∈ rowRuns damaged row tilesX remaining column,
      run.row = row ∧ run.start ≤ target ∧ target < run.stop := by
  induction remaining generalizing column with
  | zero => omega
  | succ remaining ih =>
      unfold rowRuns
      rw [if_neg (by omega)]
      by_cases hcolumn : damaged column = true
      · rw [if_neg (by simp [hcolumn])]
        dsimp only
        by_cases inRun : target < runEnd damaged (tilesX - column) column
        · exact ⟨_, List.mem_cons_self, rfl, ahead, inRun⟩
        · have advanced : column + 1 ≤
              runEnd damaged (tilesX - column) column := by
            obtain ⟨width, hwidth⟩ : ∃ width, tilesX - column = width + 1 :=
              ⟨tilesX - column - 1, by omega⟩
            rw [hwidth, runEnd, if_pos hcolumn]
            exact le_runEnd damaged width (column + 1)
          obtain ⟨run, member, covers⟩ := ih
            (runEnd damaged (tilesX - column) column) (by omega) (by omega)
          exact ⟨run, List.mem_cons_of_mem _ member, covers⟩
      · rw [if_pos (by simp [hcolumn])]
        have other : column ≠ target := by
          rintro rfl
          exact hcolumn marked
        exact ih (column + 1) (by omega) (by omega)

/-! ## Regions -/

structure Bounds where
  x1 : Nat
  y1 : Nat
  x2 : Nat
  y2 : Nat
  deriving DecidableEq, Repr

namespace Bounds

def contains (box : Bounds) (x y : Nat) : Prop :=
  box.x1 ≤ x ∧ x < box.x2 ∧ box.y1 ≤ y ∧ y < box.y2

def rect (box : Bounds) : Rect :=
  ⟨box.x1, box.y1, box.x2 - box.x1, box.y2 - box.y1⟩

theorem rect_contains {box : Bounds} {x y : Nat} (inside : box.contains x y) :
    box.rect.contains x y = true := by
  rw [Rect.contains_iff]
  obtain ⟨left, right, top, bottom⟩ := inside
  simp only [rect]
  omega

def union (first second : Bounds) : Bounds :=
  ⟨min first.x1 second.x1, min first.y1 second.y1, max first.x2 second.x2,
    max first.y2 second.y2⟩

theorem union_contains_left {first : Bounds} (second : Bounds) {x y : Nat}
    (inside : first.contains x y) : (first.union second).contains x y := by
  simp only [contains, union] at inside ⊢
  omega

theorem union_contains_right (first : Bounds) {second : Bounds} {x y : Nat}
    (inside : second.contains x y) : (first.union second).contains x y := by
  simp only [contains, union] at inside ⊢
  omega

end Bounds

def ReadbackGrid.runBounds (grid : ReadbackGrid) (run : TileRun) : Bounds where
  x1 := run.start * grid.tileWidth
  y1 := run.row * grid.tileHeight
  x2 := min (run.stop * grid.tileWidth) grid.maxWidth
  y2 := min (run.row * grid.tileHeight + grid.tileHeight) grid.maxHeight

/-- Extend the first region that ends where the box starts. -/
def mergeRegion (box : Bounds) : List Rect → Option (List Rect)
  | [] => none
  | region :: rest =>
      if region.x = box.x1 ∧ region.width = box.x2 - box.x1 ∧
          region.y + region.height = box.y1 then
        some ({ region with height := region.height + (box.y2 - box.y1) } ::
          rest)
      else (mergeRegion box rest).map (region :: ·)

structure RegionPlan where
  regions : List Rect
  bounds : Option Bounds
  overflowed : Bool
  deriving DecidableEq, Repr

namespace RegionPlan

def empty : RegionPlan := ⟨[], none, false⟩

def extendBounds (plan : RegionPlan) (box : Bounds) : Option Bounds :=
  some (match plan.bounds with
    | none => box
    | some bounds => bounds.union box)

def addBox (capacity : Nat) (plan : RegionPlan) (box : Bounds) : RegionPlan :=
  if box.x1 ≥ box.x2 ∨ box.y1 ≥ box.y2 then plan
  else
    match mergeRegion box plan.regions with
    | some regions => ⟨regions, plan.extendBounds box, plan.overflowed⟩
    | none =>
        if plan.regions.length ≥ capacity then
          ⟨plan.regions, plan.extendBounds box, true⟩
        else
          ⟨plan.regions ++ [box.rect], plan.extendBounds box, plan.overflowed⟩

end RegionPlan

def ReadbackGrid.runs (grid : ReadbackGrid) (damage : Nat → Bool) :
    List TileRun :=
  (List.range grid.rowCount).flatMap fun row =>
    rowRuns (grid.damagedAt damage row) row grid.tilesX grid.tilesX 0

def ReadbackGrid.collect (grid : ReadbackGrid) (damage : Nat → Bool)
    (capacity : Nat) : RegionPlan :=
  ((grid.runs damage).map grid.runBounds).foldl (RegionPlan.addBox capacity)
    RegionPlan.empty

def readbackPlanRegions (fullDamage : Bool) (damage : Nat → Bool)
    (damageTileCount : Nat) (grid : ReadbackGrid) (capacity : Nat) :
    List Rect :=
  let full : Rect := ⟨0, 0, grid.maxWidth, grid.maxHeight⟩
  if capacity = 0 ∨ grid.maxWidth = 0 ∨ grid.maxHeight = 0 then []
  else if fullDamage ∨ damageTileCount = 0 ∨ grid.totalTiles = 0 ∨
      grid.tilesX = 0 ∨ grid.tileWidth = 0 ∨ grid.tileHeight = 0 then [full]
  else
    let plan := grid.collect damage capacity
    match plan.bounds with
    | none => [full]
    | some bounds => if plan.overflowed then [bounds.rect] else plan.regions

/-! ## Coverage -/

/-- The pixel will be read, whether the plan overflows later or not. -/
structure RegionPlan.Covers (plan : RegionPlan) (x y : Nat) : Prop where
  bounded : ∃ bounds, plan.bounds = some bounds ∧ bounds.contains x y
  listed : plan.overflowed = false →
    ∃ region ∈ plan.regions, region.contains x y = true

variable {x y : Nat}

variable {box : Bounds}

theorem mergeRegion_keeps {regions merged : List Rect}
    (merges : mergeRegion box regions = some merged)
    (listed : ∃ region ∈ regions, region.contains x y = true) :
    ∃ region ∈ merged, region.contains x y = true := by
  induction regions generalizing merged with
  | nil => simp [mergeRegion] at merges
  | cons region rest ih =>
      obtain ⟨found, member, inside⟩ := listed
      unfold mergeRegion at merges
      split at merges
      · rw [Option.some.injEq] at merges
        subst merges
        rcases List.mem_cons.mp member with rfl | member
        · refine ⟨_, List.mem_cons_self, ?_⟩
          rw [Rect.contains_iff] at inside ⊢
          dsimp only
          omega
        · exact ⟨found, List.mem_cons_of_mem _ member, inside⟩
      · obtain ⟨merged', merges', rfl⟩ := Option.map_eq_some_iff.mp merges
        rcases List.mem_cons.mp member with rfl | member
        · exact ⟨found, List.mem_cons_self, inside⟩
        · obtain ⟨kept, member', inside'⟩ := ih merges' ⟨found, member, inside⟩
          exact ⟨kept, List.mem_cons_of_mem _ member', inside'⟩

theorem mergeRegion_covers {regions merged : List Rect}
    (merges : mergeRegion box regions = some merged) (inside : box.contains x y) :
    ∃ region ∈ merged, region.contains x y = true := by
  induction regions generalizing merged with
  | nil => simp [mergeRegion] at merges
  | cons region rest ih =>
      unfold mergeRegion at merges
      split at merges
      · next aligned =>
        rw [Option.some.injEq] at merges
        subst merges
        refine ⟨_, List.mem_cons_self, ?_⟩
        rw [Rect.contains_iff]
        simp only [Bounds.contains] at inside
        dsimp only
        omega
      · obtain ⟨merged', merges', rfl⟩ := Option.map_eq_some_iff.mp merges
        obtain ⟨kept, member', inside'⟩ := ih merges'
        exact ⟨kept, List.mem_cons_of_mem _ member', inside'⟩

theorem RegionPlan.extendBounds_left {plan : RegionPlan} (box : Bounds)
    (bounded : ∃ bounds, plan.bounds = some bounds ∧ bounds.contains x y) :
    ∃ bounds, plan.extendBounds box = some bounds ∧ bounds.contains x y := by
  obtain ⟨bounds, present, inside⟩ := bounded
  refine ⟨bounds.union box, ?_, bounds.union_contains_left box inside⟩
  simp [RegionPlan.extendBounds, present]

theorem RegionPlan.extendBounds_right (plan : RegionPlan)
    (inside : box.contains x y) :
    ∃ bounds, plan.extendBounds box = some bounds ∧ bounds.contains x y := by
  unfold RegionPlan.extendBounds
  cases plan.bounds with
  | none => exact ⟨box, rfl, inside⟩
  | some bounds => exact ⟨_, rfl, bounds.union_contains_right inside⟩

theorem RegionPlan.addBox_keeps {plan : RegionPlan} (capacity : Nat)
    (box : Bounds) (covers : plan.Covers x y) :
    (plan.addBox capacity box).Covers x y := by
  have bounded := RegionPlan.extendBounds_left box covers.bounded
  unfold RegionPlan.addBox
  split
  · exact covers
  · split
    · next regions merges =>
      exact ⟨bounded, fun fits => mergeRegion_keeps merges (covers.listed fits)⟩
    · split
      · exact ⟨bounded, fun fits => by simp at fits⟩
      · refine ⟨bounded, fun fits => ?_⟩
        obtain ⟨region, member, inside⟩ := covers.listed fits
        exact ⟨region, List.mem_append_left _ member, inside⟩

theorem RegionPlan.addBox_covers (plan : RegionPlan) (capacity : Nat)
    (inside : box.contains x y) :
    (plan.addBox capacity box).Covers x y := by
  have bounded := plan.extendBounds_right inside
  unfold RegionPlan.addBox
  split
  · next empty =>
    simp only [Bounds.contains] at inside
    omega
  · split
    · next regions merges =>
      exact ⟨bounded, fun _ => mergeRegion_covers merges inside⟩
    · split
      · exact ⟨bounded, fun fits => by simp at fits⟩
      · exact ⟨bounded, fun _ => ⟨box.rect,
          List.mem_append_right _ (List.mem_singleton_self _),
          Bounds.rect_contains inside⟩⟩

theorem foldl_addBox_keeps (capacity : Nat) (boxes : List Bounds)
    {plan : RegionPlan} (covers : plan.Covers x y) :
    (boxes.foldl (RegionPlan.addBox capacity) plan).Covers x y := by
  induction boxes generalizing plan with
  | nil => exact covers
  | cons box rest ih => exact ih (RegionPlan.addBox_keeps capacity box covers)

theorem foldl_addBox_covers (capacity : Nat) (boxes : List Bounds)
    (plan : RegionPlan) (member : box ∈ boxes) (inside : box.contains x y) :
    (boxes.foldl (RegionPlan.addBox capacity) plan).Covers x y := by
  induction boxes generalizing plan with
  | nil => simp at member
  | cons first rest ih =>
      rcases List.mem_cons.mp member with rfl | member
      · exact foldl_addBox_keeps capacity rest
          (plan.addBox_covers capacity inside)
      · exact ih (plan.addBox capacity first) member

variable {damage : Nat → Bool}

theorem ReadbackGrid.runs_cover (grid : ReadbackGrid)
    (columns : 0 < grid.tilesX) {tileId : Nat}
    (valid : tileId < grid.totalTiles) (damaged : damage tileId = true) :
    ∃ run ∈ grid.runs damage, run.row = tileId / grid.tilesX ∧
      run.start ≤ tileId % grid.tilesX ∧ tileId % grid.tilesX < run.stop := by
  have position : tileId / grid.tilesX * grid.tilesX + tileId % grid.tilesX =
      tileId := Nat.div_add_mod' _ _
  have marked : grid.damagedAt damage (tileId / grid.tilesX)
      (tileId % grid.tilesX) = true := by
    simp [ReadbackGrid.damagedAt, position, valid, damaged]
  have inRow : tileId % grid.tilesX < grid.tilesX := Nat.mod_lt _ columns
  obtain ⟨run, member, covers⟩ := rowRuns_cover marked inRow grid.tilesX 0
    (Nat.zero_le _) (by omega)
  refine ⟨run, List.mem_flatMap.mpr ⟨tileId / grid.tilesX, ?_, member⟩, covers⟩
  rw [List.mem_range, ReadbackGrid.rowCount, Nat.div_lt_iff_lt_mul columns]
  have rounded : grid.totalTiles ≤ (grid.totalTiles + grid.tilesX - 1) /
      grid.tilesX * grid.tilesX := by
    have := Nat.div_add_mod' (grid.totalTiles + grid.tilesX - 1) grid.tilesX
    have := Nat.mod_lt (grid.totalTiles + grid.tilesX - 1) columns
    omega
  omega

def readbackGrid (geometry : Geometry) : ReadbackGrid where
  totalTiles := geometry.totalTiles
  tilesX := geometry.tilesX
  tileWidth := baseTileWidth
  tileHeight := baseTileHeight
  maxWidth := geometry.displayWidth
  maxHeight := geometry.displayHeight

theorem readbackGrid_runBounds_contains {geometry : Geometry} {run : TileRun}
    (onX : x < geometry.displayWidth) (onY : y < geometry.displayHeight)
    (row : run.row = y / 16) (start : run.start ≤ x / 16)
    (stop : x / 16 < run.stop) :
    ((readbackGrid geometry).runBounds run).contains x y := by
  simp only [Bounds.contains, ReadbackGrid.runBounds, readbackGrid,
    baseTileWidth, baseTileHeight, row]
  omega

theorem readbackGrid_collect_covers {geometry : Geometry}
    (onX : x < geometry.displayWidth) (onY : y < geometry.displayHeight)
    (damaged : damage (geometry.tileAt x y) = true) (capacity : Nat) :
    ((readbackGrid geometry).collect damage capacity).Covers x y := by
  obtain ⟨run, member, row, start, stop⟩ :=
    (readbackGrid geometry).runs_cover geometry.tilesX_pos
      (geometry.tileAt_lt onX onY) damaged
  have column := geometry.tileXFor_tileAt (y := y) onX
  have line := geometry.tileYFor_tileAt (y := y) onX
  rw [tileXFor, if_neg geometry.tilesX_ne_zero] at column
  rw [tileYFor, if_neg geometry.tilesX_ne_zero] at line
  simp only [readbackGrid, column, line] at row start stop
  exact foldl_addBox_covers capacity _ _ (List.mem_map_of_mem member)
    (readbackGrid_runBounds_contains onX onY row start stop)

theorem readbackPlanRegions_covers {geometry : Geometry} {fullDamage : Bool}
    (onX : x < geometry.displayWidth) (onY : y < geometry.displayHeight)
    (damaged : fullDamage = true ∨ damage (geometry.tileAt x y) = true)
    (damageTileCount : Nat) {capacity : Nat} (room : 0 < capacity) :
    ∃ region ∈ readbackPlanRegions fullDamage damage damageTileCount
      (readbackGrid geometry) capacity, region.contains x y = true := by
  have full : (⟨0, 0, geometry.displayWidth, geometry.displayHeight⟩ :
      Rect).contains x y = true := by
    rw [Rect.contains_iff]
    dsimp only
    omega
  unfold readbackPlanRegions
  dsimp only
  rw [if_neg (by simp only [readbackGrid]; omega)]
  split
  · exact ⟨_, List.mem_singleton_self _, full⟩
  · next notFull =>
    have marked : damage (geometry.tileAt x y) = true :=
      damaged.resolve_left fun whole => notFull (Or.inl whole)
    have covers := readbackGrid_collect_covers onX onY marked capacity
    generalize (readbackGrid geometry).collect damage capacity = plan at covers ⊢
    obtain ⟨bounds, present, inside⟩ := covers.bounded
    rw [present]
    dsimp only
    split
    · exact ⟨_, List.mem_singleton_self _, Bounds.rect_contains inside⟩
    · next fits => exact covers.listed (by simpa using fits)

end WayDisplay.Server
