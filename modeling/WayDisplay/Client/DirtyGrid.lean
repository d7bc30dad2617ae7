import Mathlib.Data.List.Basic
import Mathlib.Data.List.Range
import Mathlib.Data.Set.Card
import Mathlib.Logic.Function.Basic
import WayDisplay.Client.Geometry

/-!
The dirty tile grid of the client (`ClientDirtyTileGrid`).

Rectangles are marked tile by tile.  Taking the rectangles sweeps the grid row
by row: a run of dirty tiles extends the rectangle above it when that has the
same columns, and opens a new rectangle otherwise.  The rectangles taken are
exactly the dirty tiles, clipped to the frame, and the grid is clean after.
-/

namespace WayDisplay.Client

open Common

/-! ## The grid -/

structure GridShape where
  frameWidth : Nat
  frameHeight : Nat
  tileWidth : Nat
  tileHeight : Nat
  width_pos : 0 < frameWidth
  height_pos : 0 < frameHeight
  width_le : frameWidth ≤ uint16Limit
  height_le : frameHeight ≤ uint16Limit
  tile_width_pos : 0 < tileWidth
  tile_height_pos : 0 < tileHeight

namespace GridShape

variable (shape : GridShape)

def tilesX : Nat := (shape.frameWidth + shape.tileWidth - 1) / shape.tileWidth

def tilesY : Nat :=
  (shape.frameHeight + shape.tileHeight - 1) / shape.tileHeight

def totalTiles : Nat := shape.tilesX * shape.tilesY

def tileAt (point : Point) : Nat :=
  point.2 / shape.tileHeight * shape.tilesX + point.1 / shape.tileWidth

def inFrame (point : Point) : Prop :=
  point.1 < shape.frameWidth ∧ point.2 < shape.frameHeight

theorem column_lt {x : Nat} (inside : x < shape.frameWidth) :
    x / shape.tileWidth < shape.tilesX := by
  rw [tilesX, lt_tileCount_iff shape.tile_width_pos]
  exact Nat.lt_of_le_of_lt (Nat.div_mul_le_self x _) inside

theorem row_lt {y : Nat} (inside : y < shape.frameHeight) :
    y / shape.tileHeight < shape.tilesY := by
  rw [tilesY, lt_tileCount_iff shape.tile_height_pos]
  exact Nat.lt_of_le_of_lt (Nat.div_mul_le_self y _) inside

theorem index_lt {row column : Nat} (inRow : column < shape.tilesX)
    (inGrid : row < shape.tilesY) :
    row * shape.tilesX + column < shape.totalTiles := by
  calc row * shape.tilesX + column < (row + 1) * shape.tilesX := by
        rw [Nat.add_mul]
        omega
    _ ≤ shape.tilesY * shape.tilesX := Nat.mul_le_mul_right _ inGrid
    _ = shape.totalTiles := Nat.mul_comm _ _

end GridShape

structure ClientDirtyTileGrid (shape : GridShape) where
  dirty : Nat → Bool
  dirtyTileCount : Nat
  count_eq : dirtyTileCount = (List.range shape.totalTiles).countP dirty

namespace ClientDirtyTileGrid

variable {shape : GridShape}

/-- An accepted `reset`, and `clear`. -/
def clean : ClientDirtyTileGrid shape where
  dirty := fun _ => false
  dirtyTileCount := 0
  count_eq := by simp

def clear (_ : ClientDirtyTileGrid shape) : ClientDirtyTileGrid shape := clean

theorem countP_mark {dirty : Nat → Bool} {tile total : Nat}
    (inside : tile < total) (unmarked : dirty tile = false) :
    (List.range total).countP (Function.update dirty tile true) =
      (List.range total).countP dirty + 1 := by
  induction total with
  | zero => omega
  | succ total ih =>
      rw [List.range_succ, List.countP_append, List.countP_append,
        List.countP_singleton, List.countP_singleton]
      by_cases here : tile = total
      · subst here
        have below : (List.range tile).countP (Function.update dirty tile true)
            = (List.range tile).countP dirty := by
          refine List.countP_congr fun other member => ?_
          rw [Function.update_of_ne (List.mem_range.mp member).ne]
        rw [below, Function.update_self, unmarked]
        simp
      · rw [ih (by omega), Function.update_of_ne (Ne.symm here)]
        omega

def mark (grid : ClientDirtyTileGrid shape) (tile : Nat) :
    ClientDirtyTileGrid shape :=
  if unmarked : tile < shape.totalTiles ∧ grid.dirty tile = false then
    { dirty := Function.update grid.dirty tile true
      dirtyTileCount := grid.dirtyTileCount + 1
      count_eq := by rw [grid.count_eq, countP_mark unmarked.1 unmarked.2] }
  else grid

theorem countP_unmark {dirty : Nat → Bool} {tile total : Nat}
    (inside : tile < total) (marked : dirty tile = true) :
    (List.range total).countP dirty - 1 =
      (List.range total).countP (Function.update dirty tile false) := by
  have restored : Function.update (Function.update dirty tile false) tile true =
      dirty := by
    rw [Function.update_idem, ← marked, Function.update_eq_self]
  have counted := countP_mark inside (Function.update_self tile false dirty)
  rw [restored] at counted
  omega

def unmark (grid : ClientDirtyTileGrid shape) (tile : Nat) :
    ClientDirtyTileGrid shape :=
  if marked : tile < shape.totalTiles ∧ grid.dirty tile = true then
    { dirty := Function.update grid.dirty tile false
      dirtyTileCount := grid.dirtyTileCount - 1
      count_eq := by rw [grid.count_eq, countP_unmark marked.1 marked.2] }
  else grid

variable {grid : ClientDirtyTileGrid shape}

theorem mark_dirty {tile other : Nat} (inside : tile < shape.totalTiles) :
    (grid.mark tile).dirty other = true ↔
      grid.dirty other = true ∨ other = tile := by
  unfold mark
  split
  · by_cases here : other = tile
    · simp [here]
    · simp [here]
  · next known =>
      have marked : grid.dirty tile = true := by
        simpa using fun holds => known ⟨inside, holds⟩
      constructor
      · exact Or.inl
      · rintro (held | rfl)
        · exact held
        · exact marked

theorem unmark_dirty {tile other : Nat} (inside : tile < shape.totalTiles) :
    (grid.unmark tile).dirty other = true ↔
      grid.dirty other = true ∧ other ≠ tile := by
  unfold unmark
  split
  · by_cases here : other = tile
    · simp [here]
    · simp [here]
  · next known =>
      constructor
      · intro held
        exact ⟨held, by rintro rfl; exact known ⟨inside, held⟩⟩
      · exact And.left

theorem dirtyTileCount_eq_zero :
    grid.dirtyTileCount = 0 ↔
      ∀ tile < shape.totalTiles, grid.dirty tile = false := by
  rw [grid.count_eq, List.countP_eq_zero]
  simp

end ClientDirtyTileGrid

/-! ## Marking -/

def GridShape.block (shape : GridShape) (firstX lastX firstY lastY : Nat) :
    List Nat :=
  (idsFrom firstY (min lastY (shape.tilesY - 1) + 1 - firstY)).flatMap
    fun row => (idsFrom firstX (min lastX (shape.tilesX - 1) + 1 - firstX)).map
      fun column => row * shape.tilesX + column

namespace ClientDirtyTileGrid

variable {shape : GridShape}

def markRect (grid : ClientDirtyTileGrid shape) (rect : Rect) :
    Option (ClientDirtyTileGrid shape) :=
  (clampDirtyRect shape.frameWidth shape.frameHeight rect).map fun visible =>
    (shape.block (visible.x / shape.tileWidth)
      ((visible.x + visible.width - 1) / shape.tileWidth)
      (visible.y / shape.tileHeight)
      ((visible.y + visible.height - 1) / shape.tileHeight)).foldl mark grid

theorem foldl_mark_dirty {grid : ClientDirtyTileGrid shape}
    {tiles : List Nat} (inside : ∀ tile ∈ tiles, tile < shape.totalTiles)
    {other : Nat} :
    (tiles.foldl mark grid).dirty other = true ↔
      grid.dirty other = true ∨ other ∈ tiles := by
  induction tiles generalizing grid with
  | nil => simp
  | cons tile rest ih =>
      rw [List.foldl_cons,
        ih fun later member => inside later (List.mem_cons_of_mem _ member),
        mark_dirty (inside tile List.mem_cons_self), List.mem_cons, or_assoc]

end ClientDirtyTileGrid

variable {shape : GridShape}

theorem GridShape.mem_block {firstX lastX firstY lastY tile : Nat}
    (inX : lastX < shape.tilesX) (inY : lastY < shape.tilesY) :
    tile ∈ shape.block firstX lastX firstY lastY ↔
      ∃ row column, (firstY ≤ row ∧ row ≤ lastY) ∧
        (firstX ≤ column ∧ column ≤ lastX) ∧
          row * shape.tilesX + column = tile := by
  simp only [GridShape.block, List.mem_flatMap, List.mem_map, mem_idsFrom,
    Nat.min_eq_left (Nat.le_sub_one_of_lt inX),
    Nat.min_eq_left (Nat.le_sub_one_of_lt inY)]
  constructor
  · rintro ⟨row, rows, column, columns, same⟩
    exact ⟨row, column, by omega, by omega, same⟩
  · rintro ⟨row, column, rows, columns, same⟩
    exact ⟨row, by omega, column, by omega, same⟩

structure GridShape.Holds (shape : GridShape) (rect : Rect) : Prop where
  wide : 0 < rect.width
  high : 0 < rect.height
  insideX : rect.x + rect.width ≤ shape.frameWidth
  insideY : rect.y + rect.height ≤ shape.frameHeight

variable {rect : Rect}

theorem clampDirtyRect_of_holds (holds : shape.Holds rect) :
    clampDirtyRect shape.frameWidth shape.frameHeight rect = some rect := by
  obtain ⟨wide, high, insideX, insideY⟩ := holds
  have narrow := shape.width_le
  have low := shape.height_le
  rw [clampDirtyRect, if_neg (by omega), Nat.min_eq_left (by omega),
    Nat.min_eq_left (by omega)]

theorem markRect_eq_some (grid : ClientDirtyTileGrid shape)
    (holds : shape.Holds rect) :
    ∃ marked, grid.markRect rect = some marked ∧ ∀ tile,
      marked.dirty tile = true ↔ grid.dirty tile = true ∨
        ∃ point : Point, rect.contains point.1 point.2 = true ∧
          shape.tileAt point = tile := by
  obtain ⟨wide, high, insideX, insideY⟩ := holds
  have lastX : (rect.x + rect.width - 1) / shape.tileWidth < shape.tilesX :=
    shape.column_lt (by omega)
  have lastY : (rect.y + rect.height - 1) / shape.tileHeight < shape.tilesY :=
    shape.row_lt (by omega)
  refine ⟨_, by rw [ClientDirtyTileGrid.markRect,
    clampDirtyRect_of_holds ⟨wide, high, insideX, insideY⟩, Option.map_some],
    fun tile => ?_⟩
  rw [ClientDirtyTileGrid.foldl_mark_dirty ?_, GridShape.mem_block lastX lastY]
  · refine or_congr_right ⟨?_, ?_⟩
    · rintro ⟨row, column, rows, columns, same⟩
      obtain ⟨x, left, right, hx⟩ := (between_div_iff shape.tile_width_pos
        (by omega)).mp columns
      obtain ⟨y, top, bottom, hy⟩ := (between_div_iff shape.tile_height_pos
        (by omega)).mp rows
      refine ⟨(x, y), Rect.contains_iff.mpr ⟨left, right, top, bottom⟩, ?_⟩
      rw [GridShape.tileAt, hx, hy, same]
    · rintro ⟨point, inside, same⟩
      obtain ⟨left, right, top, bottom⟩ := Rect.contains_iff.mp inside
      exact ⟨_, _, (between_div_iff shape.tile_height_pos (by omega)).mpr
          ⟨point.2, top, bottom, rfl⟩,
        (between_div_iff shape.tile_width_pos (by omega)).mpr
          ⟨point.1, left, right, rfl⟩, same⟩
  · intro other member
    obtain ⟨row, column, rows, columns, rfl⟩ :=
      (GridShape.mem_block lastX lastY).mp member
    exact shape.index_lt (by omega) (by omega)

/-! ## Taking the rectangles -/

/-- Dirty tiles `start`, ..., `stop - 1` of one row and the rectangle they
belong to. -/
structure RowRun where
  start : Nat
  stop : Nat
  rectIndex : Nat
  deriving DecidableEq, Repr

structure RectSweep (shape : GridShape) where
  grid : ClientDirtyTileGrid shape
  rects : List Rect
  previousRuns : List RowRun
  currentRuns : List RowRun

def clearRun {shape : GridShape} (row : Nat) :
    Nat → Nat → ClientDirtyTileGrid shape → Nat × ClientDirtyTileGrid shape
  | 0, column, grid => (column, grid)
  | remaining + 1, column, grid =>
      if grid.dirty (row * shape.tilesX + column) then
        clearRun row remaining (column + 1)
          (grid.unmark (row * shape.tilesX + column))
      else (column, grid)

def GridShape.bottom (shape : GridShape) (row : Nat) : Nat :=
  min shape.frameHeight ((row + 1) * shape.tileHeight)

def GridShape.runRect (shape : GridShape) (row start stop : Nat) : Rect where
  x := start * shape.tileWidth
  y := row * shape.tileHeight
  width := min shape.frameWidth (stop * shape.tileWidth) -
    start * shape.tileWidth
  height := shape.bottom row - row * shape.tileHeight

/-- Extends the rectangle above the run or opens a new one; with its index. -/
def GridShape.placeRun (shape : GridShape) (row start stop : Nat)
    (rects : List Rect) : List RowRun → List Rect × Nat
  | above :: _ =>
      if above.start = start ∧ above.stop = stop then
        (rects.modify above.rectIndex fun rect =>
          { rect with height := shape.bottom row - rect.y }, above.rectIndex)
      else (rects ++ [shape.runRect row start stop], rects.length)
  | [] => (rects ++ [shape.runRect row start stop], rects.length)

def sweepRow {shape : GridShape} (row : Nat) :
    Nat → Nat → RectSweep shape → RectSweep shape
  | 0, _, sweep => sweep
  | remaining + 1, column, sweep =>
      if column ≥ shape.tilesX then sweep
      else if sweep.grid.dirty (row * shape.tilesX + column) then
        let run := clearRun row (shape.tilesX - column) column sweep.grid
        let previous := sweep.previousRuns.dropWhile (·.start < column)
        let placed := shape.placeRun row column run.1 sweep.rects previous
        sweepRow row remaining run.1
          { grid := run.2
            rects := placed.1
            previousRuns := previous
            currentRuns := sweep.currentRuns ++ [⟨column, run.1, placed.2⟩] }
      else sweepRow row remaining (column + 1) sweep

/-- The runs of a finished row are what the next row may extend. -/
def RectSweep.nextRow {shape : GridShape} (sweep : RectSweep shape) :
    RectSweep shape :=
  { sweep with previousRuns := sweep.currentRuns, currentRuns := [] }

def ClientDirtyTileGrid.takeRects {shape : GridShape}
    (grid : ClientDirtyTileGrid shape) :
    List Rect × ClientDirtyTileGrid shape :=
  if grid.dirtyTileCount = 0 then ([], grid)
  else
    let swept := (List.range shape.tilesY).foldl
      (fun sweep row => (sweepRow row shape.tilesX 0 sweep).nextRow)
      ⟨grid, [], [], []⟩
    (swept.rects, swept.grid)

/-! ## What one run takes -/

variable {row : Nat}

theorem clearRun_spec (inGrid : row < shape.tilesY) (remaining column : Nat)
    (grid : ClientDirtyTileGrid shape)
    (fits : column + remaining ≤ shape.tilesX) :
    column ≤ (clearRun row remaining column grid).1 ∧
      (clearRun row remaining column grid).1 ≤ column + remaining ∧
      (∀ other, column ≤ other →
        other < (clearRun row remaining column grid).1 →
          grid.dirty (row * shape.tilesX + other) = true) ∧
      ∀ tile, (clearRun row remaining column grid).2.dirty tile = true ↔
        grid.dirty tile = true ∧ ∀ other, column ≤ other →
          other < (clearRun row remaining column grid).1 →
            tile ≠ row * shape.tilesX + other := by
  induction remaining generalizing column grid with
  | zero =>
      refine ⟨le_rfl, le_rfl, fun other above below => ?_, fun tile => ?_⟩
      · simp only [clearRun] at below
        omega
      · refine ⟨fun held => ⟨held, fun other above below => ?_⟩, And.left⟩
        simp only [clearRun] at below
        omega
  | succ remaining ih =>
      unfold clearRun
      by_cases marked : grid.dirty (row * shape.tilesX + column) = true
      · rw [if_pos marked]
        have inside := shape.index_lt (by omega : column < shape.tilesX) inGrid
        obtain ⟨above, below, run, rest⟩ := ih (column + 1)
          (grid.unmark (row * shape.tilesX + column)) (by omega)
        refine ⟨by omega, by omega, fun other low high => ?_, fun tile => ?_⟩
        · rcases Nat.eq_or_lt_of_le low with rfl | later
          · exact marked
          · exact ((ClientDirtyTileGrid.unmark_dirty inside).mp
              (run other later high)).1
        · rw [rest, ClientDirtyTileGrid.unmark_dirty inside, and_assoc]
          refine and_congr_right fun _ => ⟨?_, ?_⟩
          · rintro ⟨here, later⟩ other low high
            rcases Nat.eq_or_lt_of_le low with rfl | after
            · exact here
            · exact later other after high
          · intro apart
            exact ⟨apart column le_rfl (by omega),
              fun other low high => apart other (by omega) high⟩
      · rw [if_neg marked]
        refine ⟨le_rfl, by omega, fun other above below => by omega,
          fun tile => ⟨fun held => ⟨held, fun other above below => by omega⟩,
            And.left⟩⟩

theorem lt_clearRun (remaining : Nat) {row column : Nat}
    {grid : ClientDirtyTileGrid shape} (inGrid : row < shape.tilesY)
    (fits : column + (remaining + 1) ≤ shape.tilesX)
    (marked : grid.dirty (row * shape.tilesX + column) = true) :
    column < (clearRun row (remaining + 1) column grid).1 := by
  unfold clearRun
  rw [if_pos marked]
  exact (clearRun_spec inGrid remaining (column + 1) _ (by omega)).1

def GridShape.InRun (shape : GridShape) (row start stop : Nat)
    (point : Point) : Prop :=
  point.2 / shape.tileHeight = row ∧ start ≤ point.1 / shape.tileWidth ∧
    point.1 / shape.tileWidth < stop

theorem inColumns_iff (start stop : Nat) {size length x : Nat}
    (positive : 0 < size) (inside : x < length) :
    start * size ≤ x ∧ x < min length (stop * size) ↔
      start ≤ x / size ∧ x / size < stop := by
  rw [Nat.le_div_iff_mul_le positive, Nat.div_lt_iff_lt_mul positive]
  omega

theorem GridShape.inRow_iff (row : Nat) {y : Nat}
    (inside : y < shape.frameHeight) :
    row * shape.tileHeight ≤ y ∧ y < shape.bottom row ↔
      y / shape.tileHeight = row := by
  rw [GridShape.bottom, inColumns_iff _ _ shape.tile_height_pos inside]
  omega

/-- A rectangle that spans the columns of a run and ends with a given row. -/
structure GridShape.Reaches (shape : GridShape) (bottom : Nat) (run : RowRun)
    (rect : Rect) : Prop where
  left : rect.x = run.start * shape.tileWidth
  right : rect.x + rect.width =
    min shape.frameWidth (run.stop * shape.tileWidth)
  lower : rect.y + rect.height = bottom
  nonempty : run.start < run.stop
  onGrid : run.stop ≤ shape.tilesX

theorem GridShape.start_lt {start : Nat} (inRow : start < shape.tilesX) :
    start * shape.tileWidth < shape.frameWidth :=
  (lt_tileCount_iff shape.tile_width_pos).mp inRow

theorem GridShape.row_start_lt (inGrid : row < shape.tilesY) :
    row * shape.tileHeight < shape.frameHeight :=
  (lt_tileCount_iff shape.tile_height_pos).mp inGrid

theorem GridShape.row_start_lt_bottom (inGrid : row < shape.tilesY) :
    row * shape.tileHeight < shape.bottom row := by
  have inside := GridShape.row_start_lt inGrid
  have positive := shape.tile_height_pos
  rw [GridShape.bottom, Nat.succ_mul]
  omega

theorem GridShape.runRect_reaches {row start stop : Nat}
    (inGrid : row < shape.tilesY) (nonempty : start < stop)
    (onGrid : stop ≤ shape.tilesX) (index : Nat) :
    shape.Reaches (shape.bottom row) ⟨start, stop, index⟩
      (shape.runRect row start stop) := by
  have inside := GridShape.start_lt (Nat.lt_of_lt_of_le nonempty onGrid)
  have later : start * shape.tileWidth ≤ stop * shape.tileWidth :=
    Nat.mul_le_mul_right _ (Nat.le_of_lt nonempty)
  have below := GridShape.row_start_lt_bottom inGrid
  refine ⟨rfl, ?_, ?_, nonempty, onGrid⟩
  · simp only [GridShape.runRect]
    omega
  · simp only [GridShape.runRect]
    omega

variable {point : Point}

theorem GridShape.runRect_contains {row start stop : Nat}
    (inGrid : row < shape.tilesY) (nonempty : start < stop)
    (onGrid : stop ≤ shape.tilesX) (inside : shape.inFrame point) :
    (shape.runRect row start stop).contains point.1 point.2 = true ↔
      shape.InRun row start stop point := by
  have reaches := GridShape.runRect_reaches inGrid nonempty onGrid 0
  rw [Rect.contains_iff, reaches.right, reaches.lower]
  have columns := inColumns_iff start stop shape.tile_width_pos inside.1
  have rows := GridShape.inRow_iff row inside.2
  simp only [GridShape.runRect, GridShape.InRun, ← columns, ← rows]
  tauto

theorem GridShape.extend_contains {run : RowRun} (inGrid : row < shape.tilesY)
    (reaches : shape.Reaches (row * shape.tileHeight) run rect)
    (inside : shape.inFrame point) :
    Rect.contains { rect with height := shape.bottom row - rect.y }
        point.1 point.2 = true ↔
      rect.contains point.1 point.2 = true ∨
        shape.InRun row run.start run.stop point := by
  have columns := inColumns_iff run.start run.stop shape.tile_width_pos
    inside.1
  have rows := GridShape.inRow_iff row inside.2
  have below := GridShape.row_start_lt_bottom inGrid
  have lower := reaches.lower
  rw [Rect.contains_iff, Rect.contains_iff, GridShape.InRun, ← columns,
    ← rows, ← reaches.right, ← reaches.left]
  dsimp only
  omega

/-! ## The sweep -/

def SweptBefore (row column : Nat) (tileRow tileColumn : Nat) : Prop :=
  tileRow < row ∨ tileRow = row ∧ tileColumn < column

/-- After a row has been swept up to a column: the rectangles show the dirty
tiles met so far, and every run that may still be extended, or belongs to this
row, has a rectangle of its own that ends where the run does. -/
structure Swept {shape : GridShape} (dirty : Nat → Bool) (row column : Nat)
    (sweep : RectSweep shape) : Prop where
  grid : ∀ tileRow < shape.tilesY, ∀ tileColumn < shape.tilesX,
    (sweep.grid.dirty (tileRow * shape.tilesX + tileColumn) = true ↔
      dirty (tileRow * shape.tilesX + tileColumn) = true ∧
        ¬SweptBefore row column tileRow tileColumn)
  shown : ∀ point : Point, shape.inFrame point →
    ((∃ rect ∈ sweep.rects, rect.contains point.1 point.2 = true) ↔
      dirty (shape.tileAt point) = true ∧ SweptBefore row column
        (point.2 / shape.tileHeight) (point.1 / shape.tileWidth))
  inside : ∀ rect ∈ sweep.rects, shape.Holds rect
  above : ∀ run ∈ sweep.previousRuns, column ≤ run.start →
    ∃ rect, sweep.rects[run.rectIndex]? = some rect ∧
      shape.Reaches (min shape.frameHeight (row * shape.tileHeight)) run rect
  here : ∀ run ∈ sweep.currentRuns,
    ∃ rect, sweep.rects[run.rectIndex]? = some rect ∧
      shape.Reaches (shape.bottom row) run rect
  aboveOwn : ∀ run ∈ sweep.previousRuns, ∀ other ∈ sweep.previousRuns,
    run.rectIndex = other.rectIndex → run = other
  hereOwn : ∀ run ∈ sweep.currentRuns, ∀ other ∈ sweep.currentRuns,
    run.rectIndex = other.rectIndex → run = other
  apart : ∀ run ∈ sweep.previousRuns, column ≤ run.start →
    ∀ other ∈ sweep.currentRuns, run.rectIndex ≠ other.rectIndex

theorem inRun_iff_sweptBefore {row column stop tileRow tileColumn : Nat}
    (ordered : column ≤ stop) :
    SweptBefore row stop tileRow tileColumn ↔
      SweptBefore row column tileRow tileColumn ∨
        (tileRow = row ∧ column ≤ tileColumn ∧ tileColumn < stop) := by
  unfold SweptBefore
  omega

/-- The sweep takes the dirty tiles of a row from a column to a stop; the runs
above that are left may still be extended. -/
structure RunTaken (dirty : Nat → Bool) (row column stop : Nat)
    (sweep : RectSweep shape) (grid : ClientDirtyTileGrid shape)
    (previous : List RowRun) : Prop where
  forward : column < stop
  onGrid : stop ≤ shape.tilesX
  inGrid : row < shape.tilesY
  run : ∀ other, column ≤ other → other < stop →
    dirty (row * shape.tilesX + other) = true
  cleared : ∀ tile, grid.dirty tile = true ↔
    sweep.grid.dirty tile = true ∧ ∀ other, column ≤ other → other < stop →
      tile ≠ row * shape.tilesX + other
  fewer : ∀ run ∈ previous, run ∈ sweep.previousRuns

variable {dirty : Nat → Bool} {sweep : RectSweep shape}
  {grid : ClientDirtyTileGrid shape} {column stop : Nat}
  {previous : List RowRun}

theorem Swept.place {index : Nat} {rects : List Rect}
    (swept : Swept dirty row column sweep)
    (taken : RunTaken dirty row column stop sweep grid previous)
    (shown : ∀ point : Point, shape.inFrame point →
      ((∃ rect ∈ rects, rect.contains point.1 point.2 = true) ↔
        (∃ rect ∈ sweep.rects, rect.contains point.1 point.2 = true) ∨
          shape.InRun row column stop point))
    (inside : ∀ rect ∈ rects, shape.Holds rect)
    (placed : ∃ rect, rects[index]? = some rect ∧
      shape.Reaches (shape.bottom row) ⟨column, stop, index⟩ rect)
    (kept : ∀ other, other ≠ index → other < sweep.rects.length →
      rects[other]? = sweep.rects[other]?)
    (ownAbove : ∀ run ∈ sweep.previousRuns, stop ≤ run.start →
      run.rectIndex ≠ index)
    (ownHere : ∀ run ∈ sweep.currentRuns, run.rectIndex ≠ index) :
    Swept dirty row stop
      { grid := grid
        rects := rects
        previousRuns := previous
        currentRuns := sweep.currentRuns ++ [⟨column, stop, index⟩] } where
  grid := by
    intro tileRow inRows tileColumn inColumns
    rw [taken.cleared, swept.grid tileRow inRows tileColumn inColumns, and_assoc,
      inRun_iff_sweptBefore taken.forward.le, not_or]
    refine and_congr_right fun _ => and_congr_right fun _ => ⟨?_, ?_⟩
    · rintro fresh ⟨rfl, low, high⟩
      exact fresh tileColumn low high rfl
    · rintro fresh other low high same
      have located := index_injective inColumns
        (Nat.lt_of_lt_of_le high taken.onGrid) same
      exact fresh ⟨located.1, by omega, by omega⟩
  shown := by
    intro point framed
    rw [shown point framed, swept.shown point framed,
      inRun_iff_sweptBefore taken.forward.le, and_or_left]
    refine or_congr_right ⟨fun inRun => ⟨?_, inRun⟩, And.right⟩
    obtain ⟨located, low, high⟩ := inRun
    rw [GridShape.tileAt, located]
    exact taken.run _ low high
  inside := inside
  above := by
    intro other member later
    have member := taken.fewer other member
    obtain ⟨rect, found, reaches⟩ :=
      swept.above other member (taken.forward.le.trans later)
    exact ⟨rect, by rw [kept _ (ownAbove other member later)
      (List.getElem?_eq_some_iff.mp found).1, found], reaches⟩
  here := by
    intro other member
    rcases List.mem_append.mp member with old | new
    · obtain ⟨rect, found, reaches⟩ := swept.here other old
      exact ⟨rect, by rw [kept _ (ownHere other old)
        (List.getElem?_eq_some_iff.mp found).1, found], reaches⟩
    · cases List.mem_singleton.mp new
      exact placed
  aboveOwn := fun first member second member' =>
    swept.aboveOwn first (taken.fewer first member) second
      (taken.fewer second member')
  hereOwn := by
    intro first member second member' same
    rcases List.mem_append.mp member with old | new <;>
      rcases List.mem_append.mp member' with old' | new'
    · exact swept.hereOwn first old second old' same
    · cases List.mem_singleton.mp new'
      exact (ownHere first old same).elim
    · cases List.mem_singleton.mp new
      exact (ownHere second old' same.symm).elim
    · rw [List.mem_singleton.mp new, List.mem_singleton.mp new']
  apart := by
    intro first member later second member'
    rcases List.mem_append.mp member' with old | new
    · exact swept.apart first (taken.fewer first member)
        (taken.forward.le.trans later) second old
    · cases List.mem_singleton.mp new
      exact ownAbove first (taken.fewer first member) later

theorem GridShape.Reaches.holds {run : RowRun}
    (reaches : shape.Reaches (shape.bottom row) run rect)
    (high : rect.y < shape.bottom row) : shape.Holds rect := by
  have inside := GridShape.start_lt
    (Nat.lt_of_lt_of_le reaches.nonempty reaches.onGrid)
  have wider : run.start * shape.tileWidth + shape.tileWidth ≤
      run.stop * shape.tileWidth := by
    rw [← Nat.succ_mul]
    exact Nat.mul_le_mul_right _ reaches.nonempty
  have positive := shape.tile_width_pos
  have left := reaches.left
  have right := reaches.right
  have lower := reaches.lower
  have framed : shape.bottom row ≤ shape.frameHeight := Nat.min_le_left _ _
  exact ⟨by omega, by omega, by omega, by omega⟩

theorem GridShape.Reaches.extends {run : RowRun}
    (reaches : shape.Reaches (row * shape.tileHeight) run rect)
    (inGrid : row < shape.tilesY) :
    shape.Reaches (shape.bottom row) run
      { rect with height := shape.bottom row - rect.y } := by
  have below := GridShape.row_start_lt_bottom inGrid
  have lower := reaches.lower
  exact ⟨reaches.left, reaches.right, by dsimp only; omega, reaches.nonempty,
    reaches.onGrid⟩

theorem GridShape.Reaches.extend {run : RowRun}
    (reaches : shape.Reaches (row * shape.tileHeight) run rect)
    (inGrid : row < shape.tilesY) :
    shape.Holds { rect with height := shape.bottom row - rect.y } := by
  have below := GridShape.row_start_lt_bottom inGrid
  have lower := reaches.lower
  exact (reaches.extends inGrid).holds (by dsimp only; omega)

theorem Swept.openRect (swept : Swept dirty row column sweep)
    (taken : RunTaken dirty row column stop sweep grid previous) :
    Swept dirty row stop
      { grid := grid
        rects := sweep.rects ++ [shape.runRect row column stop]
        previousRuns := previous
        currentRuns :=
          sweep.currentRuns ++ [⟨column, stop, sweep.rects.length⟩] } := by
  have ⟨forward, onGrid, inGrid, _, _, _⟩ := taken
  have reaches := GridShape.runRect_reaches inGrid forward onGrid
    sweep.rects.length
  refine swept.place taken ?_ ?_ ⟨_, by simp, reaches⟩ ?_ ?_ ?_
  · intro point framed
    simp only [List.mem_append, List.mem_singleton, or_and_right, exists_or,
      exists_eq_left, GridShape.runRect_contains inGrid forward onGrid framed]
  · intro rect member
    rcases List.mem_append.mp member with old | new
    · exact swept.inside rect old
    · cases List.mem_singleton.mp new
      exact reaches.holds (GridShape.row_start_lt_bottom inGrid)
  · intro other _ old
    exact List.getElem?_append_left old
  · intro other member later
    obtain ⟨rect, found, _⟩ := swept.above other member (by omega)
    exact (List.getElem?_eq_some_iff.mp found).1.ne
  · intro other member
    obtain ⟨rect, found, _⟩ := swept.here other member
    exact (List.getElem?_eq_some_iff.mp found).1.ne

theorem exists_mem_modify {rects : List Rect} {index : Nat}
    (found : rects[index]? = some rect) (change : Rect → Rect)
    (wanted : Rect → Prop) (grows : wanted rect → wanted (change rect)) :
    (∃ other ∈ rects.modify index change, wanted other) ↔
      (∃ other ∈ rects, wanted other) ∨ wanted (change rect) := by
  simp only [List.mem_iff_getElem?, List.getElem?_modify]
  constructor
  · rintro ⟨other, ⟨position, holds⟩, wants⟩
    by_cases here : index = position
    · subst here
      rw [found] at holds
      simp only [if_true, Option.map_eq_map, Option.map_some,
        Option.some.injEq] at holds
      exact Or.inr (holds ▸ wants)
    · simp only [here, if_false, id_map'] at holds
      exact Or.inl ⟨other, ⟨position, by simpa using holds⟩, wants⟩
  · rintro (⟨other, ⟨position, holds⟩, wants⟩ | wants)
    · by_cases here : index = position
      · subst here
        rw [found, Option.some.injEq] at holds
        exact ⟨change rect, ⟨index, by simp [found]⟩, grows (holds ▸ wants)⟩
      · exact ⟨other, ⟨position, by simp [here, holds]⟩, wants⟩
    · exact ⟨change rect, ⟨index, by simp [found]⟩, wants⟩

theorem Swept.extendRect {above : RowRun}
    (swept : Swept dirty row above.start sweep)
    (taken : RunTaken dirty row above.start above.stop sweep grid previous)
    (member : above ∈ sweep.previousRuns) :
    Swept dirty row above.stop
      { grid := grid
        rects := sweep.rects.modify above.rectIndex fun rect =>
          { rect with height := shape.bottom row - rect.y }
        previousRuns := previous
        currentRuns := sweep.currentRuns ++
          [⟨above.start, above.stop, above.rectIndex⟩] } := by
  have inGrid := taken.inGrid
  obtain ⟨rect, found, reaches⟩ := swept.above above member le_rfl
  rw [Nat.min_eq_right (GridShape.row_start_lt inGrid).le] at reaches
  have reaches' := reaches.extends inGrid
  refine swept.place taken ?_ ?_ ⟨_, by simp [found], reaches'⟩ ?_ ?_ ?_
  · intro point framed
    have extended := GridShape.extend_contains inGrid reaches framed
    rw [exists_mem_modify found _ (·.contains point.1 point.2 = true)
      fun inside => extended.mpr (Or.inl inside), extended, ← or_assoc]
    refine or_congr_left (or_iff_left_of_imp fun inside => ?_)
    exact ⟨rect, List.mem_of_getElem? found, inside⟩
  · intro other among
    obtain ⟨position, holds⟩ := List.mem_iff_getElem?.mp among
    rw [List.getElem?_modify] at holds
    by_cases here : above.rectIndex = position
    · subst here
      simp only [found, if_true, Option.map_eq_map, Option.map_some,
        Option.some.injEq] at holds
      exact holds ▸ reaches.extend inGrid
    · exact swept.inside other (List.mem_of_getElem?
        (by simpa [here] using holds))
  · intro other apart _
    simp [Ne.symm apart]
  · intro other among later same
    have equal := swept.aboveOwn other among above member same
    subst equal
    exact absurd reaches.nonempty (by omega)
  · intro other among same
    exact swept.apart above member le_rfl other among same.symm

def Apart (rects : List Rect) : Prop :=
  ∀ (first second : Nat) (a b : Rect), first ≠ second →
    rects[first]? = some a → rects[second]? = some b → ∀ point : Point,
      a.contains point.1 point.2 = true → ¬b.contains point.1 point.2 = true

theorem GridShape.Holds.inFrame (holds : shape.Holds rect)
    (inside : rect.contains point.1 point.2 = true) :
    shape.inFrame point := by
  obtain ⟨-, -, insideX, insideY⟩ := holds
  rw [Rect.contains_iff] at inside
  constructor <;> omega

theorem Swept.not_inRun (swept : Swept dirty row column sweep)
    (member : rect ∈ sweep.rects)
    (inside : rect.contains point.1 point.2 = true) :
    ¬shape.InRun row column stop point := by
  rintro ⟨located, low, -⟩
  have framed := (swept.inside rect member).inFrame inside
  obtain before | ⟨-, before⟩ :=
    ((swept.shown point framed).mp ⟨rect, member, inside⟩).2
  · omega
  · omega

theorem Swept.grow_apart {rects : List Rect}
    (swept : Swept dirty row column sweep) (apart : Apart sweep.rects)
    (stop index : Nat)
    (grown : ∀ (position : Nat) (rect : Rect),
      rects[position]? = some rect → ∀ point : Point,
        rect.contains point.1 point.2 = true →
          (∃ old, sweep.rects[position]? = some old ∧
            old.contains point.1 point.2 = true) ∨
          position = index ∧ shape.InRun row column stop point) :
    Apart rects := by
  intro first second a b differ atFirst atSecond point inA inB
  obtain ⟨old, found, inside⟩ | ⟨rfl, inRun⟩ := grown first a atFirst point inA
  · obtain ⟨other, found', inside'⟩ | ⟨-, inRun⟩ :=
      grown second b atSecond point inB
    · exact apart first second old other differ found found' point inside
        inside'
    · exact swept.not_inRun (List.mem_of_getElem? found) inside inRun
  · obtain ⟨other, found, inside⟩ | ⟨same, -⟩ :=
      grown second b atSecond point inB
    · exact swept.not_inRun (List.mem_of_getElem? found) inside inRun
    · exact differ same.symm

theorem Swept.openRect_apart (swept : Swept dirty row column sweep)
    (apart : Apart sweep.rects)
    (taken : RunTaken dirty row column stop sweep grid previous) :
    Apart (sweep.rects ++ [shape.runRect row column stop]) := by
  obtain ⟨forward, onGrid, inGrid, -, -, -⟩ := taken
  refine swept.grow_apart apart stop sweep.rects.length ?_
  intro position rect found point inside
  by_cases old : position < sweep.rects.length
  · rw [List.getElem?_append_left old] at found
    exact .inl ⟨rect, found, inside⟩
  · rw [List.getElem?_append_right (Nat.le_of_not_lt old),
      List.getElem?_singleton] at found
    split at found
    · obtain rfl := Option.some.inj found
      have holds := (GridShape.runRect_reaches inGrid forward onGrid 0).holds
        (GridShape.row_start_lt_bottom inGrid)
      exact .inr ⟨by omega, (GridShape.runRect_contains inGrid forward onGrid
        (holds.inFrame inside)).mp inside⟩
    · cases found

theorem Swept.extendRect_apart {above : RowRun}
    (swept : Swept dirty row above.start sweep) (apart : Apart sweep.rects)
    (inGrid : row < shape.tilesY) (member : above ∈ sweep.previousRuns) :
    Apart (sweep.rects.modify above.rectIndex fun rect =>
      { rect with height := shape.bottom row - rect.y }) := by
  obtain ⟨old, atIndex, reaches⟩ := swept.above above member le_rfl
  rw [Nat.min_eq_right (GridShape.row_start_lt inGrid).le] at reaches
  refine swept.grow_apart apart above.stop above.rectIndex ?_
  intro position rect found point inside
  rw [List.getElem?_modify] at found
  by_cases here : above.rectIndex = position
  · subst here
    simp only [atIndex, if_true, Option.map_eq_map, Option.map_some,
      Option.some.injEq] at found
    subst found
    have framed := (reaches.extend inGrid).inFrame inside
    exact ((GridShape.extend_contains inGrid reaches framed).mp inside).imp
      (fun inside => ⟨old, atIndex, inside⟩) fun inRun => ⟨rfl, inRun⟩
  · exact .inl ⟨rect, by simpa [here] using found, inside⟩

theorem Swept.placeRun (swept : Swept dirty row column sweep)
    (apart : Apart sweep.rects)
    (taken : RunTaken dirty row column stop sweep grid previous) :
    Swept dirty row stop
        { grid := grid
          rects := (shape.placeRun row column stop sweep.rects previous).1
          previousRuns := previous
          currentRuns := sweep.currentRuns ++ [⟨column, stop,
            (shape.placeRun row column stop sweep.rects previous).2⟩] } ∧
      Apart (shape.placeRun row column stop sweep.rects previous).1 := by
  cases previous with
  | nil => exact ⟨swept.openRect taken, swept.openRect_apart apart taken⟩
  | cons above rest =>
      rw [GridShape.placeRun]
      by_cases same : above.start = column ∧ above.stop = stop
      · rw [if_pos same]
        obtain ⟨rfl, rfl⟩ := same
        have member := taken.fewer above List.mem_cons_self
        exact ⟨swept.extendRect taken member,
          swept.extendRect_apart apart taken.inGrid member⟩
      · rw [if_neg same]
        exact ⟨swept.openRect taken, swept.openRect_apart apart taken⟩

theorem Swept.skip (swept : Swept dirty row column sweep)
    (inGrid : row < shape.tilesY) (inRow : column < shape.tilesX)
    (clean : ¬sweep.grid.dirty (row * shape.tilesX + column) = true) :
    Swept dirty row (column + 1) sweep := by
  have undirty : ¬dirty (row * shape.tilesX + column) = true := fun held =>
    clean ((swept.grid row inGrid column inRow).mpr
      ⟨held, by unfold SweptBefore; omega⟩)
  refine ⟨fun tileRow inRows tileColumn inColumns => ?_,
    fun point framed => ?_, swept.inside,
    fun run member later => swept.above run member (by omega), swept.here,
    swept.aboveOwn, swept.hereOwn,
    fun run member later => swept.apart run member (by omega)⟩
  · rw [swept.grid tileRow inRows tileColumn inColumns,
      inRun_iff_sweptBefore (Nat.le_succ column), not_or]
    refine and_congr_right fun held => (and_iff_left ?_).symm
    rintro ⟨rfl, low, high⟩
    obtain rfl : tileColumn = column := by omega
    exact undirty held
  · rw [swept.shown point framed, inRun_iff_sweptBefore (Nat.le_succ column)]
    refine and_congr_right fun held => (or_iff_left ?_).symm
    rintro ⟨located, low, high⟩
    rw [GridShape.tileAt, located,
      (by omega : point.1 / shape.tileWidth = column)] at held
    exact undirty held

theorem Swept.sweepRow (inGrid : row < shape.tilesY) (remaining column : Nat)
    (sweep : RectSweep shape) (swept : Swept dirty row column sweep)
    (apart : Apart sweep.rects) (onGrid : column ≤ shape.tilesX)
    (enough : shape.tilesX ≤ column + remaining) :
    Swept dirty row shape.tilesX (sweepRow row remaining column sweep) ∧
      Apart (sweepRow row remaining column sweep).rects := by
  induction remaining generalizing column sweep with
  | zero =>
      obtain rfl : column = shape.tilesX := by omega
      exact ⟨swept, apart⟩
  | succ remaining ih =>
      unfold Client.sweepRow
      by_cases finished : column ≥ shape.tilesX
      · rw [if_pos finished]
        obtain rfl : column = shape.tilesX := by omega
        exact ⟨swept, apart⟩
      · rw [if_neg finished]
        by_cases marked :
            sweep.grid.dirty (row * shape.tilesX + column) = true
        · rw [if_pos marked]
          obtain ⟨width, hwidth⟩ : ∃ width, shape.tilesX - column = width + 1 :=
            ⟨shape.tilesX - column - 1, by omega⟩
          have forward := lt_clearRun width inGrid (by omega) marked
          obtain ⟨_, bounded, run, cleared⟩ := clearRun_spec inGrid
            (width + 1) column sweep.grid (by omega)
          have dirtyRun (other : Nat) (low : column ≤ other) (high : other < _) :=
            ((swept.grid row inGrid other (by omega)).mp (run other low high)).1
          have placed := swept.placeRun apart
            ⟨forward, by omega, inGrid, dirtyRun, cleared,
              fun run => (List.dropWhile_sublist
                fun run : RowRun => run.start < column).mem⟩
          rw [hwidth]
          exact ih _ _ placed.1 placed.2 (by omega) (by omega)
        · rw [if_neg marked]
          exact ih (column + 1) sweep (swept.skip inGrid (by omega) marked)
            apart (by omega) (by omega)

theorem Swept.nextRow (swept : Swept dirty row shape.tilesX sweep) :
    Swept dirty (row + 1) 0 sweep.nextRow := by
  have rows : ∀ tileRow tileColumn, tileColumn < shape.tilesX →
      (SweptBefore (row + 1) 0 tileRow tileColumn ↔
        SweptBefore row shape.tilesX tileRow tileColumn) := by
    intro tileRow tileColumn inColumns
    unfold SweptBefore
    omega
  refine ⟨fun tileRow inRows tileColumn inColumns => ?_,
    fun point framed => ?_, swept.inside, fun run member _ => ?_,
    fun run member => absurd member List.not_mem_nil, swept.hereOwn,
    fun run member => absurd member List.not_mem_nil,
    fun run _ _ other member => absurd member List.not_mem_nil⟩
  · rw [rows _ _ inColumns]
    exact swept.grid tileRow inRows tileColumn inColumns
  · rw [rows _ _ (shape.column_lt framed.1)]
    exact swept.shown point framed
  · exact swept.here run member

/-! ## The whole grid -/

theorem swept_start (grid : ClientDirtyTileGrid shape) :
    Swept grid.dirty 0 0 ⟨grid, [], [], []⟩ := by
  refine ⟨fun tileRow _ tileColumn _ => ?_, fun point _ => ?_, ?_, ?_, ?_, ?_,
    ?_, ?_⟩
  · simp [SweptBefore]
  · simp [SweptBefore]
  all_goals simp

theorem swept_rows (grid : ClientDirtyTileGrid shape) (rows : Nat)
    (inGrid : rows ≤ shape.tilesY) :
    Swept grid.dirty rows 0 ((List.range rows).foldl
        (fun sweep row => (sweepRow row shape.tilesX 0 sweep).nextRow)
        ⟨grid, [], [], []⟩) ∧
      Apart ((List.range rows).foldl
        (fun sweep row => (sweepRow row shape.tilesX 0 sweep).nextRow)
        ⟨grid, [], [], []⟩).rects := by
  induction rows with
  | zero =>
      refine ⟨swept_start grid, fun first second a b _ atFirst => ?_⟩
      cases atFirst
  | succ rows ih =>
      rw [List.range_succ, List.foldl_append]
      obtain ⟨swept, apart⟩ := ih (by omega)
      have row := swept.sweepRow (by omega) shape.tilesX 0 _ apart
        (Nat.zero_le _) (by omega)
      exact ⟨row.1.nextRow, row.2⟩

namespace ClientDirtyTileGrid

variable {shape : GridShape} (grid : ClientDirtyTileGrid shape)

theorem not_dirty_of_count (none : grid.dirtyTileCount = 0) {point : Point}
    (framed : shape.inFrame point) :
    grid.dirty (shape.tileAt point) = false :=
  dirtyTileCount_eq_zero.mp none _
    (shape.index_lt (shape.column_lt framed.1) (shape.row_lt framed.2))

theorem takeRects_shown {point : Point} (framed : shape.inFrame point) :
    (∃ rect ∈ grid.takeRects.1, rect.contains point.1 point.2 = true) ↔
      grid.dirty (shape.tileAt point) = true := by
  unfold takeRects
  split
  next none => simp [grid.not_dirty_of_count none framed]
  next =>
    rw [(swept_rows grid shape.tilesY le_rfl).1.shown point framed]
    exact and_iff_left (Or.inl (shape.row_lt framed.2))

theorem takeRects_inside {rect : Rect} (member : rect ∈ grid.takeRects.1) :
    shape.Holds rect := by
  unfold takeRects at member
  split at member
  next => exact absurd member List.not_mem_nil
  next => exact (swept_rows grid shape.tilesY le_rfl).1.inside rect member

theorem takeRects_apart : Apart grid.takeRects.1 := by
  unfold takeRects
  split
  next =>
    intro first second a b _ atFirst
    cases atFirst
  next => exact (swept_rows grid shape.tilesY le_rfl).2

theorem takeRects_clean {tile : Nat} (inside : tile < shape.totalTiles) :
    grid.takeRects.2.dirty tile = false := by
  unfold takeRects
  split
  next none => exact dirtyTileCount_eq_zero.mp none tile inside
  next =>
    have columns : 0 < shape.tilesX := Nat.pos_of_mul_pos_right
      (Nat.lt_of_le_of_lt (Nat.zero_le _) inside)
    have row : tile / shape.tilesX < shape.tilesY := Nat.div_lt_of_lt_mul inside
    have swept := (swept_rows grid shape.tilesY le_rfl).1.grid _ row _
      (Nat.mod_lt tile columns)
    rw [Nat.div_add_mod'] at swept
    exact Bool.eq_false_iff.mpr fun held => (swept.mp held).2 (Or.inl row)

/-! ## Marks and what is taken -/

/-- The tile holds a pixel of a marked rectangle, inside the frame. -/
def Touched (shape : GridShape) (marks : List Rect) (tile : Nat) : Prop :=
  ∃ rect ∈ marks, ∃ point : Point, shape.inFrame point ∧
    rect.contains point.1 point.2 = true ∧ shape.tileAt point = tile

def markRects (shape : GridShape) (marks : List Rect) :
    ClientDirtyTileGrid shape :=
  marks.foldl (fun grid rect => (grid.markRect rect).getD grid) clean

theorem clampDirtyRect_cases (shape : GridShape) (rect : Rect) :
    (clampDirtyRect shape.frameWidth shape.frameHeight rect = none ∧
      ∀ point : Point, shape.inFrame point →
        ¬rect.contains point.1 point.2 = true) ∨
    ∃ visible,
      clampDirtyRect shape.frameWidth shape.frameHeight rect = some visible ∧
      shape.Holds visible ∧ ∀ point : Point,
        visible.contains point.1 point.2 = true ↔
          shape.inFrame point ∧ rect.contains point.1 point.2 = true := by
  have narrow := shape.width_le
  have low := shape.height_le
  rw [clampDirtyRect]
  split
  next outside =>
    refine .inl ⟨rfl, fun point framed inside => ?_⟩
    rw [Rect.contains_iff] at inside
    have left := framed.1
    have top := framed.2
    omega
  next meets =>
    refine .inr ⟨_, rfl, ⟨?_, ?_, ?_, ?_⟩, fun point => ?_⟩
    case refine_5 =>
      rw [Rect.contains_iff, Rect.contains_iff, GridShape.inFrame]
      dsimp only
      omega
    all_goals dsimp only; omega

theorem markRect_dirty (rect : Rect) (tile : Nat) :
    ((grid.markRect rect).getD grid).dirty tile = true ↔
      grid.dirty tile = true ∨ Touched shape [rect] tile := by
  obtain ⟨none, outside⟩ | ⟨visible, some, holds, same⟩ :=
    clampDirtyRect_cases shape rect
  · rw [markRect, none, Option.map_none, Option.getD_none]
    refine (or_iff_left ?_).symm
    rintro ⟨other, member, point, framed, inside, -⟩
    obtain rfl := List.mem_singleton.mp member
    exact outside point framed inside
  · obtain ⟨marked, result, dirty⟩ := markRect_eq_some grid holds
    have clamped : grid.markRect rect = grid.markRect visible := by
      rw [markRect, markRect, some, clampDirtyRect_of_holds holds]
    rw [clamped, result, Option.getD_some, dirty]
    refine or_congr_right ⟨?_, ?_⟩
    · rintro ⟨point, inside, located⟩
      obtain ⟨framed, original⟩ := (same point).mp inside
      exact ⟨rect, List.mem_singleton_self _, point, framed, original, located⟩
    · rintro ⟨other, member, point, framed, inside, located⟩
      obtain rfl := List.mem_singleton.mp member
      exact ⟨point, (same point).mpr ⟨framed, inside⟩, located⟩

theorem foldl_markRect_dirty (marks : List Rect) (tile : Nat) :
    (marks.foldl (fun grid rect => (grid.markRect rect).getD grid)
        grid).dirty tile = true ↔
      grid.dirty tile = true ∨ Touched shape marks tile := by
  induction marks generalizing grid with
  | nil => simp [Touched]
  | cons rect rest ih =>
      rw [List.foldl_cons, ih, markRect_dirty, or_assoc]
      refine or_congr_right ?_
      simp [Touched]

structure TakeLaw (shape : GridShape) (marks : List Rect) : Prop where
  disjoint : Apart (markRects shape marks).takeRects.1
  inside : ∀ rect ∈ (markRects shape marks).takeRects.1,
    rect.x + rect.width ≤ shape.frameWidth ∧
      rect.y + rect.height ≤ shape.frameHeight
  union : ∀ point : Point,
    (∃ rect ∈ (markRects shape marks).takeRects.1,
      rect.contains point.1 point.2 = true) ↔
        shape.inFrame point ∧ Touched shape marks (shape.tileAt point)
  count : (markRects shape marks).dirtyTileCount =
    {tile | tile < shape.totalTiles ∧ Touched shape marks tile}.ncard
  emptied : (markRects shape marks).takeRects.2.dirtyTileCount = 0

theorem count_eq_ncard :
    grid.dirtyTileCount =
      {tile | tile < shape.totalTiles ∧ grid.dirty tile = true}.ncard := by
  have same : {tile | tile < shape.totalTiles ∧ grid.dirty tile = true} =
      ↑((Finset.range shape.totalTiles).filter (grid.dirty · = true)) := by
    ext tile
    simp
  rw [grid.count_eq, same, Set.ncard_coe_finset, List.countP_eq_length_filter]
  simp only [Finset.card_def, Finset.filter_val, Finset.range_val,
    Multiset.range, Multiset.filter_coe, Multiset.coe_card,
    Bool.decide_eq_true]

theorem takeRects_exact (shape : GridShape) (marks : List Rect) :
    TakeLaw shape marks := by
  have dirty : ∀ tile, (markRects shape marks).dirty tile = true ↔
      Touched shape marks tile := by
    intro tile
    rw [markRects, foldl_markRect_dirty]
    exact or_iff_right Bool.false_ne_true
  constructor
  case disjoint => exact takeRects_apart _
  case inside =>
    intro rect member
    obtain ⟨-, -, insideX, insideY⟩ := takeRects_inside _ member
    exact ⟨insideX, insideY⟩
  case union =>
    intro point
    constructor
    · rintro ⟨rect, member, inside⟩
      have framed := (takeRects_inside _ member).inFrame inside
      exact ⟨framed, (dirty _).mp
        ((takeRects_shown _ framed).mp ⟨rect, member, inside⟩)⟩
    · rintro ⟨framed, touched⟩
      exact (takeRects_shown _ framed).mpr ((dirty _).mpr touched)
  case count =>
    rw [count_eq_ncard]
    simp only [dirty]
  case emptied =>
    exact dirtyTileCount_eq_zero.mpr fun tile inside =>
      takeRects_clean _ inside

end ClientDirtyTileGrid

end WayDisplay.Client
