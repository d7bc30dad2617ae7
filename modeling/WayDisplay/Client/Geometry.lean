import Mathlib.Data.List.Basic
import WayDisplay.Common.Tile

/-!
The client's view of the display: the validated configuration, the visible
rectangle of a wire tile and the base tiles under it.

The base tiles a rectangle is charged to are exactly those with a pixel in it.
A wire tile whose sides are multiples of the base tile's covers each of them
wholly; a smaller one does not.
-/

namespace WayDisplay.Client

open Common

abbrev Point := Nat × Nat

/-! ## Configuration -/

def maxRenderWidth : Nat := 4096

def maxRenderHeight : Nat := 2160

theorem one_le_maxRenderWidth : 1 ≤ maxRenderWidth := by decide

theorem one_le_maxRenderHeight : 1 ≤ maxRenderHeight := by decide

/-- The display of a configuration that
`client_normalize_and_validate_server_config` admits. -/
structure ServerConfig where
  width : Nat
  height : Nat
  tile : TileSize
  width_pos : 0 < width
  height_pos : 0 < height
  width_le : width ≤ maxRenderWidth
  height_le : height ≤ maxRenderHeight

theorem tileSize_width_ge (size : TileSize) : 16 ≤ size.width := by
  cases size <;> decide

theorem tileSize_height_ge (size : TileSize) : 16 ≤ size.height := by
  cases size <;> decide

theorem tilesAlong_of_le {length tileLength : Nat} (positive : 0 < length)
    (bounded : length ≤ maxRenderWidth) (large : 16 ≤ tileLength) :
    tilesAlong length tileLength =
      (length + tileLength - 1) / tileLength := by
  refine tilesAlong_eq positive (by omega) ?_
  have few : (length + tileLength - 1) / tileLength ≤ length := by
    rw [← Nat.lt_succ_iff, Nat.div_lt_iff_lt_mul (by omega), Nat.succ_mul]
    have wide := Nat.le_mul_of_pos_right length (by omega : 0 < tileLength)
    omega
  exact Nat.le_trans few (Nat.le_trans bounded (by decide))

/-- A side has a tile number `count` if that tile starts before its end. -/
theorem lt_tileCount_iff {length tileLength count : Nat}
    (positive : 0 < tileLength) :
    count < (length + tileLength - 1) / tileLength ↔
      count * tileLength < length := by
  rw [Nat.lt_div_iff_mul_lt positive]
  omega

theorem index_injective {tilesX row row' column column' : Nat}
    (inRow : column < tilesX) (inRow' : column' < tilesX)
    (same : row * tilesX + column = row' * tilesX + column') :
    row = row' ∧ column = column' := by
  have positive : 0 < tilesX := by omega
  have quotient := congrArg (· / tilesX) same
  have remainder := congrArg (· % tilesX) same
  simp only [Nat.add_comm _ column, Nat.add_comm _ column',
    Nat.add_mul_div_right _ _ positive, Nat.add_mul_mod_self_right,
    Nat.div_eq_of_lt inRow, Nat.div_eq_of_lt inRow', Nat.mod_eq_of_lt inRow,
    Nat.mod_eq_of_lt inRow', Nat.zero_add] at quotient remainder
  exact ⟨quotient, remainder⟩

namespace ServerConfig

variable (config : ServerConfig)

def tilesX : Nat := tilesForWidthWithTile config.width config.tile.width

def tilesY : Nat := tilesForHeightWithTile config.height config.tile.height

def totalTiles : Nat := config.tilesX * config.tilesY

def onDisplay (point : Point) : Prop :=
  point.1 < config.width ∧ point.2 < config.height

instance (point : Point) : Decidable (config.onDisplay point) :=
  inferInstanceAs (Decidable (_ ∧ _))

def tileAt (point : Point) : Nat :=
  point.2 / config.tile.height * config.tilesX + point.1 / config.tile.width

theorem tile_width_pos : 0 < config.tile.width := by
  have large := tileSize_width_ge config.tile
  omega

theorem tile_height_pos : 0 < config.tile.height := by
  have large := tileSize_height_ge config.tile
  omega

theorem tilesX_eq : config.tilesX =
    (config.width + config.tile.width - 1) / config.tile.width :=
  tilesAlong_of_le config.width_pos config.width_le
    (tileSize_width_ge config.tile)

theorem tilesY_eq : config.tilesY =
    (config.height + config.tile.height - 1) / config.tile.height :=
  tilesAlong_of_le config.height_pos
    (Nat.le_trans config.height_le (by decide)) (tileSize_height_ge config.tile)

theorem column_lt {x : Nat} (inside : x < config.width) :
    x / config.tile.width < config.tilesX := by
  rw [tilesX_eq, lt_tileCount_iff config.tile_width_pos]
  exact Nat.lt_of_le_of_lt (Nat.div_mul_le_self x _) inside

theorem row_lt {y : Nat} (inside : y < config.height) :
    y / config.tile.height < config.tilesY := by
  rw [tilesY_eq, lt_tileCount_iff config.tile_height_pos]
  exact Nat.lt_of_le_of_lt (Nat.div_mul_le_self y _) inside

theorem tileAt_lt {point : Point} (shown : config.onDisplay point) :
    config.tileAt point < config.totalTiles := by
  have column := config.column_lt shown.1
  have row := config.row_lt shown.2
  calc config.tileAt point
      < (point.2 / config.tile.height + 1) * config.tilesX := by
        rw [tileAt, Nat.add_mul]
        omega
    _ ≤ config.tilesY * config.tilesX := Nat.mul_le_mul_right _ row
    _ = config.totalTiles := Nat.mul_comm _ _

end ServerConfig

/-! ## Blocks of base tiles -/

theorem mem_idsFrom {start count id : Nat} :
    id ∈ idsFrom start count ↔ start ≤ id ∧ id < start + count := by
  simp only [idsFrom, List.mem_map, List.mem_range]
  constructor
  · rintro ⟨offset, small, rfl⟩
    omega
  · rintro ⟨above, below⟩
    exact ⟨id - start, by omega, by omega⟩

def ServerConfig.blockIds (config : ServerConfig)
    (firstX lastX firstY lastY : Nat) : List Nat :=
  ((idsFrom firstY (lastY + 1 - firstY)).flatMap fun row =>
    (idsFrom firstX (lastX + 1 - firstX)).map fun column =>
      row * config.tilesX + column).filter (· < config.totalTiles)

variable {config : ServerConfig}

theorem mem_blockIds {firstX lastX firstY lastY tile : Nat} :
    tile ∈ config.blockIds firstX lastX firstY lastY ↔
      tile < config.totalTiles ∧ ∃ row column,
        (firstY ≤ row ∧ row ≤ lastY) ∧ (firstX ≤ column ∧ column ≤ lastX) ∧
          row * config.tilesX + column = tile := by
  simp only [ServerConfig.blockIds, List.mem_filter, List.mem_flatMap,
    List.mem_map, mem_idsFrom, decide_eq_true_eq]
  constructor
  · rintro ⟨⟨row, rows, column, columns, same⟩, valid⟩
    exact ⟨valid, row, column, by omega, by omega, same⟩
  · rintro ⟨valid, row, column, rows, columns, same⟩
    exact ⟨⟨row, by omega, column, by omega, same⟩, valid⟩

theorem between_div_iff {size first stop column : Nat} (positive : 0 < size)
    (nonempty : first < stop) :
    first / size ≤ column ∧ column ≤ (stop - 1) / size ↔
      ∃ x, first ≤ x ∧ x < stop ∧ x / size = column := by
  constructor
  · rintro ⟨above, below⟩
    rw [Nat.div_le_iff_le_mul_add_pred positive] at above
    rw [Nat.le_div_iff_mul_le positive] at below
    refine ⟨max first (column * size), by omega, by omega, ?_⟩
    refine Nat.div_eq_of_lt_le (by omega) ?_
    rw [Nat.succ_mul]
    rw [Nat.mul_comm] at above
    omega
  · rintro ⟨x, above, below, rfl⟩
    exact ⟨Nat.div_le_div_right above, Nat.div_le_div_right (by omega)⟩

/-! ## Wire tiles -/

def tileUploadGeometry (config : ServerConfig) (tile : WireTile) :
    Option Rect :=
  let tilesX := tilesForWidthWithTile config.width tile.size.width
  let tilesY := tilesForHeightWithTile config.height tile.size.height
  if tilesX = 0 ∨ tilesY = 0 ∨ tile.tileId ≥ tilesX * tilesY then none
  else
    let x := tile.tileId % tilesX * tile.size.width
    let y := tile.tileId / tilesX * tile.size.height
    if x ≥ config.width ∨ y ≥ config.height then none
    else
      let rect : Rect := ⟨x, y, min tile.size.width (config.width - x),
        min tile.size.height (config.height - y)⟩
      if rect.width ≠ 0 ∧ rect.height ≠ 0 then some rect else none

def wireTileBaseIds (config : ServerConfig) (tile : WireTile) : List Nat :=
  let tilesX := tilesForWidthWithTile config.width tile.size.width
  let x := tileStartXForTile tile.tileId tilesX tile.size.width
  let y := tileStartYForTile tile.tileId tilesX tile.size.height
  let width := tileVisibleWidthForTile config.width tile.tileId tilesX
    tile.size.width
  let height := tileVisibleHeightForTile config.height tile.tileId tilesX
    tile.size.height
  if tilesX = 0 ∨ width = 0 ∨ height = 0 then []
  else
    config.blockIds (x / config.tile.width)
      (min ((x + width - 1) / config.tile.width) (config.tilesX - 1))
      (y / config.tile.height)
      (min ((y + height - 1) / config.tile.height) (config.tilesY - 1))

def forEachBaseTileCovered (config : ServerConfig) (tile : WireTile) :
    List Nat :=
  wireTileBaseIds config tile

def forEachCompletedBaseTile (config : ServerConfig) (tile : WireTile) :
    List Nat :=
  wireTileBaseIds config tile

structure Visible (config : ServerConfig) (rect : Rect) : Prop where
  wide : 0 < rect.width
  high : 0 < rect.height
  insideX : rect.x + rect.width ≤ config.width
  insideY : rect.y + rect.height ≤ config.height

theorem Visible.onDisplay {rect : Rect} (visible : Visible config rect)
    {point : Point} (inside : rect.contains point.1 point.2 = true) :
    config.onDisplay point := by
  obtain ⟨_, right, _, bottom⟩ := Rect.contains_iff.mp inside
  exact ⟨Nat.lt_of_lt_of_le right visible.insideX,
    Nat.lt_of_lt_of_le bottom visible.insideY⟩

/-- What the geometry of a wire tile says: its corner is a multiple of its
size, and it is clipped to the display. -/
structure Shows (config : ServerConfig) (tile : WireTile) (rect : Rect) :
    Prop where
  columns : tilesForWidthWithTile config.width tile.size.width ≠ 0
  x_eq : rect.x = tile.tileId %
    tilesForWidthWithTile config.width tile.size.width * tile.size.width
  y_eq : rect.y = tile.tileId /
    tilesForWidthWithTile config.width tile.size.width * tile.size.height
  width_eq : rect.width = min tile.size.width (config.width - rect.x)
  height_eq : rect.height = min tile.size.height (config.height - rect.y)
  x_lt : rect.x < config.width
  y_lt : rect.y < config.height

theorem shows_of_geometry {tile : WireTile} {rect : Rect}
    (placed : tileUploadGeometry config tile = some rect) :
    Shows config tile rect := by
  simp only [tileUploadGeometry] at placed
  split_ifs at placed with numbered outside _
  cases Option.some.inj placed
  exact ⟨by omega, rfl, rfl, rfl, rfl, by dsimp only; omega,
    by dsimp only; omega⟩

theorem Shows.visible {tile : WireTile} {rect : Rect}
    (shows : Shows config tile rect) : Visible config rect := by
  have wide := tileSize_width_ge tile.size
  have high := tileSize_height_ge tile.size
  have width := shows.width_eq
  have height := shows.height_eq
  have left := shows.x_lt
  have top := shows.y_lt
  exact ⟨by omega, by omega, by omega, by omega⟩

theorem visibleLength_eq {length start tileLength : Nat}
    (inside : start < length) :
    visibleLength length start tileLength =
      min tileLength (length - start) := by
  unfold visibleLength
  rw [if_neg (by omega)]
  split <;> omega

theorem tilesForWidthWithTile_eq (display : ServerConfig) (size : TileSize) :
    tilesForWidthWithTile display.width size.width =
      (display.width + size.width - 1) / size.width :=
  tilesAlong_of_le display.width_pos display.width_le (tileSize_width_ge size)

theorem tilesForHeightWithTile_eq (display : ServerConfig) (size : TileSize) :
    tilesForHeightWithTile display.height size.height =
      (display.height + size.height - 1) / size.height :=
  tilesAlong_of_le display.height_pos
    (Nat.le_trans display.height_le (by decide)) (tileSize_height_ge size)

theorem tiles_le_of_display (display : ServerConfig) (size : TileSize) :
    tilesForWidthWithTile display.width size.width *
      tilesForHeightWithTile display.height size.height ≤ 34560 := by
  have wide := tileSize_width_ge size
  have high := tileSize_height_ge size
  have maxWidth : display.width ≤ 4096 := display.width_le
  have maxHeight : display.height ≤ 2160 := display.height_le
  have columns : tilesForWidthWithTile display.width size.width ≤ 256 := by
    rw [tilesForWidthWithTile_eq]
    refine Nat.le_of_lt_succ ((Nat.div_lt_iff_lt_mul (by omega)).mpr ?_)
    omega
  have rows : tilesForHeightWithTile display.height size.height ≤ 135 := by
    rw [tilesForHeightWithTile_eq]
    refine Nat.le_of_lt_succ ((Nat.div_lt_iff_lt_mul (by omega)).mpr ?_)
    omega
  exact Nat.mul_le_mul columns rows

theorem tileUploadGeometry_isSome {display : ServerConfig} {tile : WireTile}
    (inGrid : tile.tileId <
      tilesForWidthWithTile display.width tile.size.width *
        tilesForHeightWithTile display.height tile.size.height) :
    (tileUploadGeometry display tile).isSome = true := by
  have wide := tileSize_width_ge tile.size
  have high := tileSize_height_ge tile.size
  have columns : tilesForWidthWithTile display.width tile.size.width ≠ 0 := by
    intro zero
    rw [zero, Nat.zero_mul] at inGrid
    exact Nat.not_lt_zero _ inGrid
  have rows : tilesForHeightWithTile display.height tile.size.height ≠ 0 := by
    intro zero
    rw [zero, Nat.mul_zero] at inGrid
    exact Nat.not_lt_zero _ inGrid
  have x : tile.tileId % tilesForWidthWithTile display.width tile.size.width *
      tile.size.width < display.width := by
    rw [← lt_tileCount_iff (by omega), ← tilesForWidthWithTile_eq]
    exact Nat.mod_lt _ (by omega)
  have y : tile.tileId / tilesForWidthWithTile display.width tile.size.width *
      tile.size.height < display.height := by
    rw [← lt_tileCount_iff (by omega), ← tilesForHeightWithTile_eq]
    exact Nat.div_lt_of_lt_mul inGrid
  unfold tileUploadGeometry
  dsimp only
  rw [if_neg (by omega), if_neg (by omega), if_pos (by omega)]
  rfl

theorem inside_clipped_iff {size length index x : Nat} (positive : 0 < size)
    (onSide : x < length) :
    index * size ≤ x ∧ x < index * size + min size (length - index * size) ↔
      x / size = index := by
  constructor
  · rintro ⟨above, below⟩
    exact Nat.div_eq_of_lt_le above (by rw [Nat.succ_mul]; omega)
  · rintro rfl
    have lower := Nat.div_mul_le_self x size
    have upper := Nat.lt_div_mul_add positive (a := x)
    omega

/-! ## Base tiles of a list of rectangles -/

def clampDirtyRect (frameWidth frameHeight : Nat) (rect : Rect) : Option Rect :=
  if rect.width = 0 ∨ rect.height = 0 ∨ frameWidth > uint16Limit ∨
      frameHeight > uint16Limit ∨ rect.x ≥ frameWidth ∨ rect.y ≥ frameHeight
  then none
  else
    some ⟨rect.x, rect.y, min rect.width (frameWidth - rect.x),
      min rect.height (frameHeight - rect.y)⟩

def collectBaseTileIdsForRects (config : ServerConfig) (rects : List Rect) :
    List Nat :=
  rects.flatMap fun rect =>
    if rect.width = 0 ∨ rect.height = 0 ∨ rect.x ≥ config.width ∨
        rect.y ≥ config.height then []
    else
      config.blockIds (rect.x / config.tile.width)
        (min ((min config.width (rect.x + rect.width) - 1) / config.tile.width)
          (config.tilesX - 1))
        (rect.y / config.tile.height)
        (min ((min config.height (rect.y + rect.height) - 1) /
          config.tile.height) (config.tilesY - 1))

end WayDisplay.Client
