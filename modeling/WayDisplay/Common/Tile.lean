import Mathlib.Algebra.Order.Ring.Nat
import Mathlib.Data.List.Basic

/-!
Tile grids (`wd_tile.c`).

A display is cut into base tiles of 16 by 16 pixels, numbered row by row.  On
the wire a tile may be larger; it then covers several base tiles.  The tiles at
the right and bottom edge are clipped to the display.
-/

namespace WayDisplay.Common

def uint16Limit : Nat := 2 ^ 16 - 1

/-! ## Grids -/

/-- Tiles along one side; zero stands for a side that cannot be numbered. -/
def tilesAlong (length tileLength : Nat) : Nat :=
  if length = 0 ∨ tileLength = 0 then 0
  else if (length + tileLength - 1) / tileLength > uint16Limit then 0
  else (length + tileLength - 1) / tileLength

theorem tilesAlong_eq {length tileLength : Nat} (length_pos : 0 < length)
    (tile_pos : 0 < tileLength)
    (fits : (length + tileLength - 1) / tileLength ≤ uint16Limit) :
    tilesAlong length tileLength =
      (length + tileLength - 1) / tileLength := by
  rw [tilesAlong, if_neg (by omega), if_neg (by omega)]

def tilesForWidthWithTile (width tileWidth : Nat) : Nat :=
  tilesAlong width tileWidth

def tilesForHeightWithTile (height tileHeight : Nat) : Nat :=
  tilesAlong height tileHeight

def tileXFor (tileId tilesX : Nat) : Nat :=
  if tilesX = 0 then 0 else tileId % tilesX

def tileYFor (tileId tilesX : Nat) : Nat :=
  if tilesX = 0 then 0 else tileId / tilesX

def tileStartXForTile (tileId tilesX tileWidth : Nat) : Nat :=
  tileXFor tileId tilesX * tileWidth

def tileStartYForTile (tileId tilesX tileHeight : Nat) : Nat :=
  tileYFor tileId tilesX * tileHeight

def visibleLength (displayLength start tileLength : Nat) : Nat :=
  if start ≥ displayLength then 0
  else if displayLength - start < tileLength then displayLength - start
  else tileLength

def tileVisibleWidthForTile (displayWidth tileId tilesX tileWidth : Nat) : Nat :=
  visibleLength displayWidth (tileStartXForTile tileId tilesX tileWidth)
    tileWidth

def tileVisibleHeightForTile (displayHeight tileId tilesX tileHeight : Nat) :
    Nat :=
  visibleLength displayHeight (tileStartYForTile tileId tilesX tileHeight)
    tileHeight

def tileIdForPixel (x y tilesX totalTiles tileWidth tileHeight : Nat) :
    Option Nat :=
  if tilesX = 0 ∨ totalTiles = 0 ∨ tileWidth = 0 ∨ tileHeight = 0 then none
  else
    let tileId := y / tileHeight * tilesX + x / tileWidth
    if x / tileWidth ≥ tilesX ∨ tileId ≥ totalTiles ∨ tileId > uint16Limit then
      none
    else some tileId

structure Rect where
  x : Nat
  y : Nat
  width : Nat
  height : Nat
  deriving DecidableEq, Repr

def Rect.contains (rect : Rect) (x y : Nat) : Bool :=
  rect.x ≤ x && x < rect.x + rect.width && rect.y ≤ y &&
    y < rect.y + rect.height

theorem Rect.contains_iff {rect : Rect} {x y : Nat} :
    rect.contains x y = true ↔
      rect.x ≤ x ∧ x < rect.x + rect.width ∧ rect.y ≤ y ∧
        y < rect.y + rect.height := by
  simp [Rect.contains, and_assoc]

/-! ## Geometry -/

def baseTileWidth : Nat := 16

def baseTileHeight : Nat := 16

/-- The display's size, as `wd_server_compute_geometry` admits it. -/
structure Geometry where
  displayWidth : Nat
  displayHeight : Nat
  width_pos : 0 < displayWidth
  height_pos : 0 < displayHeight
  columns_fit : (displayWidth + 15) / 16 ≤ uint16Limit
  rows_fit : (displayHeight + 15) / 16 ≤ uint16Limit
  tiles_fit :
    (displayHeight + 15) / 16 * ((displayWidth + 15) / 16) ≤ uint16Limit
  deriving DecidableEq

namespace Geometry

variable (geometry : Geometry)

def tilesX : Nat := tilesForWidthWithTile geometry.displayWidth baseTileWidth

def tilesY : Nat := tilesForHeightWithTile geometry.displayHeight baseTileHeight

def totalTiles : Nat := geometry.tilesY * geometry.tilesX

theorem tilesX_eq : geometry.tilesX = (geometry.displayWidth + 15) / 16 :=
  tilesAlong_eq geometry.width_pos (by decide) geometry.columns_fit

theorem tilesY_eq : geometry.tilesY = (geometry.displayHeight + 15) / 16 :=
  tilesAlong_eq geometry.height_pos (by decide) geometry.rows_fit

theorem tilesX_pos : 0 < geometry.tilesX := by
  have positive := geometry.width_pos
  rw [tilesX_eq]
  omega

theorem tilesX_ne_zero : geometry.tilesX ≠ 0 :=
  Nat.pos_iff_ne_zero.mp geometry.tilesX_pos

theorem totalTiles_le : geometry.totalTiles ≤ uint16Limit := by
  have fits := geometry.tiles_fit
  simpa [totalTiles, tilesX_eq, tilesY_eq] using fits

def tileRect (tileId : Nat) : Rect where
  x := tileStartXForTile tileId geometry.tilesX baseTileWidth
  y := tileStartYForTile tileId geometry.tilesX baseTileHeight
  width := tileVisibleWidthForTile geometry.displayWidth tileId geometry.tilesX
    baseTileWidth
  height := tileVisibleHeightForTile geometry.displayHeight tileId
    geometry.tilesX baseTileHeight

/-- Protocol tiles have the size of base tiles in this build. -/
def protocolTileForBaseTile (tileId : Nat) : Option Nat :=
  if tileId ≥ geometry.totalTiles then none
  else
    tileIdForPixel (tileStartXForTile tileId geometry.tilesX baseTileWidth)
      (tileStartYForTile tileId geometry.tilesX baseTileHeight) geometry.tilesX
      geometry.totalTiles baseTileWidth baseTileHeight

theorem protocolTileForBaseTile_eq {tileId : Nat}
    (valid : tileId < geometry.totalTiles) :
    geometry.protocolTileForBaseTile tileId = some tileId := by
  have limit := geometry.totalTiles_le
  have column : tileId % geometry.tilesX < geometry.tilesX :=
    Nat.mod_lt _ geometry.tilesX_pos
  have split : tileId / geometry.tilesX * geometry.tilesX +
      tileId % geometry.tilesX = tileId := Nat.div_add_mod' _ _
  have nonempty : geometry.totalTiles ≠ 0 := by omega
  simp only [protocolTileForBaseTile, tileIdForPixel, tileStartXForTile,
    tileStartYForTile, tileXFor, tileYFor, baseTileWidth, baseTileHeight,
    geometry.tilesX_ne_zero, nonempty, if_false,
    Nat.mul_div_cancel _ (by decide : 0 < 16), split]
  rw [if_neg (by omega), if_neg (by simp), if_neg (by omega)]

def tileAt (x y : Nat) : Nat := y / 16 * geometry.tilesX + x / 16

theorem tileAt_lt {x y : Nat} (onX : x < geometry.displayWidth)
    (onY : y < geometry.displayHeight) :
    geometry.tileAt x y < geometry.totalTiles := by
  have column : x / 16 < geometry.tilesX := by
    rw [tilesX_eq]
    omega
  have row : y / 16 + 1 ≤ geometry.tilesY := by
    rw [tilesY_eq]
    omega
  calc geometry.tileAt x y < (y / 16 + 1) * geometry.tilesX := by
        rw [tileAt, Nat.add_mul]
        omega
    _ ≤ geometry.totalTiles := Nat.mul_le_mul_right _ row

theorem tileXFor_tileAt {x y : Nat} (onX : x < geometry.displayWidth) :
    tileXFor (geometry.tileAt x y) geometry.tilesX = x / 16 := by
  have column : x / 16 < geometry.tilesX := by
    rw [tilesX_eq]
    omega
  rw [tileXFor, if_neg geometry.tilesX_ne_zero, tileAt, Nat.add_comm,
    Nat.add_mul_mod_self_right, Nat.mod_eq_of_lt column]

theorem tileYFor_tileAt {x y : Nat} (onX : x < geometry.displayWidth) :
    tileYFor (geometry.tileAt x y) geometry.tilesX = y / 16 := by
  have column : x / 16 < geometry.tilesX := by
    rw [tilesX_eq]
    omega
  rw [tileYFor, if_neg geometry.tilesX_ne_zero, tileAt, Nat.add_comm,
    Nat.add_mul_div_right _ _ geometry.tilesX_pos, Nat.div_eq_of_lt column,
    Nat.zero_add]

end Geometry

/-! ## Wire tiles -/

inductive TileSize where
  | tile128x64
  | tile64x64
  | tile32x32
  | tile16x16
  deriving DecidableEq, Repr

def TileSize.width : TileSize → Nat
  | .tile128x64 => 128
  | .tile64x64 => 64
  | .tile32x32 => 32
  | .tile16x16 => 16

def TileSize.height : TileSize → Nat
  | .tile128x64 => 64
  | .tile64x64 => 64
  | .tile32x32 => 32
  | .tile16x16 => 16

structure WireTile where
  size : TileSize
  tileId : Nat
  deriving DecidableEq, Repr

def wireTileMaxBaseTiles : Nat := 32

def idsFrom (start count : Nat) : List Nat :=
  (List.range count).map (start + ·)

/-- The base tiles under a wire tile, row by row. -/
def Geometry.collectWireTileBaseIds (geometry : Geometry) (tile : WireTile) :
    Option (List Nat) :=
  let tilesX := tilesForWidthWithTile geometry.displayWidth tile.size.width
  let x := tileStartXForTile tile.tileId tilesX tile.size.width
  let y := tileStartYForTile tile.tileId tilesX tile.size.height
  let width := tileVisibleWidthForTile geometry.displayWidth tile.tileId tilesX
    tile.size.width
  let height := tileVisibleHeightForTile geometry.displayHeight tile.tileId
    tilesX tile.size.height
  if tilesX = 0 ∨ width = 0 ∨ height = 0 then none
  else
    let lastX := min ((x + width - 1) / baseTileWidth) (geometry.tilesX - 1)
    let lastY := min ((y + height - 1) / baseTileHeight) (geometry.tilesY - 1)
    let columns := idsFrom (x / baseTileWidth) (lastX + 1 - x / baseTileWidth)
    let rows := idsFrom (y / baseTileHeight) (lastY + 1 - y / baseTileHeight)
    let ids := rows.flatMap fun row =>
      columns.map fun column => row * geometry.tilesX + column
    if ids.all (· < geometry.totalTiles) ∧ ids.length ≤ wireTileMaxBaseTiles ∧
        ids ≠ [] then some ids
    else none

theorem Geometry.collectWireTileBaseIds_ne_nil {geometry : Geometry}
    {tile : WireTile} {ids : List Nat}
    (collected : geometry.collectWireTileBaseIds tile = some ids) :
    ids ≠ [] := by
  simp only [Geometry.collectWireTileBaseIds] at collected
  split_ifs at collected with _ fits
  rw [Option.some.injEq] at collected
  rw [← collected]
  exact fits.2.2

end WayDisplay.Common
