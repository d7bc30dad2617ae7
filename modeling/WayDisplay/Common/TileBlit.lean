import Mathlib.Algebra.Order.Ring.Nat
import WayDisplay.Common.TileCover

/-!
Tiles of a framebuffer (`wd_tile.c`).

Framebuffer and tile are rows in linear memory.  A tile at the edge is clipped,
and its buffer keeps the rows of a whole tile.
-/

namespace WayDisplay.Common

variable {Pixel : Type}

/-! ## Copying rows -/

def copyRow (dst : Nat → Pixel) (dstStart : Nat) (src : Nat → Pixel)
    (srcStart count : Nat) : Nat → Pixel :=
  fun i => if dstStart ≤ i ∧ i < dstStart + count then
    src (srcStart + (i - dstStart)) else dst i

def copyRows (dstStart dstStride srcStart srcStride count : Nat)
    (src dst : Nat → Pixel) (rows : Nat) : Nat → Pixel :=
  (List.range rows).foldl (fun dst y => copyRow dst (dstStart + y * dstStride)
    src (srcStart + y * srcStride) count) dst

section Rows

variable {dstStart dstStride srcStart srcStride count rows : Nat}
  {src dst : Nat → Pixel}

theorem copyRows_hit (fits : count ≤ dstStride) {x y : Nat} (inX : x < count)
    (inY : y < rows) :
    copyRows dstStart dstStride srcStart srcStride count src dst rows
      (dstStart + y * dstStride + x) = src (srcStart + y * srcStride + x) := by
  induction rows with
  | zero => omega
  | succ rows ih =>
      rw [copyRows, List.range_succ, List.foldl_append, List.foldl_cons,
        List.foldl_nil, copyRow]
      by_cases last : y = rows
      · subst last
        rw [if_pos (by omega)]
        congr 1
        omega
      · have above := Nat.mul_le_mul_right dstStride
          (show y + 1 ≤ rows by omega)
        rw [Nat.succ_mul] at above
        rw [if_neg (by omega)]
        exact ih (by omega)

theorem copyRows_miss {i : Nat} (apart : ∀ x y, x < count → y < rows →
      i ≠ dstStart + y * dstStride + x) :
    copyRows dstStart dstStride srcStart srcStride count src dst rows i =
      dst i := by
  induction rows with
  | zero => rfl
  | succ rows ih =>
      rw [copyRows, List.range_succ, List.foldl_append, List.foldl_cons,
        List.foldl_nil, copyRow, if_neg]
      · exact ih fun x y inX inY => apart x y inX (by omega)
      · intro inside
        exact apart (i - (dstStart + rows * dstStride)) rows (by omega)
          (by omega) (by omega)

end Rows

/-! ## Tiles -/

def totalTilesForSizeWithTile (width height : Nat) (size : TileSize) : Nat :=
  let total := tilesForWidthWithTile width size.width *
    tilesForHeightWithTile height size.height
  if total > uint16Limit then 0 else total

def tileLayoutIsValid (width height tilesX totalTiles tileId : Nat)
    (size : TileSize) : Bool :=
  tileId < totalTiles && tilesX == tilesForWidthWithTile width size.width &&
    totalTiles == totalTilesForSizeWithTile width height size &&
    size.width * size.height * 4 ≤ 2 ^ 32 - 1 &&
    width * height ≤ (2 ^ 64 - 1) / 4

def visibleTile (width height tilesX tileId : Nat) (size : TileSize) : Rect where
  x := tileStartXForTile tileId tilesX size.width
  y := tileStartYForTile tileId tilesX size.height
  width := tileVisibleWidthForTile width tileId tilesX size.width
  height := tileVisibleHeightForTile height tileId tilesX size.height

section Copies

variable (width height tilesX totalTiles tileId : Nat) (size : TileSize)

def extractTileSized (zero : Pixel) (framebuffer : Nat → Pixel)
    (outCapacity : Nat) : Option (Nat → Pixel) :=
  if tileLayoutIsValid width height tilesX totalTiles tileId size ∧
      size.width * size.height * 4 ≤ outCapacity then
    let rect := visibleTile width height tilesX tileId size
    some (copyRows 0 size.width (rect.y * width + rect.x) width rect.width
      framebuffer (fun _ => zero) rect.height)
  else none

def blitTileSized (tile : Nat → Pixel) (tileCapacity : Nat)
    (framebuffer : Nat → Pixel) : Option (Nat → Pixel) :=
  if tileLayoutIsValid width height tilesX totalTiles tileId size ∧
      size.width * size.height * 4 ≤ tileCapacity then
    let rect := visibleTile width height tilesX tileId size
    some (copyRows (rect.y * width + rect.x) width 0 size.width rect.width tile
      framebuffer rect.height)
  else none

def extractTile (zero : Pixel) (framebuffer : Nat → Pixel) :
    Option (Nat → Pixel) :=
  extractTileSized width height tilesX totalTiles tileId size zero framebuffer
    (size.width * size.height * 4)

def blitTile (tile framebuffer : Nat → Pixel) : Option (Nat → Pixel) :=
  blitTileSized width height tilesX totalTiles tileId size tile
    (size.width * size.height * 4) framebuffer

end Copies

/-! ## The grid of a display -/

theorem lt_tilesAlong {length tileLength index : Nat}
    (fits : tilesAlong length tileLength ≠ 0) (size : IsTileLength tileLength) :
    index < tilesAlong length tileLength ↔ index * tileLength < length := by
  rw [← lt_tiles_iff size]
  revert fits
  unfold tilesAlong
  split_ifs <;> simp

theorem visible_iff {length tileLength index x : Nat}
    (positive : 0 < tileLength) :
    index * tileLength ≤ x ∧ x < index * tileLength +
        visibleLength length (index * tileLength) tileLength ↔
      x < length ∧ x / tileLength = index := by
  rw [Nat.div_eq_iff positive, visibleLength]
  split_ifs <;> omega

theorem visibleLength_le {length start tileLength : Nat} :
    visibleLength length start tileLength ≤ tileLength := by
  unfold visibleLength
  split_ifs <;> omega

theorem add_lt_of_lt_visibleLength {length start tileLength x : Nat}
    (inside : x < visibleLength length start tileLength) :
    start + x < length := by
  revert inside
  unfold visibleLength
  split_ifs <;> omega

section Grid

variable {width height : Nat} {size : TileSize}

theorem totalTiles_ne_zero
    (fits : totalTilesForSizeWithTile width height size ≠ 0) :
    tilesForWidthWithTile width size.width ≠ 0 ∧
      tilesForHeightWithTile height size.height ≠ 0 ∧
      totalTilesForSizeWithTile width height size =
        tilesForWidthWithTile width size.width *
          tilesForHeightWithTile height size.height ∧
      totalTilesForSizeWithTile width height size ≤ uint16Limit := by
  revert fits
  simp only [totalTilesForSizeWithTile]
  split_ifs with large
  · simp
  · intro fits
    exact ⟨left_ne_zero_of_mul fits, right_ne_zero_of_mul fits, rfl, by omega⟩

theorem visibleTile_contains {tilesX tileId x y : Nat} (columns : tilesX ≠ 0) :
    (visibleTile width height tilesX tileId size).contains x y = true ↔
      (x < width ∧ x / size.width = tileId % tilesX) ∧
        y < height ∧ y / size.height = tileId / tilesX := by
  rw [← visible_iff size.isTileLength_width.pos,
    ← visible_iff size.isTileLength_height.pos, Rect.contains_iff]
  simp only [visibleTile, tileVisibleWidthForTile, tileVisibleHeightForTile,
    tileStartXForTile, tileStartYForTile, tileXFor, tileYFor, if_neg columns,
    and_assoc]

theorem tile_unique {tilesX tilesY column row tileId : Nat}
    (inRow : column < tilesX) (inColumn : row < tilesY) :
    tileId < tilesX * tilesY ∧ column = tileId % tilesX ∧
        row = tileId / tilesX ↔
      tileId = row * tilesX + column := by
  constructor
  · rintro ⟨-, rfl, rfl⟩
    exact (Nat.div_add_mod' tileId tilesX).symm
  · rintro rfl
    have positive : 0 < tilesX := by omega
    have high := Nat.mul_le_mul_right tilesX (show row + 1 ≤ tilesY from inColumn)
    rw [Nat.succ_mul, Nat.mul_comm tilesY] at high
    refine ⟨by omega, ?_, ?_⟩
    · rw [Nat.add_comm, Nat.add_mul_mod_self_right, Nat.mod_eq_of_lt inRow]
    · rw [Nat.add_comm, Nat.add_mul_div_right _ _ positive,
        Nat.div_eq_of_lt inRow, Nat.zero_add]

theorem tileLayout_valid {tileId : Nat}
    (valid : tileId < totalTilesForSizeWithTile width height size) :
    tileLayoutIsValid width height (tilesForWidthWithTile width size.width)
      (totalTilesForSizeWithTile width height size) tileId size = true := by
  obtain ⟨columns, rows, total, few⟩ := totalTiles_ne_zero
    (Nat.ne_zero_of_lt valid)
  have wide : width ≤ tilesForWidthWithTile width size.width * size.width :=
    Nat.le_of_not_lt fun more => Nat.lt_irrefl _
      ((lt_tilesAlong columns size.isTileLength_width).mpr more)
  have high : height ≤ tilesForHeightWithTile height size.height * size.height :=
    Nat.le_of_not_lt fun more => Nat.lt_irrefl _
      ((lt_tilesAlong rows size.isTileLength_height).mpr more)
  have small : size.width * size.height ≤ 128 * 64 := by
    cases size <;> decide
  have pixels : width * height ≤ uint16Limit * (128 * 64) := calc
    width * height ≤ _ := Nat.mul_le_mul wide high
    _ = totalTilesForSizeWithTile width height size *
        (size.width * size.height) := by
      rw [total, Nat.mul_mul_mul_comm]
    _ ≤ uint16Limit * (128 * 64) := Nat.mul_le_mul few small
  rw [uint16Limit] at pixels
  simp only [tileLayoutIsValid, valid, beq_self_eq_true, decide_true,
    Bool.and_true, Bool.true_and, Bool.and_eq_true, decide_eq_true_eq]
  constructor <;> omega

/-- A framebuffer holds pixel `(x, y)` at `y * width + x`. -/
theorem blitTile_extractTile {tileId : Nat}
    (valid : tileId < totalTilesForSizeWithTile width height size)
    (zero : Pixel) (source target : Nat → Pixel) :
    let tilesX := tilesForWidthWithTile width size.width
    let total := totalTilesForSizeWithTile width height size
    ∃ tile result,
      extractTile width height tilesX total tileId size zero source =
        some tile ∧
      blitTile width height tilesX total tileId size tile target =
        some result ∧
      ∀ i, result i =
        if (visibleTile width height tilesX tileId size).contains (i % width)
          (i / width) then source i else target i := by
  intro tilesX total
  have layout := tileLayout_valid valid
  refine ⟨_, _, if_pos ⟨layout, le_rfl⟩, if_pos ⟨layout, le_rfl⟩, ?_⟩
  intro i
  generalize visible : visibleTile width height tilesX tileId size = rect
  have inTile : rect.width ≤ size.width := visible ▸ visibleLength_le
  have inRow : ∀ x, x < rect.width → rect.x + x < width :=
    visible ▸ fun _ => add_lt_of_lt_visibleLength
  split_ifs with inside
  · obtain ⟨left, right, top, bottom⟩ := Rect.contains_iff.mp inside
    have column := inRow (rect.width - 1) (by omega)
    have index : i = rect.y * width + rect.x +
        (i / width - rect.y) * width + (i % width - rect.x) := by
      have rowed := Nat.add_mul rect.y (i / width - rect.y) width
      rw [Nat.add_sub_cancel' top] at rowed
      have split := Nat.div_add_mod' i width
      omega
    rw [index, copyRows_hit (by omega) (by omega) (by omega),
      copyRows_hit inTile (by omega) (by omega)]
  · apply copyRows_miss
    intro x y inX inY same
    have column := inRow x inX
    apply inside
    have index : i = rect.x + x + (rect.y + y) * width := by
      rw [Nat.add_mul]
      omega
    rw [Rect.contains_iff, index, Nat.add_mul_mod_self_right,
      Nat.mod_eq_of_lt column, Nat.add_mul_div_right _ _ (by omega),
      Nat.div_eq_of_lt column]
    omega

/-- The visible rectangles are the blocks of a partition of the display. -/
def PartitionsDisplay (width height : Nat) (size : TileSize) : Prop :=
  let tilesX := tilesForWidthWithTile width size.width
  let total := totalTilesForSizeWithTile width height size
  (∀ tileId < total, ∃ x y,
    (visibleTile width height tilesX tileId size).contains x y = true) ∧
  (∀ tileId < total, ∀ x y,
    (visibleTile width height tilesX tileId size).contains x y = true →
      x < width ∧ y < height) ∧
  ∀ x < width, ∀ y < height, ∃! tileId, tileId < total ∧
    (visibleTile width height tilesX tileId size).contains x y = true

theorem partitionsDisplay
    (fits : totalTilesForSizeWithTile width height size ≠ 0) :
    PartitionsDisplay width height size := by
  obtain ⟨columns, rows, total, -⟩ := totalTiles_ne_zero fits
  have widths := size.isTileLength_width
  have heights := size.isTileLength_height
  refine ⟨?_, ?_, ?_⟩
  · intro tileId valid
    rw [total] at valid
    have column := (lt_tilesAlong columns widths).mp
      (Nat.mod_lt tileId (Nat.pos_of_ne_zero columns))
    have row := (lt_tilesAlong rows heights).mp (Nat.div_lt_of_lt_mul valid)
    exact ⟨_, _, (visibleTile_contains columns).mpr
      ⟨⟨column, Nat.mul_div_cancel _ widths.pos⟩, row,
        Nat.mul_div_cancel _ heights.pos⟩⟩
  · intro tileId _ x y inside
    rw [visibleTile_contains columns] at inside
    exact ⟨inside.1.1, inside.2.1⟩
  · intro x onX y onY
    have column := (lt_tilesAlong columns widths).mpr
      (Nat.lt_of_le_of_lt (Nat.div_mul_le_self x size.width) onX)
    have row := (lt_tilesAlong rows heights).mpr
      (Nat.lt_of_le_of_lt (Nat.div_mul_le_self y size.height) onY)
    simp only [visibleTile_contains columns, onX, onY, true_and, total]
    exact ⟨_, (tile_unique column row).mpr rfl,
      fun tileId => (tile_unique column row).mp⟩

theorem tiles_partition_and_blit
    (fits : totalTilesForSizeWithTile width height size ≠ 0) :
    PartitionsDisplay width height size ∧
      ∀ tileId < totalTilesForSizeWithTile width height size,
      ∀ (zero : Pixel) (source target : Nat → Pixel),
        let tilesX := tilesForWidthWithTile width size.width
        let total := totalTilesForSizeWithTile width height size
        ∃ tile result,
          extractTile width height tilesX total tileId size zero source =
            some tile ∧
          blitTile width height tilesX total tileId size tile target =
            some result ∧
          ∀ i, result i =
            if (visibleTile width height tilesX tileId size).contains
              (i % width) (i / width) then source i else target i :=
  ⟨partitionsDisplay fits, fun _ valid => blitTile_extractTile valid⟩

-- Two tiles, the second one clipped on the right and both of them below; the
-- second is copied over a target of sevens.
theorem tiles_partition_and_blit_clipped :
    totalTilesForSizeWithTile 40 20 .tile32x32 = 2 ∧
      PartitionsDisplay 40 20 .tile32x32 ∧
      ∃ tile result,
        extractTile 40 20 2 2 1 .tile32x32 0 (fun i => i) = some tile ∧
        blitTile 40 20 2 2 1 .tile32x32 tile (fun _ => 7) = some result ∧
        result 31 = 7 ∧ result 32 = 32 ∧ result 799 = 799 ∧
        result 800 = 7 := by
  obtain ⟨partition, copies⟩ :=
    @tiles_partition_and_blit Nat 40 20 .tile32x32 (by decide)
  obtain ⟨tile, result, extracted, blitted, pixels⟩ :=
    copies 1 (by decide) 0 (fun i => i) (fun _ => 7)
  exact ⟨by decide, partition, tile, result, extracted, blitted,
    (pixels 31).trans (by decide), (pixels 32).trans (by decide),
    (pixels 799).trans (by decide), (pixels 800).trans (by decide)⟩

end Grid

end WayDisplay.Common
