import WayDisplay.Common.Tile

/-!
Base tiles under wire tiles.

Along each axis a wire tile covers the base tiles whose first pixel it contains.
The largest wire tiles are the regions in which the server schedules its work:
every base tile lies in one of them.
-/

namespace WayDisplay.Common

/-! ## One axis -/

def IsTileLength (length : Nat) : Prop :=
  length = 16 ∨ length = 32 ∨ length = 64 ∨ length = 128

theorem TileSize.isTileLength_width (size : TileSize) :
    IsTileLength size.width := by
  cases size <;> simp [IsTileLength, TileSize.width]

theorem TileSize.isTileLength_height (size : TileSize) :
    IsTileLength size.height := by
  cases size <;> simp [IsTileLength, TileSize.height]

theorem IsTileLength.pos {length : Nat} (size : IsTileLength length) :
    0 < length := by
  rcases size with rfl | rfl | rfl | rfl <;> decide

theorem mem_idsFrom {start count id : Nat} :
    id ∈ idsFrom start count ↔ start ≤ id ∧ id < start + count := by
  simp only [idsFrom, List.mem_map, List.mem_range]
  constructor
  · rintro ⟨i, inside, rfl⟩
    omega
  · rintro ⟨low, high⟩
    exact ⟨id - start, by omega, by omega⟩

variable {length tileLength index id : Nat}

theorem mem_axis (size : IsTileLength tileLength)
    (inside : index * tileLength < length) :
    id ∈ idsFrom (index * tileLength / 16)
        (min ((index * tileLength +
          visibleLength length (index * tileLength) tileLength - 1) / 16)
            ((length + 15) / 16 - 1) + 1 - index * tileLength / 16) ↔
      id < (length + 15) / 16 ∧ id * 16 / tileLength = index := by
  rw [mem_idsFrom]
  unfold visibleLength
  rcases size with rfl | rfl | rfl | rfl
  · split_ifs <;> omega
  · split_ifs <;> omega
  · split_ifs <;> omega
  · split_ifs <;> omega

theorem length_axis (size : IsTileLength tileLength)
    (inside : index * tileLength < length) :
    (idsFrom (index * tileLength / 16)
        (min ((index * tileLength +
          visibleLength length (index * tileLength) tileLength - 1) / 16)
            ((length + 15) / 16 - 1) + 1 - index * tileLength / 16)).length ≤
      tileLength / 16 := by
  rw [idsFrom, List.length_map, List.length_range]
  unfold visibleLength
  rcases size with rfl | rfl | rfl | rfl
  · split_ifs <;> omega
  · split_ifs <;> omega
  · split_ifs <;> omega
  · split_ifs <;> omega

theorem tilesAlong_of_tileLength (positive : 0 < length)
    (fits : (length + 15) / 16 ≤ uint16Limit) (size : IsTileLength tileLength) :
    tilesAlong length tileLength =
      (length + tileLength - 1) / tileLength := by
  refine tilesAlong_eq positive ?_ (Nat.le_trans ?_ fits)
  · rcases size with rfl | rfl | rfl | rfl <;> decide
  · rcases size with rfl | rfl | rfl | rfl <;> omega

theorem lt_tiles_iff (size : IsTileLength tileLength) :
    index < (length + tileLength - 1) / tileLength ↔
      index * tileLength < length := by
  rcases size with rfl | rfl | rfl | rfl <;> omega

/-! ## Wire tiles -/

namespace Geometry

variable (geometry : Geometry)

theorem tilesForWidth_eq (size : TileSize) :
    tilesForWidthWithTile geometry.displayWidth size.width =
      (geometry.displayWidth + size.width - 1) / size.width :=
  tilesAlong_of_tileLength geometry.width_pos geometry.columns_fit
    size.isTileLength_width

theorem tilesForHeight_eq (size : TileSize) :
    tilesForHeightWithTile geometry.displayHeight size.height =
      (geometry.displayHeight + size.height - 1) / size.height :=
  tilesAlong_of_tileLength geometry.height_pos geometry.rows_fit
    size.isTileLength_height

def totalWireTiles (size : TileSize) : Nat :=
  let tilesX := tilesForWidthWithTile geometry.displayWidth size.width
  let tilesY := tilesForHeightWithTile geometry.displayHeight size.height
  if tilesX = 0 ∨ tilesY = 0 ∨ tilesX * tilesY > uint16Limit then 0
  else tilesX * tilesY

def wireTileForPixel (size : TileSize) (x y : Nat) : Option Nat :=
  let tilesX := tilesForWidthWithTile geometry.displayWidth size.width
  let tilesY := tilesForHeightWithTile geometry.displayHeight size.height
  if x ≥ geometry.displayWidth ∨ y ≥ geometry.displayHeight then none
  else if tilesX = 0 ∨ tilesY = 0 then none
  else if x / size.width ≥ tilesX ∨ y / size.height ≥ tilesY ∨
      y / size.height * tilesX + x / size.width > uint16Limit then none
  else some (y / size.height * tilesX + x / size.width)

def topRegionForBaseTile (tileId : Nat) : Option Nat :=
  if tileId ≥ geometry.totalTiles then none
  else
    geometry.wireTileForPixel .tile128x64
      (tileId % geometry.tilesX * baseTileWidth)
      (tileId / geometry.tilesX * baseTileHeight)

def totalRegions : Nat := geometry.totalWireTiles .tile128x64

variable {geometry : Geometry} {size : TileSize} {wireId tileId : Nat}

theorem columns_pos (geometry : Geometry) (size : TileSize) :
    0 < tilesForWidthWithTile geometry.displayWidth size.width := by
  have width := geometry.width_pos
  rw [tilesForWidth_eq, lt_tiles_iff size.isTileLength_width]
  omega

theorem rows_pos (geometry : Geometry) (size : TileSize) :
    0 < tilesForHeightWithTile geometry.displayHeight size.height := by
  have height := geometry.height_pos
  rw [tilesForHeight_eq, lt_tiles_iff size.isTileLength_height]
  omega

theorem wireTiles_le (geometry : Geometry) (size : TileSize) :
    tilesForWidthWithTile geometry.displayWidth size.width *
      tilesForHeightWithTile geometry.displayHeight size.height ≤
        geometry.totalTiles := by
  rw [totalTiles, Nat.mul_comm geometry.tilesY, tilesForWidth_eq,
    tilesForHeight_eq, tilesX_eq, tilesY_eq]
  apply Nat.mul_le_mul
  · rcases size.isTileLength_width with size | size | size | size <;>
      rw [size] <;> omega
  · rcases size.isTileLength_height with size | size | size | size <;>
      rw [size] <;> omega

theorem totalWireTiles_eq (geometry : Geometry) (size : TileSize) :
    geometry.totalWireTiles size =
      tilesForWidthWithTile geometry.displayWidth size.width *
        tilesForHeightWithTile geometry.displayHeight size.height := by
  have columns := geometry.columns_pos size
  have rows := geometry.rows_pos size
  have few := Nat.le_trans (geometry.wireTiles_le size) geometry.totalTiles_le
  rw [totalWireTiles, if_neg (by omega)]

theorem column_lt (wireId : Nat) :
    wireId % tilesForWidthWithTile geometry.displayWidth size.width *
      size.width < geometry.displayWidth := by
  rw [← lt_tiles_iff size.isTileLength_width, ← tilesForWidth_eq]
  exact Nat.mod_lt _ (geometry.columns_pos size)

theorem row_lt (inGrid : wireId < geometry.totalWireTiles size) :
    wireId / tilesForWidthWithTile geometry.displayWidth size.width *
      size.height < geometry.displayHeight := by
  rw [← lt_tiles_iff size.isTileLength_height, ← tilesForHeight_eq]
  rw [totalWireTiles_eq] at inGrid
  exact Nat.div_lt_of_lt_mul inGrid

theorem lt_totalTiles_iff {row column : Nat} (inRow : column < geometry.tilesX) :
    row * geometry.tilesX + column < geometry.totalTiles ↔
      row < geometry.tilesY := by
  constructor
  · intro inside
    by_contra beyond
    have high : geometry.tilesY * geometry.tilesX ≤ row * geometry.tilesX :=
      Nat.mul_le_mul_right _ (Nat.le_of_not_lt beyond)
    rw [totalTiles] at inside
    omega
  · intro inside
    have high : (row + 1) * geometry.tilesX ≤ geometry.totalTiles :=
      Nat.mul_le_mul_right _ inside
    rw [Nat.add_mul] at high
    omega

/-- The place of a base tile among the wire tiles of a size. -/
def CoveredBy (geometry : Geometry) (tile : WireTile) (tileId : Nat) : Prop :=
  tileId < geometry.totalTiles ∧
    tileId % geometry.tilesX * 16 / tile.size.width =
      tile.tileId %
        tilesForWidthWithTile geometry.displayWidth tile.size.width ∧
    tileId / geometry.tilesX * 16 / tile.size.height =
      tile.tileId / tilesForWidthWithTile geometry.displayWidth tile.size.width

theorem visibleLength_pos {length start tileLength : Nat}
    (inside : start < length) (positive : 0 < tileLength) :
    0 < visibleLength length start tileLength := by
  unfold visibleLength
  split_ifs <;> omega

/-! ### Rows and columns -/

def baseColumns (geometry : Geometry) (tile : WireTile) : List Nat :=
  let x := tile.tileId %
    tilesForWidthWithTile geometry.displayWidth tile.size.width *
      tile.size.width
  idsFrom (x / 16)
    (min ((x + visibleLength geometry.displayWidth x tile.size.width - 1) / 16)
      ((geometry.displayWidth + 15) / 16 - 1) + 1 - x / 16)

def baseRows (geometry : Geometry) (tile : WireTile) : List Nat :=
  let y := tile.tileId /
    tilesForWidthWithTile geometry.displayWidth tile.size.width *
      tile.size.height
  idsFrom (y / 16)
    (min ((y + visibleLength geometry.displayHeight y tile.size.height - 1) / 16)
      ((geometry.displayHeight + 15) / 16 - 1) + 1 - y / 16)

def baseIds (geometry : Geometry) (tile : WireTile) : List Nat :=
  (geometry.baseRows tile).flatMap fun row =>
    (geometry.baseColumns tile).map fun column =>
      row * geometry.tilesX + column

variable {tile : WireTile}

theorem mem_baseColumns {column : Nat} :
    column ∈ geometry.baseColumns tile ↔
      column < geometry.tilesX ∧ column * 16 / tile.size.width =
        tile.tileId %
          tilesForWidthWithTile geometry.displayWidth tile.size.width := by
  rw [tilesX_eq]
  exact mem_axis tile.size.isTileLength_width (column_lt tile.tileId)

theorem mem_baseRows (inGrid : tile.tileId < geometry.totalWireTiles tile.size)
    {row : Nat} :
    row ∈ geometry.baseRows tile ↔
      row < geometry.tilesY ∧ row * 16 / tile.size.height =
        tile.tileId /
          tilesForWidthWithTile geometry.displayWidth tile.size.width := by
  rw [tilesY_eq]
  exact mem_axis tile.size.isTileLength_height (row_lt inGrid)

theorem mem_baseIds (inGrid : tile.tileId < geometry.totalWireTiles tile.size) :
    tileId ∈ geometry.baseIds tile ↔ geometry.CoveredBy tile tileId := by
  simp only [baseIds, List.mem_flatMap, List.mem_map, mem_baseColumns,
    mem_baseRows inGrid, CoveredBy]
  constructor
  · rintro ⟨row, ⟨inside, rowPlace⟩, column, ⟨inRow, columnPlace⟩, rfl⟩
    have first : (row * geometry.tilesX + column) % geometry.tilesX = column := by
      rw [Nat.add_comm, Nat.add_mul_mod_self_right, Nat.mod_eq_of_lt inRow]
    have second : (row * geometry.tilesX + column) / geometry.tilesX = row := by
      rw [Nat.add_comm, Nat.add_mul_div_right _ _ geometry.tilesX_pos,
        Nat.div_eq_of_lt inRow, Nat.zero_add]
    rw [first, second]
    exact ⟨(lt_totalTiles_iff inRow).mpr inside, columnPlace, rowPlace⟩
  · rintro ⟨valid, columnPlace, rowPlace⟩
    have inRow : tileId % geometry.tilesX < geometry.tilesX :=
      Nat.mod_lt _ geometry.tilesX_pos
    have split := Nat.div_add_mod' tileId geometry.tilesX
    rw [← split, lt_totalTiles_iff inRow] at valid
    exact ⟨_, ⟨valid, rowPlace⟩, _, ⟨inRow, columnPlace⟩, split⟩

theorem length_baseIds
    (inGrid : tile.tileId < geometry.totalWireTiles tile.size) :
    (geometry.baseIds tile).length ≤ wireTileMaxBaseTiles := by
  have columns : (geometry.baseColumns tile).length ≤ tile.size.width / 16 :=
    length_axis tile.size.isTileLength_width (column_lt tile.tileId)
  have rows : (geometry.baseRows tile).length ≤ tile.size.height / 16 :=
    length_axis tile.size.isTileLength_height (row_lt inGrid)
  have total : (geometry.baseIds tile).length =
      (geometry.baseRows tile).length * (geometry.baseColumns tile).length := by
    simp [baseIds, List.length_flatMap]
  rw [total]
  refine Nat.le_trans (Nat.mul_le_mul rows columns) ?_
  cases tile.size <;> decide

theorem baseIds_ne_nil
    (inGrid : tile.tileId < geometry.totalWireTiles tile.size) :
    geometry.baseIds tile ≠ [] := by
  have columns : 0 < tile.size.width := tile.size.isTileLength_width.pos
  have rows : 0 < tile.size.height := tile.size.isTileLength_height.pos
  have column : tile.tileId %
      tilesForWidthWithTile geometry.displayWidth tile.size.width *
        tile.size.width / 16 ∈ geometry.baseColumns tile := by
    have inside : tile.tileId %
        tilesForWidthWithTile geometry.displayWidth tile.size.width *
          tile.size.width < geometry.displayWidth := column_lt tile.tileId
    rw [mem_baseColumns, tilesX_eq]
    rcases tile.size.isTileLength_width with size | size | size | size <;>
      rw [size] at inside ⊢ <;> omega
  have row : tile.tileId /
      tilesForWidthWithTile geometry.displayWidth tile.size.width *
        tile.size.height / 16 ∈ geometry.baseRows tile := by
    have inside := row_lt inGrid
    rw [mem_baseRows inGrid, tilesY_eq]
    rcases tile.size.isTileLength_height with size | size | size | size <;>
      rw [size] at inside ⊢ <;> omega
  apply List.ne_nil_of_mem
  exact List.mem_flatMap.mpr ⟨_, row, List.mem_map.mpr ⟨_, column, rfl⟩⟩

theorem collectWireTileBaseIds_eq
    (inGrid : tile.tileId < geometry.totalWireTiles tile.size) :
    geometry.collectWireTileBaseIds tile = some (geometry.baseIds tile) := by
  have columns := geometry.columns_pos tile.size
  have width : 0 < visibleLength geometry.displayWidth
      (tile.tileId % tilesForWidthWithTile geometry.displayWidth
        tile.size.width * tile.size.width) tile.size.width :=
    visibleLength_pos (column_lt tile.tileId) tile.size.isTileLength_width.pos
  have height : 0 < visibleLength geometry.displayHeight
      (tile.tileId / tilesForWidthWithTile geometry.displayWidth
        tile.size.width * tile.size.height) tile.size.height :=
    visibleLength_pos (row_lt inGrid) tile.size.isTileLength_height.pos
  have valid :
      (geometry.baseIds tile).all (· < geometry.totalTiles) = true := by
    rw [List.all_eq_true]
    intro tileId member
    exact decide_eq_true ((mem_baseIds inGrid).mp member).1
  have same : tileXFor tile.tileId
      (tilesForWidthWithTile geometry.displayWidth tile.size.width) =
        tile.tileId %
          tilesForWidthWithTile geometry.displayWidth tile.size.width := by
    rw [tileXFor, if_neg (by omega)]
  have sameY : tileYFor tile.tileId
      (tilesForWidthWithTile geometry.displayWidth tile.size.width) =
        tile.tileId /
          tilesForWidthWithTile geometry.displayWidth tile.size.width := by
    rw [tileYFor, if_neg (by omega)]
  have fits := And.intro valid
    (And.intro (length_baseIds inGrid) (baseIds_ne_nil inGrid))
  simp only [baseIds, baseRows, baseColumns] at fits
  simp only [collectWireTileBaseIds, tileStartXForTile, tileStartYForTile,
    tileVisibleWidthForTile, tileVisibleHeightForTile, same, sameY,
    baseTileWidth, baseTileHeight]
  rw [if_neg (by omega)]
  simp only [tilesX_eq, tilesY_eq] at fits ⊢
  rw [if_pos fits, baseIds, tilesX_eq]
  rfl

theorem collectWireTileBaseIds_lt {ids : List Nat}
    (collected : geometry.collectWireTileBaseIds tile = some ids)
    (member : tileId ∈ ids) : tileId < geometry.totalTiles := by
  simp only [collectWireTileBaseIds] at collected
  split_ifs at collected with _ fits
  rw [Option.some.injEq] at collected
  rw [← collected] at member
  exact of_decide_eq_true (List.all_eq_true.mp fits.1 tileId member)

/-! ## Regions -/

theorem column_place (geometry : Geometry) (size : TileSize) (tileId : Nat) :
    tileId % geometry.tilesX * 16 < geometry.displayWidth ∧
      tileId % geometry.tilesX * 16 / size.width <
        tilesForWidthWithTile geometry.displayWidth size.width := by
  have inRow : tileId % geometry.tilesX < geometry.tilesX :=
    Nat.mod_lt _ geometry.tilesX_pos
  rw [tilesX_eq] at inRow ⊢
  rw [tilesForWidth_eq, lt_tiles_iff size.isTileLength_width]
  have below := Nat.div_mul_le_self
    (tileId % ((geometry.displayWidth + 15) / 16) * 16) size.width
  omega

theorem row_place (size : TileSize) (valid : tileId < geometry.totalTiles) :
    tileId / geometry.tilesX * 16 < geometry.displayHeight ∧
      tileId / geometry.tilesX * 16 / size.height <
        tilesForHeightWithTile geometry.displayHeight size.height := by
  have inside : tileId / geometry.tilesX < geometry.tilesY :=
    Nat.div_lt_of_lt_mul (by rwa [totalTiles, Nat.mul_comm] at valid)
  rw [tilesY_eq] at inside
  rw [tilesForHeight_eq, lt_tiles_iff size.isTileLength_height]
  have below := Nat.div_mul_le_self (tileId / geometry.tilesX * 16) size.height
  omega

theorem wireTile_lt (size : TileSize) (valid : tileId < geometry.totalTiles) :
    tileId / geometry.tilesX * 16 / size.height *
        tilesForWidthWithTile geometry.displayWidth size.width +
      tileId % geometry.tilesX * 16 / size.width <
        geometry.totalWireTiles size := by
  have column := (geometry.column_place size tileId).2
  have row := Nat.mul_le_mul_right
    (tilesForWidthWithTile geometry.displayWidth size.width)
    (row_place size valid).2
  rw [totalWireTiles_eq, Nat.mul_comm
    (tilesForWidthWithTile geometry.displayWidth size.width)]
  rw [Nat.succ_mul] at row
  omega

theorem wireTileForPixel_eq {x y : Nat}
    (column : x < geometry.displayWidth ∧ x / size.width <
      tilesForWidthWithTile geometry.displayWidth size.width)
    (row : y < geometry.displayHeight ∧ y / size.height <
      tilesForHeightWithTile geometry.displayHeight size.height)
    (few : y / size.height *
        tilesForWidthWithTile geometry.displayWidth size.width +
      x / size.width ≤ uint16Limit) :
    geometry.wireTileForPixel size x y = some (y / size.height *
        tilesForWidthWithTile geometry.displayWidth size.width +
      x / size.width) := by
  have outside : ¬(x ≥ geometry.displayWidth ∨ y ≥ geometry.displayHeight) := by
    omega
  have columns := geometry.columns_pos size
  have rows := geometry.rows_pos size
  unfold wireTileForPixel
  dsimp only
  rw [if_neg outside, if_neg (by omega),
    if_neg (not_or.mpr ⟨Nat.not_le.mpr column.2,
      not_or.mpr ⟨Nat.not_le.mpr row.2, Nat.not_lt.mpr few⟩⟩)]

theorem topRegionForBaseTile_eq (valid : tileId < geometry.totalTiles) :
    geometry.topRegionForBaseTile tileId =
      some (tileId / geometry.tilesX * 16 / 64 *
        tilesForWidthWithTile geometry.displayWidth 128 +
          tileId % geometry.tilesX * 16 / 128) := by
  have few : geometry.totalWireTiles .tile128x64 ≤ uint16Limit := by
    rw [totalWireTiles_eq]
    exact Nat.le_trans (geometry.wireTiles_le _) geometry.totalTiles_le
  have inGrid := wireTile_lt .tile128x64 valid
  rw [topRegionForBaseTile, if_neg (by omega)]
  exact wireTileForPixel_eq (geometry.column_place .tile128x64 tileId)
    (row_place .tile128x64 valid) (Nat.le_trans (Nat.le_of_lt inGrid) few)

variable {region : Nat}

theorem topRegionForBaseTile_eq_some :
    geometry.topRegionForBaseTile tileId = some region ↔
      geometry.CoveredBy ⟨.tile128x64, region⟩ tileId := by
  constructor
  · intro found
    have valid : tileId < geometry.totalTiles := by
      by_contra outside
      rw [topRegionForBaseTile, if_pos (by omega)] at found
      contradiction
    have column := (geometry.column_place .tile128x64 tileId).2
    rw [topRegionForBaseTile_eq valid, Option.some.injEq] at found
    simp only [CoveredBy, TileSize.width, TileSize.height] at column ⊢
    rw [← found]
    refine ⟨valid, ?_, ?_⟩
    · rw [Nat.add_comm, Nat.add_mul_mod_self_right, Nat.mod_eq_of_lt column]
    · rw [Nat.add_comm, Nat.add_mul_div_right _ _ (by omega),
        Nat.div_eq_of_lt column, Nat.zero_add]
  · rintro ⟨valid, column, row⟩
    simp only [TileSize.width, TileSize.height] at column row
    rw [topRegionForBaseTile_eq valid, column, row, Nat.div_add_mod']

theorem topRegionForBaseTile_lt
    (found : geometry.topRegionForBaseTile tileId = some region) :
    region < geometry.totalRegions := by
  have valid := (topRegionForBaseTile_eq_some.mp found).1
  rw [topRegionForBaseTile_eq valid, Option.some.injEq] at found
  rw [← found]
  exact wireTile_lt .tile128x64 valid

/-- The base tiles of a region; a number beyond the last region has none. -/
def regionBaseIds (geometry : Geometry) (region : Nat) : List Nat :=
  (geometry.collectWireTileBaseIds ⟨.tile128x64, region⟩).getD []

theorem regionBaseIds_eq (inGrid : region < geometry.totalRegions) :
    geometry.regionBaseIds region =
      geometry.baseIds ⟨.tile128x64, region⟩ := by
  rw [regionBaseIds, collectWireTileBaseIds_eq inGrid, Option.getD_some]

theorem mem_regionBaseIds (inGrid : region < geometry.totalRegions) :
    tileId ∈ geometry.regionBaseIds region ↔
      geometry.topRegionForBaseTile tileId = some region := by
  rw [regionBaseIds_eq inGrid, mem_baseIds inGrid, topRegionForBaseTile_eq_some]

theorem regionBaseIds_ne_nil (inGrid : region < geometry.totalRegions) :
    geometry.regionBaseIds region ≠ [] := by
  rw [regionBaseIds_eq inGrid]
  exact baseIds_ne_nil inGrid

end Geometry

end WayDisplay.Common
