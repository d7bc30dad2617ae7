import Mathlib.Data.List.Nodup
import WayDisplay.Client.Geometry
import WayDisplay.Common.TileCover
import WayDisplay.Common.TilePacket

/-!
The base tiles of a wire tile, on both sides of the connection.

Four functions compute them: one of the server for what a send covers, one of
the encode jobs, one of the client's reassembler and one for completed tiles.
Each walks a block of rows and columns.  The two of the server give up when the
block leaves the display or does not fit, the two of the client skip what
leaves the display.  On the displays that a configuration can name they visit
the same base tiles in the same order.
-/

namespace WayDisplay.Coverage

open Common
open Client (ServerConfig Point)

/-! ## Grids -/

/-- What the server, its encode jobs and the client's configuration know of the
display. -/
structure TileGrid where
  displayWidth : Nat
  displayHeight : Nat
  tileWidth : Nat
  tileHeight : Nat
  tilesX : Nat
  tilesY : Nat
  totalTiles : Nat
  deriving DecidableEq, Repr

/-- `wd_server_compute_geometry`, for a display that it accepts. -/
def computeGeometry (display : ServerConfig) : TileGrid where
  displayWidth := display.width
  displayHeight := display.height
  tileWidth := display.tile.width
  tileHeight := display.tile.height
  tilesX := tilesForWidthWithTile display.width display.tile.width
  tilesY := tilesForHeightWithTile display.height display.tile.height
  totalTiles := tilesForWidthWithTile display.width display.tile.width *
    tilesForHeightWithTile display.height display.tile.height % 2 ^ 16

/-- `wd_stream_init_encode_job_locked` copies the server's fields. -/
def initEncodeJob (server : TileGrid) : TileGrid where
  displayWidth := server.displayWidth
  displayHeight := server.displayHeight
  tileWidth := server.tileWidth
  tileHeight := server.tileHeight
  tilesX := server.tilesX
  tilesY := server.tilesY
  totalTiles := server.totalTiles

/-- `wd_server_fill_config` sends the display's size in 16 bits. -/
def fillConfig (server : TileGrid) : TileGrid where
  displayWidth := server.displayWidth % 2 ^ 16
  displayHeight := server.displayHeight % 2 ^ 16
  tileWidth := server.tileWidth
  tileHeight := server.tileHeight
  tilesX := server.tilesX
  tilesY := server.tilesY
  totalTiles := server.totalTiles

/-! ## The server's functions -/

def collectBaseId (grid : TileGrid) (maxCount row : Nat) (ids : List Nat)
    (column : Nat) : Option (List Nat) :=
  let baseId := row * grid.tilesX + column
  if baseId ≥ grid.totalTiles ∨ ids.length ≥ maxCount then none
  else some (ids ++ [baseId % 2 ^ 16])

def collectBlock (grid : TileGrid) (maxCount : Nat) (rows columns : List Nat) :
    Option (List Nat) :=
  rows.foldlM
    (fun ids row => columns.foldlM (collectBaseId grid maxCount row) ids) []

/-- `bx1` and `by1` of the source. -/
def clampLast (last tiles : Nat) : Nat :=
  if last ≥ tiles then tiles - 1 else last

def collectBaseIds (grid : TileGrid)
    (tileId tileWidth tileHeight maxCount : Nat) : Option (List Nat) :=
  if tileWidth = 0 ∨ tileHeight = 0 ∨ grid.tileWidth = 0 ∨
      grid.tileHeight = 0 then none
  else
    let tilesX := tilesForWidthWithTile grid.displayWidth tileWidth
    if tilesX = 0 then none
    else
      let x := tileStartXForTile tileId tilesX tileWidth
      let y := tileStartYForTile tileId tilesX tileHeight
      let w := tileVisibleWidthForTile grid.displayWidth tileId tilesX tileWidth
      let h :=
        tileVisibleHeightForTile grid.displayHeight tileId tilesX tileHeight
      if w = 0 ∨ h = 0 then none
      else
        let bx0 := x / grid.tileWidth
        let by0 := y / grid.tileHeight
        let bx1 := clampLast ((x + w - 1) / grid.tileWidth) grid.tilesX
        let by1 := clampLast ((y + h - 1) / grid.tileHeight) grid.tilesY
        (collectBlock grid maxCount (idsFrom by0 (by1 + 1 - by0))
          (idsFrom bx0 (bx1 + 1 - bx0))).filter fun ids => ids.length ≠ 0

/-- `wd_stream_collect_wire_tile_base_ids`, as its callers use it. -/
def collectWireTileBaseIds (server : TileGrid) (tile : WireTile) :
    Option (List Nat) :=
  collectBaseIds server tile.tileId tile.size.width tile.size.height
    wireTileMaxBaseTiles

def jobCollectWireTileBaseIds (job : TileGrid) (tile : WireTile) :
    Option (List Nat) :=
  collectBaseIds job tile.tileId tile.size.width tile.size.height
    wireTileMaxBaseTiles

/-! ## The client's functions -/

variable {σ : Type}

def visitBaseId (config : TileGrid) (fn : σ → Nat → σ) (row : Nat) (state : σ)
    (column : Nat) : σ :=
  let baseId := row * config.tilesX + column
  if baseId < config.totalTiles then fn state (baseId % 2 ^ 16) else state

def visitBlock (config : TileGrid) (fn : σ → Nat → σ)
    (rows columns : List Nat) (state : σ) : σ :=
  rows.foldl (fun state row => columns.foldl (visitBaseId config fn row) state)
    state

/-- `for_each_base_tile_covered` of the reassembler, on the size code of the
packet header. -/
def forEachBaseTileCovered (config : TileGrid) (tileSize tileId : Nat)
    (fn : σ → Nat → σ) (state : σ) : σ :=
  match TileSize.ofCode tileSize with
  | none => state
  | some size =>
    if config.tileWidth = 0 ∨ config.tileHeight = 0 then state
    else
      let tilesX := tilesForWidthWithTile config.displayWidth size.width
      if tilesX = 0 then state
      else
        let x := tileStartXForTile tileId tilesX size.width
        let y := tileStartYForTile tileId tilesX size.height
        let w := tileVisibleWidthForTile config.displayWidth tileId tilesX
          size.width
        let h := tileVisibleHeightForTile config.displayHeight tileId tilesX
          size.height
        if w = 0 ∨ h = 0 then state
        else
          let bx0 := x / config.tileWidth
          let by0 := y / config.tileHeight
          let bx1 := clampLast ((x + w - 1) / config.tileWidth) config.tilesX
          let by1 := clampLast ((y + h - 1) / config.tileHeight) config.tilesY
          visitBlock config fn (idsFrom by0 (by1 + 1 - by0))
            (idsFrom bx0 (bx1 + 1 - bx0)) state

/-- `for_each_completed_base_tile`, on the dimensions of a completed tile. -/
def forEachCompletedBaseTile (config : TileGrid)
    (tileId tileWidth tileHeight : Nat) (fn : σ → Nat → σ) (state : σ) : σ :=
  if config.tileWidth = 0 ∨ config.tileHeight = 0 ∨ tileWidth = 0 ∨
      tileHeight = 0 then state
  else
    let tilesX := tilesForWidthWithTile config.displayWidth tileWidth
    if tilesX = 0 then state
    else
      let x := tileStartXForTile tileId tilesX tileWidth
      let y := tileStartYForTile tileId tilesX tileHeight
      let w := tileVisibleWidthForTile config.displayWidth tileId tilesX
        tileWidth
      let h := tileVisibleHeightForTile config.displayHeight tileId tilesX
        tileHeight
      if w = 0 ∨ h = 0 then state
      else
        let bx0 := x / config.tileWidth
        let by0 := y / config.tileHeight
        let bx1 := min ((x + w - 1) / config.tileWidth) (config.tilesX - 1)
        let by1 := min ((y + h - 1) / config.tileHeight) (config.tilesY - 1)
        visitBlock config fn (idsFrom by0 (by1 + 1 - by0))
          (idsFrom bx0 (bx1 + 1 - bx0)) state

/-! ## Loops over a block -/

def blockNumbers (tilesX : Nat) (rows columns : List Nat) : List Nat :=
  rows.flatMap fun row => columns.map fun column => row * tilesX + column

theorem collectBaseId_number (grid : TileGrid) (maxCount row column : Nat)
    (ids : List Nat) :
    collectBaseId grid maxCount 0 ids (row * grid.tilesX + column) =
      collectBaseId grid maxCount row ids column := by
  simp only [collectBaseId, Nat.zero_mul, Nat.zero_add]

theorem visitBaseId_number (config : TileGrid) (fn : σ → Nat → σ)
    (row column : Nat) (state : σ) :
    visitBaseId config fn 0 state (row * config.tilesX + column) =
      visitBaseId config fn row state column := by
  simp only [visitBaseId, Nat.zero_mul, Nat.zero_add]

theorem foldlM_blockNumbers {β : Type} (step : β → Nat → Option β)
    (tilesX : Nat) (rows columns : List Nat) (state : β) :
    (blockNumbers tilesX rows columns).foldlM step state =
      rows.foldlM (fun state row => columns.foldlM
        (fun state column => step state (row * tilesX + column)) state)
        state := by
  induction rows generalizing state with
  | nil => rfl
  | cons row rows ih =>
      rw [blockNumbers, List.flatMap_cons, List.foldlM_append, List.foldlM_map,
        List.foldlM_cons]
      exact bind_congr fun state => ih state

theorem collectIds_eq {grid : TileGrid} {maxCount : Nat}
    (small : grid.totalTiles ≤ 2 ^ 16) (numbers : List Nat) {ids : List Nat}
    (valid : ∀ baseId ∈ numbers, baseId < grid.totalTiles)
    (room : ids.length + numbers.length ≤ maxCount) :
    numbers.foldlM (collectBaseId grid maxCount 0) ids =
      some (ids ++ numbers) := by
  induction numbers generalizing ids with
  | nil => simp
  | cons baseId numbers ih =>
      have inside := valid baseId List.mem_cons_self
      rw [List.length_cons] at room
      have first : collectBaseId grid maxCount 0 ids baseId =
          some (ids ++ [baseId]) := by
        simp only [collectBaseId, Nat.zero_mul, Nat.zero_add]
        rw [if_neg (by omega), Nat.mod_eq_of_lt (by omega)]
      rw [List.foldlM_cons, first, Option.bind_eq_bind, Option.bind_some]
      rw [ih (fun other member => valid other (List.mem_cons_of_mem _ member))
        (by rw [List.length_append, List.length_singleton]; omega)]
      simp

theorem collectBlock_eq {grid : TileGrid} {maxCount : Nat}
    {rows columns : List Nat} (small : grid.totalTiles ≤ 2 ^ 16)
    (valid : ∀ baseId ∈ blockNumbers grid.tilesX rows columns,
      baseId < grid.totalTiles)
    (room : (blockNumbers grid.tilesX rows columns).length ≤ maxCount) :
    collectBlock grid maxCount rows columns =
      some (blockNumbers grid.tilesX rows columns) := by
  have all : _ = some ([] ++ _) :=
    collectIds_eq small _ valid (by simpa using room)
  simp only [foldlM_blockNumbers, collectBaseId_number] at all
  exact all

/-- The client's loop calls `fn` for each number of a valid block in order. -/
theorem visitBlock_eq {config : TileGrid} {fn : σ → Nat → σ}
    {columns : List Nat} (small : config.totalTiles ≤ 2 ^ 16)
    (rows : List Nat) {state : σ}
    (valid : ∀ baseId ∈ blockNumbers config.tilesX rows columns,
      baseId < config.totalTiles) :
    visitBlock config fn rows columns state =
      (blockNumbers config.tilesX rows columns).foldl fn state := by
  have visits : ∀ state, ∀ baseId ∈ blockNumbers config.tilesX rows columns,
      visitBaseId config fn 0 state baseId = fn state baseId := by
    intro state baseId member
    have inside := valid baseId member
    simp only [visitBaseId, Nat.zero_mul, Nat.zero_add]
    rw [if_pos inside, Nat.mod_eq_of_lt (by omega)]
  rw [← List.foldl_ext _ _ _ visits, blockNumbers, List.foldl_flatMap]
  simp only [List.foldl_map, visitBaseId_number]
  rfl

/-! ## The block under a wire tile -/

def visibleRect (display : ServerConfig) (tile : WireTile) : Rect where
  x := tileStartXForTile tile.tileId
    (tilesForWidthWithTile display.width tile.size.width) tile.size.width
  y := tileStartYForTile tile.tileId
    (tilesForWidthWithTile display.width tile.size.width) tile.size.height
  width := tileVisibleWidthForTile display.width tile.tileId
    (tilesForWidthWithTile display.width tile.size.width) tile.size.width
  height := tileVisibleHeightForTile display.height tile.tileId
    (tilesForWidthWithTile display.width tile.size.width) tile.size.height

def InGrid (display : ServerConfig) (tile : WireTile) : Prop :=
  tile.tileId < tilesForWidthWithTile display.width tile.size.width *
    tilesForHeightWithTile display.height tile.size.height

def Intersects (display : ServerConfig) (tile : WireTile) (baseId : Nat) :
    Prop :=
  InGrid display ⟨display.tile, baseId⟩ ∧
    ∃ x y, (visibleRect display tile).contains x y = true ∧
      (visibleRect display ⟨display.tile, baseId⟩).contains x y = true

section Block

variable {display : ServerConfig} {tile : WireTile}

theorem shows_visibleRect (inGrid : InGrid display tile) :
    Client.Shows display tile (visibleRect display tile) := by
  obtain ⟨rect, placed⟩ := Option.isSome_iff_exists.mp
    (Client.tileUploadGeometry_isSome inGrid)
  have shows := Client.shows_of_geometry placed
  have x : (visibleRect display tile).x = rect.x := by
    rw [visibleRect, tileStartXForTile, tileXFor, if_neg shows.columns,
      shows.x_eq]
  have y : (visibleRect display tile).y = rect.y := by
    rw [visibleRect, tileStartYForTile, tileYFor, if_neg shows.columns,
      shows.y_eq]
  have left : (visibleRect display tile).x < display.width := x ▸ shows.x_lt
  have top : (visibleRect display tile).y < display.height := y ▸ shows.y_lt
  exact ⟨shows.columns, x.trans shows.x_eq, y.trans shows.y_eq,
    Client.visibleLength_eq left, Client.visibleLength_eq top, left, top⟩

theorem visibleRect_contains (inGrid : InGrid display tile) {x y : Nat} :
    (visibleRect display tile).contains x y = true ↔
      display.onDisplay (x, y) ∧
        x / tile.size.width = tile.tileId %
          tilesForWidthWithTile display.width tile.size.width ∧
        y / tile.size.height = tile.tileId /
          tilesForWidthWithTile display.width tile.size.width := by
  have shows := shows_visibleRect inGrid
  have wide : 0 < tile.size.width := tile.size.isTileLength_width.pos
  have high : 0 < tile.size.height := tile.size.isTileLength_height.pos
  constructor
  · intro inside
    have shown : display.onDisplay (x, y) := shows.visible.onDisplay inside
    obtain ⟨left, right, top, bottom⟩ := Rect.contains_iff.mp inside
    rw [shows.width_eq, shows.x_eq] at right
    rw [shows.x_eq] at left
    rw [shows.height_eq, shows.y_eq] at bottom
    rw [shows.y_eq] at top
    exact ⟨shown, (Client.inside_clipped_iff wide shown.1).mp ⟨left, right⟩,
      (Client.inside_clipped_iff high shown.2).mp ⟨top, bottom⟩⟩
  · rintro ⟨shown, column, row⟩
    obtain ⟨left, right⟩ := (Client.inside_clipped_iff wide shown.1).mpr column
    obtain ⟨top, bottom⟩ := (Client.inside_clipped_iff high shown.2).mpr row
    rw [Rect.contains_iff, shows.width_eq, shows.height_eq, shows.x_eq,
      shows.y_eq]
    exact ⟨left, right, top, bottom⟩

theorem visibleRect_base_contains {baseId x y : Nat}
    (valid : InGrid display ⟨display.tile, baseId⟩) :
    (visibleRect display ⟨display.tile, baseId⟩).contains x y = true ↔
      display.onDisplay (x, y) ∧ display.tileAt (x, y) = baseId := by
  rw [visibleRect_contains valid]
  refine and_congr_right fun shown => ?_
  have column := display.column_lt shown.1
  rw [ServerConfig.tileAt]
  constructor
  · rintro ⟨inRow, ofRow⟩
    rw [inRow, ofRow]
    exact Nat.div_add_mod' _ _
  · rintro rfl
    have positive : 0 < display.tilesX :=
      Nat.lt_of_le_of_lt (Nat.zero_le _) column
    change _ = (_ * display.tilesX + _) % display.tilesX ∧
      _ = (_ * display.tilesX + _) / display.tilesX
    rw [Nat.add_comm, Nat.add_mul_mod_self_right, Nat.mod_eq_of_lt column,
      Nat.add_mul_div_right _ _ positive, Nat.div_eq_of_lt column,
      Nat.zero_add]
    exact ⟨rfl, rfl⟩

theorem intersects_iff (inGrid : InGrid display tile) {baseId : Nat} :
    Intersects display tile baseId ↔ ∃ point : Point,
      (visibleRect display tile).contains point.1 point.2 = true ∧
        display.tileAt point = baseId := by
  have visible := (shows_visibleRect inGrid).visible
  constructor
  · rintro ⟨valid, x, y, inside, inBase⟩
    exact ⟨(x, y), inside, ((visibleRect_base_contains valid).mp inBase).2⟩
  · rintro ⟨⟨x, y⟩, inside, rfl⟩
    have shown := visible.onDisplay inside
    have valid : InGrid display ⟨display.tile, display.tileAt (x, y)⟩ :=
      display.tileAt_lt shown
    exact ⟨valid, x, y, inside,
      (visibleRect_base_contains valid).mpr ⟨shown, rfl⟩⟩

end Block

/-! ### Its rows and columns -/

def spanned (first length tileLength : Nat) : List Nat :=
  idsFrom (first / tileLength)
    ((first + length - 1) / tileLength + 1 - first / tileLength)

/-- A wire tile meets at most as many base tiles along a side as it would if
they had the least size. -/
theorem length_spanned {index tileLength length baseLength : Nat}
    (size : IsTileLength tileLength) (base : IsTileLength baseLength)
    (shown : 0 < length) (clipped : length ≤ tileLength) :
    (spanned (index * tileLength) length baseLength).length ≤
      tileLength / 16 := by
  rw [spanned, idsFrom, List.length_map, List.length_range]
  rcases size with rfl | rfl | rfl | rfl <;>
    rcases base with rfl | rfl | rfl | rfl <;> omega

theorem nodup_idsFrom (start count : Nat) : (idsFrom start count).Nodup := by
  rw [idsFrom]
  exact List.nodup_range.map fun _ _ same => Nat.add_left_cancel same

theorem nodup_blockNumbers {tilesX : Nat} {rows columns : List Nat}
    (rowsNodup : rows.Nodup) (columnsNodup : columns.Nodup)
    (inRow : ∀ column ∈ columns, column < tilesX) :
    (blockNumbers tilesX rows columns).Nodup := by
  rw [blockNumbers, List.nodup_flatMap]
  constructor
  · intro row _
    exact columnsNodup.map fun _ _ same => Nat.add_left_cancel same
  · refine rowsNodup.imp fun different => ?_
    intro baseId first second
    obtain ⟨column, member, rfl⟩ := List.mem_map.mp first
    obtain ⟨other, otherMember, same⟩ := List.mem_map.mp second
    exact different (Client.index_injective (inRow other otherMember)
      (inRow column member) same).1.symm

theorem length_blockNumbers (tilesX : Nat) (rows columns : List Nat) :
    (blockNumbers tilesX rows columns).length =
      rows.length * columns.length := by
  simp [blockNumbers, List.length_flatMap]

section Cover

variable (display : ServerConfig) (tile : WireTile)

def coveredColumns : List Nat :=
  spanned (visibleRect display tile).x (visibleRect display tile).width
    display.tile.width

def coveredRows : List Nat :=
  spanned (visibleRect display tile).y (visibleRect display tile).height
    display.tile.height

def coveredIds : List Nat :=
  blockNumbers display.tilesX (coveredRows display tile)
    (coveredColumns display tile)

variable {display tile}

theorem mem_spanned {first length tileLength index : Nat}
    (positive : 0 < tileLength) (nonempty : 0 < length) :
    index ∈ spanned first length tileLength ↔
      ∃ x, first ≤ x ∧ x < first + length ∧ x / tileLength = index := by
  rw [← Client.between_div_iff positive (by omega), spanned, mem_idsFrom]
  have ordered : first / tileLength ≤ (first + length - 1) / tileLength :=
    Nat.div_le_div_right (by omega)
  omega

theorem coveredColumns_lt (inGrid : InGrid display tile) {column : Nat}
    (member : column ∈ coveredColumns display tile) :
    column < display.tilesX := by
  have visible := (shows_visibleRect inGrid).visible
  obtain ⟨x, _, right, rfl⟩ :=
    (mem_spanned display.tile_width_pos visible.wide).mp member
  exact display.column_lt (Nat.lt_of_lt_of_le right visible.insideX)

theorem mem_coveredIds (inGrid : InGrid display tile) {baseId : Nat} :
    baseId ∈ coveredIds display tile ↔ Intersects display tile baseId := by
  have visible := (shows_visibleRect inGrid).visible
  rw [intersects_iff inGrid]
  simp only [coveredIds, blockNumbers, List.mem_flatMap, List.mem_map]
  constructor
  · rintro ⟨row, inRows, column, inColumns, rfl⟩
    obtain ⟨x, left, right, rfl⟩ :=
      (mem_spanned display.tile_width_pos visible.wide).mp inColumns
    obtain ⟨y, top, bottom, rfl⟩ :=
      (mem_spanned display.tile_height_pos visible.high).mp inRows
    exact ⟨(x, y), Rect.contains_iff.mpr ⟨left, right, top, bottom⟩, rfl⟩
  · rintro ⟨⟨x, y⟩, inside, rfl⟩
    obtain ⟨left, right, top, bottom⟩ := Rect.contains_iff.mp inside
    exact ⟨_, (mem_spanned display.tile_height_pos visible.high).mpr
      ⟨y, top, bottom, rfl⟩, _,
      (mem_spanned display.tile_width_pos visible.wide).mpr
        ⟨x, left, right, rfl⟩, rfl⟩

theorem coveredIds_lt (inGrid : InGrid display tile) {baseId : Nat}
    (member : baseId ∈ coveredIds display tile) :
    baseId < display.totalTiles :=
  ((mem_coveredIds inGrid).mp member).1

theorem nodup_coveredIds (inGrid : InGrid display tile) :
    (coveredIds display tile).Nodup :=
  nodup_blockNumbers (nodup_idsFrom _ _) (nodup_idsFrom _ _)
    fun _ member => coveredColumns_lt inGrid member

theorem length_coveredIds (inGrid : InGrid display tile) :
    (coveredIds display tile).length ≤ wireTileMaxBaseTiles := by
  have shows := shows_visibleRect inGrid
  have visible := shows.visible
  have columns : (coveredColumns display tile).length ≤
      tile.size.width / 16 := by
    rw [coveredColumns, shows.x_eq]
    refine length_spanned tile.size.isTileLength_width
      display.tile.isTileLength_width visible.wide ?_
    rw [shows.width_eq]
    exact Nat.min_le_left _ _
  have rows : (coveredRows display tile).length ≤ tile.size.height / 16 := by
    rw [coveredRows, shows.y_eq]
    refine length_spanned tile.size.isTileLength_height
      display.tile.isTileLength_height visible.high ?_
    rw [shows.height_eq]
    exact Nat.min_le_left _ _
  rw [coveredIds, length_blockNumbers]
  refine Nat.le_trans (Nat.mul_le_mul rows columns) ?_
  cases tile.size <;> decide

theorem coveredIds_ne_nil (inGrid : InGrid display tile) :
    coveredIds display tile ≠ [] := by
  have visible := (shows_visibleRect inGrid).visible
  have corner : Intersects display tile (display.tileAt
      ((visibleRect display tile).x, (visibleRect display tile).y)) := by
    rw [intersects_iff inGrid]
    refine ⟨_, Rect.contains_iff.mpr ⟨Nat.le_refl _, ?_, Nat.le_refl _, ?_⟩,
      rfl⟩
    · exact Nat.lt_add_of_pos_right visible.wide
    · exact Nat.lt_add_of_pos_right visible.high
  exact List.ne_nil_of_mem ((mem_coveredIds inGrid).mpr corner)

end Cover

/-! ## Agreement -/

section Agreement

variable {display : ServerConfig} {tile : WireTile}

theorem display_totalTiles_lt (display : ServerConfig) :
    display.totalTiles < 2 ^ 16 :=
  Nat.lt_of_le_of_lt (Client.tiles_le_of_display display display.tile)
    (by decide)

theorem computeGeometry_totalTiles (display : ServerConfig) :
    (computeGeometry display).totalTiles = display.totalTiles :=
  Nat.mod_eq_of_lt (display_totalTiles_lt display)

theorem initEncodeJob_eq (server : TileGrid) : initEncodeJob server = server :=
  rfl

theorem fillConfig_eq (display : ServerConfig) :
    fillConfig (computeGeometry display) = computeGeometry display := by
  have wide := display.width_le
  have high := display.height_le
  rw [Client.maxRenderWidth] at wide
  rw [Client.maxRenderHeight] at high
  have width : display.width % 2 ^ 16 = display.width :=
    Nat.mod_eq_of_lt (by omega)
  have height : display.height % 2 ^ 16 = display.height :=
    Nat.mod_eq_of_lt (by omega)
  simp only [fillConfig, computeGeometry, width, height]

theorem clampLast_eq {last tiles : Nat} (inside : last < tiles) :
    clampLast last tiles = last := by
  rw [clampLast, if_neg (by omega)]

theorem lastColumn_lt (inGrid : InGrid display tile) :
    ((visibleRect display tile).x + (visibleRect display tile).width - 1) /
      display.tile.width < display.tilesX := by
  have visible := (shows_visibleRect inGrid).visible
  have wide := visible.wide
  have inside := visible.insideX
  exact display.column_lt (by omega)

theorem lastRow_lt (inGrid : InGrid display tile) :
    ((visibleRect display tile).y + (visibleRect display tile).height - 1) /
      display.tile.height < display.tilesY := by
  have visible := (shows_visibleRect inGrid).visible
  have high := visible.high
  have inside := visible.insideY
  exact display.row_lt (by omega)

theorem computeGeometry_small (display : ServerConfig) :
    (computeGeometry display).totalTiles ≤ 2 ^ 16 := by
  rw [computeGeometry_totalTiles]
  exact Nat.le_of_lt (display_totalTiles_lt display)

theorem block_valid (inGrid : InGrid display tile) :
    ∀ baseId ∈ blockNumbers (computeGeometry display).tilesX
        (coveredRows display tile) (coveredColumns display tile),
      baseId < (computeGeometry display).totalTiles := by
  intro baseId member
  rw [computeGeometry_totalTiles]
  exact coveredIds_lt inGrid member

theorem columns_eq (inGrid : InGrid display tile) :
    idsFrom ((visibleRect display tile).x / display.tile.width)
        (clampLast (((visibleRect display tile).x +
          (visibleRect display tile).width - 1) / display.tile.width)
            display.tilesX + 1 -
              (visibleRect display tile).x / display.tile.width) =
      coveredColumns display tile := by
  rw [clampLast_eq (lastColumn_lt inGrid)]
  rfl

theorem rows_eq (inGrid : InGrid display tile) :
    idsFrom ((visibleRect display tile).y / display.tile.height)
        (clampLast (((visibleRect display tile).y +
          (visibleRect display tile).height - 1) / display.tile.height)
            display.tilesY + 1 -
              (visibleRect display tile).y / display.tile.height) =
      coveredRows display tile := by
  rw [clampLast_eq (lastRow_lt inGrid)]
  rfl

theorem shown (inGrid : InGrid display tile) :
    ¬((visibleRect display tile).width = 0 ∨
      (visibleRect display tile).height = 0) := by
  have visible := (shows_visibleRect inGrid).visible
  have wide := visible.wide
  have high := visible.high
  omega

theorem sizes_pos (display : ServerConfig) (tile : WireTile) :
    0 < tile.size.width ∧ 0 < tile.size.height ∧ 0 < display.tile.width ∧
      0 < display.tile.height :=
  ⟨tile.size.isTileLength_width.pos, tile.size.isTileLength_height.pos,
    display.tile_width_pos, display.tile_height_pos⟩

theorem collectBaseIds_eq (inGrid : InGrid display tile) :
    collectBaseIds (computeGeometry display) tile.tileId tile.size.width
        tile.size.height wireTileMaxBaseTiles =
      some (coveredIds display tile) := by
  have collected : collectBlock (computeGeometry display) wireTileMaxBaseTiles
      (coveredRows display tile) (coveredColumns display tile) =
        some (coveredIds display tile) :=
    collectBlock_eq (computeGeometry_small display) (block_valid inGrid)
      (length_coveredIds inGrid)
  have positive := sizes_pos display tile
  rw [collectBaseIds, if_neg (by simp only [computeGeometry]; omega)]
  refine (if_neg (shows_visibleRect inGrid).columns).trans ?_
  refine (if_neg (shown inGrid)).trans ?_
  rw [← rows_eq inGrid, ← columns_eq inGrid] at collected
  refine (congrArg (Option.filter _) collected).trans ?_
  simpa using coveredIds_ne_nil inGrid

theorem visitBlock_covered (inGrid : InGrid display tile) (fn : σ → Nat → σ)
    (state : σ) :
    visitBlock (computeGeometry display) fn (coveredRows display tile)
        (coveredColumns display tile) state =
      (coveredIds display tile).foldl fn state :=
  visitBlock_eq (computeGeometry_small display) _ (block_valid inGrid)

theorem forEachBaseTileCovered_eq (inGrid : InGrid display tile)
    (fn : σ → Nat → σ) (state : σ) :
    forEachBaseTileCovered (computeGeometry display) tile.size.code tile.tileId
        fn state =
      (coveredIds display tile).foldl fn state := by
  have visited := visitBlock_covered inGrid fn state
  have positive := sizes_pos display tile
  rw [forEachBaseTileCovered, TileSize.ofCode_code]
  refine (if_neg (by simp only [computeGeometry]; omega)).trans ?_
  refine (if_neg (shows_visibleRect inGrid).columns).trans ?_
  refine (if_neg (shown inGrid)).trans ?_
  rw [← rows_eq inGrid, ← columns_eq inGrid] at visited
  exact visited

theorem forEachCompletedBaseTile_eq (inGrid : InGrid display tile)
    (fn : σ → Nat → σ) (state : σ) :
    forEachCompletedBaseTile (computeGeometry display) tile.tileId
        tile.size.width tile.size.height fn state =
      (coveredIds display tile).foldl fn state := by
  have visited := visitBlock_covered inGrid fn state
  have positive := sizes_pos display tile
  have lastColumn := lastColumn_lt inGrid
  have lastRow := lastRow_lt inGrid
  rw [forEachCompletedBaseTile,
    if_neg (by simp only [computeGeometry]; omega)]
  refine (if_neg (shows_visibleRect inGrid).columns).trans ?_
  refine (if_neg (shown inGrid)).trans ?_
  rw [coveredRows, coveredColumns, spanned, spanned,
    ← Nat.min_eq_left (Nat.le_sub_one_of_lt lastColumn),
    ← Nat.min_eq_left (Nat.le_sub_one_of_lt lastRow)] at visited
  exact visited

/-! ### The models of the two sides -/

theorem wireTileBaseIds_eq (inGrid : InGrid display tile) :
    Client.wireTileBaseIds display tile = coveredIds display tile := by
  have lastColumn := lastColumn_lt inGrid
  have lastRow := lastRow_lt inGrid
  have noColumns := (shows_visibleRect inGrid).columns
  have hidden := shown inGrid
  have valid : (coveredIds display tile).filter (· < display.totalTiles) =
      coveredIds display tile := by
    rw [List.filter_eq_self]
    intro baseId member
    exact decide_eq_true (coveredIds_lt inGrid member)
  rw [Client.wireTileBaseIds]
  refine (if_neg (not_or.mpr ⟨noColumns, hidden⟩)).trans ?_
  refine Eq.trans ?_ valid
  rw [coveredIds, coveredRows, coveredColumns, spanned, spanned,
    ← Nat.min_eq_left (Nat.le_sub_one_of_lt lastColumn),
    ← Nat.min_eq_left (Nat.le_sub_one_of_lt lastRow)]
  rfl

theorem geometry_collectWireTileBaseIds_eq {geometry : Geometry}
    (width : geometry.displayWidth = display.width)
    (height : geometry.displayHeight = display.height)
    (base : display.tile = .tile16x16) (inGrid : InGrid display tile) :
    geometry.collectWireTileBaseIds tile = some (coveredIds display tile) := by
  have lastColumn := lastColumn_lt inGrid
  have lastRow := lastRow_lt inGrid
  have columns : geometry.tilesX = display.tilesX := by
    rw [Geometry.tilesX, ServerConfig.tilesX, width, base]
    rfl
  have rows : geometry.tilesY = display.tilesY := by
    rw [Geometry.tilesY, ServerConfig.tilesY, height, base]
    rfl
  have total : geometry.totalTiles = display.totalTiles := by
    rw [Geometry.totalTiles, ServerConfig.totalTiles, columns, rows,
      Nat.mul_comm]
  have valid : (coveredIds display tile).all (· < display.totalTiles) =
      true := by
    rw [List.all_eq_true]
    intro baseId member
    exact decide_eq_true (coveredIds_lt inGrid member)
  have fits := And.intro valid
    (And.intro (length_coveredIds inGrid) (coveredIds_ne_nil inGrid))
  simp only [coveredIds, coveredRows, coveredColumns, spanned, base]
    at fits lastColumn lastRow ⊢
  rw [← Nat.min_eq_left (Nat.le_sub_one_of_lt lastColumn),
    ← Nat.min_eq_left (Nat.le_sub_one_of_lt lastRow)] at fits ⊢
  rw [Geometry.collectWireTileBaseIds, columns, rows, total, width, height]
  refine (if_neg (not_or.mpr
    ⟨(shows_visibleRect inGrid).columns, shown inGrid⟩)).trans ?_
  exact if_pos fits

/-! ### All four -/

/-- `ids` is what each of the four functions finds under a wire tile, and
nothing else than the base tiles that the tile shows. -/
structure CoversAs (display : ServerConfig) (tile : WireTile)
    (ids : List Nat) : Prop where
  server :
    collectWireTileBaseIds (computeGeometry display) tile = some ids
  job : jobCollectWireTileBaseIds (initEncodeJob (computeGeometry display))
    tile = some ids
  reassembler : ∀ (σ : Type) (fn : σ → Nat → σ) (state : σ),
    forEachBaseTileCovered (fillConfig (computeGeometry display))
      tile.size.code tile.tileId fn state = ids.foldl fn state
  completed : ∀ (σ : Type) (fn : σ → Nat → σ) (state : σ),
    forEachCompletedBaseTile (fillConfig (computeGeometry display)) tile.tileId
      tile.size.width tile.size.height fn state = ids.foldl fn state
  intersecting : ∀ baseId, baseId ∈ ids ↔ Intersects display tile baseId
  nodup : ids.Nodup
  bounded : ids.length ≤ wireTileMaxBaseTiles

theorem covers_agree (display : ServerConfig) (tile : WireTile)
    (inGrid : InGrid display tile) : ∃ ids, CoversAs display tile ids := by
  refine ⟨coveredIds display tile, ?_⟩
  constructor
  case server => exact collectBaseIds_eq inGrid
  case job =>
    rw [initEncodeJob_eq]
    exact collectBaseIds_eq inGrid
  case reassembler =>
    intro σ fn state
    rw [fillConfig_eq]
    exact forEachBaseTileCovered_eq inGrid fn state
  case completed =>
    intro σ fn state
    rw [fillConfig_eq]
    exact forEachCompletedBaseTile_eq inGrid fn state
  case intersecting => exact fun baseId => mem_coveredIds inGrid
  case nodup => exact nodup_coveredIds inGrid
  case bounded => exact length_coveredIds inGrid

end Agreement

def unevenDisplay : ServerConfig :=
  ⟨149, 77, .tile16x16, by decide, by decide, by decide, by decide⟩

/-- The last wire tile covers the corner of the display only. -/
theorem covers_agree_lastTile :
    InGrid unevenDisplay ⟨.tile128x64, 3⟩ ∧
      ∃ ids, CoversAs unevenDisplay ⟨.tile128x64, 3⟩ ids :=
  have inGrid : InGrid unevenDisplay ⟨.tile128x64, 3⟩ := by
    unfold InGrid
    decide
  ⟨inGrid, covers_agree unevenDisplay ⟨.tile128x64, 3⟩ inGrid⟩

example : collectWireTileBaseIds (computeGeometry unevenDisplay)
    ⟨.tile128x64, 3⟩ = some [48, 49] := by
  decide

end WayDisplay.Coverage
