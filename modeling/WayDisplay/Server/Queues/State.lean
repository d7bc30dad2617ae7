import WayDisplay.Common.TileCover
import WayDisplay.Server.DirtyRegionScheduler
import WayDisplay.Server.Stream.SendPass

/-!
The queues of the send pass (`wd_stream.c`).

A dirty tile is flagged, counted, and known to the scheduler through its region.
A tile the client asked for is flagged and listed.  A send pass takes regions
from both in batches, encodes them and either commits a tile or puts its region
back.  The flags, the count, the list and the scheduler are changed at different
places; this model keeps all four.
-/

namespace WayDisplay.Server

open Common

namespace TileState

def clean (tile : TileState) : TileState := { tile with dirtyQueued := false }

/-- Fresh content supersedes a queued repair. -/
def supersede (tile : TileState) : TileState :=
  { tile.clearRetransmitRequest with dirtyQueued := true }

/-- The epoch moves whether or not the tile was dirty already. -/
def nextDirtyEpoch (tile : TileState) : TileState :=
  { tile with dirtyEpoch := tile.dirtyEpoch + 1 }

end TileState

structure TileQueues where
  geometry : Geometry
  tiles : Nat → TileState
  dirtyQueueCount : Nat
  retransmitQueue : List Nat
  scheduler : DirtyRegionScheduler
  dirtyRegionCursor : Nat

def dirtyRegionStarvationNs : Nat := 100000000

namespace TileQueues

def init (geometry : Geometry) : TileQueues where
  geometry
  tiles := fun _ => .fresh
  dirtyQueueCount := 0
  retransmitQueue := []
  scheduler := .create geometry.totalRegions dirtyRegionStarvationNs
  dirtyRegionCursor := 0

def updateTile (q : TileQueues) (tileId : Nat) (update : TileState → TileState) :
    TileQueues :=
  { q with tiles := Function.update q.tiles tileId (update (q.tiles tileId)) }

def withDirtyQueueCount (q : TileQueues) (count : Nat) : TileQueues :=
  { q with dirtyQueueCount := count }

def withScheduler (q : TileQueues) (scheduler : DirtyRegionScheduler) :
    TileQueues :=
  { q with scheduler := scheduler }

def withRetransmitQueue (q : TileQueues) (tileIds : List Nat) : TileQueues :=
  { q with retransmitQueue := tileIds }

@[simp]
theorem withRetransmitQueue_tiles (q : TileQueues) (tileIds : List Nat) :
    (q.withRetransmitQueue tileIds).tiles = q.tiles :=
  rfl

/-! ## Dirty tiles and their regions -/

def dirtyQueueNoteCleared (q : TileQueues) (tileId : Nat) : TileQueues :=
  if tileId ≥ q.geometry.totalTiles ∨ !(q.tiles tileId).dirtyQueued then q
  else
    (q.updateTile tileId .clean).withDirtyQueueCount (q.dirtyQueueCount - 1)

def dirtyQueuePush (q : TileQueues) (tileId : Nat) : TileQueues × Bool :=
  if tileId ≥ q.geometry.totalTiles then (q, false)
  else if (q.tiles tileId).dirtyQueued then (q, true)
  else if q.dirtyQueueCount ≥ q.geometry.totalTiles then (q, false)
  else
    ((q.updateTile tileId .supersede).withDirtyQueueCount
      (q.dirtyQueueCount + 1), true)

def markDirtyTopRegion (q : TileQueues) (tileId now : Nat) : TileQueues :=
  match q.geometry.topRegionForBaseTile tileId with
  | none => q
  | some region =>
      q.withScheduler (q.scheduler.enqueue region now true).1

def topRegionStillDirty (q : TileQueues) (region : Nat) : Bool :=
  (q.geometry.regionBaseIds region).any fun tileId =>
    decide (tileId < q.geometry.totalTiles) && (q.tiles tileId).dirtyQueued

def maybeClearDirtyTopRegion (q : TileQueues) (tileId : Nat) : TileQueues :=
  match q.geometry.topRegionForBaseTile tileId with
  | none => q
  | some region =>
      if q.topRegionStillDirty region then q
      else q.withScheduler (q.scheduler.forget region)

def requeueDirtyTopRegion (now : Nat) (q : TileQueues) (region : Nat) :
    TileQueues :=
  if !q.topRegionStillDirty region then q
  else
    match q.geometry.regionBaseIds region with
    | [] => q
    | first :: _ => q.markDirtyTopRegion first now

def detectOneDirtyTile (now : Nat) (q : TileQueues) (tileId : Nat) :
    TileQueues :=
  if tileId ≥ q.geometry.totalTiles then q
  else
    match (q.updateTile tileId .nextDirtyEpoch).dirtyQueuePush tileId with
    | (q, true) => q.markDirtyTopRegion tileId now
    | (q, false) =>
        if (q.tiles tileId).dirtyQueued then q.markDirtyTopRegion tileId now
        else q

/-- Tiles of a delivery that failed and have not been sent again since. -/
def redirtyTile (generation now : Nat) (q : TileQueues) (tileId : Nat) :
    TileQueues :=
  if (q.tiles tileId).generation ≤ generation then q.detectOneDirtyTile now tileId
  else q

def redirty (now : Nat) (q : TileQueues) (delivery : List Nat × Nat) :
    TileQueues :=
  delivery.1.foldl (redirtyTile delivery.2 now) q

/-! ## Repairs -/

def queueRetransmitTile (q : TileQueues) (videoOwnsDisplay : Bool)
    (tileId requestedGeneration : Nat) : TileQueues × Bool :=
  if tileId ≥ q.geometry.totalTiles then (q, false)
  else if videoOwnsDisplay then (q, false)
  else if (q.tiles tileId).dirtyQueued then (q, false)
  else if (q.tiles tileId).retransmitQueued then
    (q.updateTile tileId fun tile => tile.queueRetransmit requestedGeneration,
      false)
  else if q.retransmitQueue.length ≥ q.geometry.totalTiles then (q, false)
  else
    ((q.updateTile tileId fun tile =>
      tile.queueRetransmit requestedGeneration).withRetransmitQueue
        (q.retransmitQueue ++ [tileId]), true)

/-- A repair entry; an outdated generation is answered with the newest. -/
def requestRepair (videoOwnsDisplay : Bool) (q : TileQueues)
    (entry : Nat × Nat) : TileQueues :=
  if entry.1 ≥ q.geometry.totalTiles then q
  else
    (q.queueRetransmitTile videoOwnsDisplay entry.1
      (if entry.2 ≠ 0 ∧ (q.tiles entry.1).generation > entry.2 then 0
      else entry.2)).1

def compactRetransmitQueue (q : TileQueues) : TileQueues :=
  q.withRetransmitQueue (q.retransmitQueue.filter fun tileId =>
    decide (tileId < q.geometry.totalTiles) &&
      (q.tiles tileId).retransmitQueued)

/-! ## Everything at once -/

def collapseTileQueues (q : TileQueues) : TileQueues :=
  { q with
    tiles := fun tileId => (q.tiles tileId).collapse
    dirtyQueueCount := 0
    scheduler := q.scheduler.reset
    retransmitQueue := [] }

/-- A client has connected; generations and epochs of the tiles go on. -/
def startSession (q : TileQueues) : TileQueues :=
  { q.collapseTileQueues with dirtyRegionCursor := 0 }

end TileQueues

end WayDisplay.Server
