import WayDisplay.Common.TilePacket
import WayDisplay.Server.Stream.State

/-!
Tile queues and tile sends (`wd_stream.c`).

A base tile is dirty when fresh content waits to be sent, and queued for repair
when the client asked for it again.  A wire tile is encoded from the framebuffer,
numbered with the generation after the newest of the tiles it covers, cut into
packets, and committed only when all packets were taken by the UDP sender.
-/

namespace WayDisplay.Server

open Common

/-! ## Queues -/

namespace TileState

/-- Fresh content supersedes a queued repair. -/
def markDirty (tile : TileState) : TileState :=
  if tile.dirtyQueued then { tile with dirtyEpoch := tile.dirtyEpoch + 1 }
  else
    { tile with
      dirtyEpoch := tile.dirtyEpoch + 1
      dirtyQueued := true
      retransmitQueued := false
      retransmitRequestedGeneration :=
        if tile.retransmitQueued then 0
        else tile.retransmitRequestedGeneration }

def clearRetransmitRequest (tile : TileState) : TileState :=
  if tile.retransmitQueued then
    { tile with
      retransmitQueued := false
      retransmitRequestedGeneration := 0 }
  else tile

def collapse (tile : TileState) : TileState :=
  { tile with
    dirtyQueued := false
    retransmitQueued := false
    retransmitRequestedGeneration := 0 }

def queueRetransmit (tile : TileState) (requestedGeneration : Nat) : TileState :=
  if tile.dirtyQueued then tile
  else if tile.retransmitQueued then
    { tile with
      retransmitRequestedGeneration :=
        max tile.retransmitRequestedGeneration requestedGeneration }
  else
    { tile with
      retransmitQueued := true
      retransmitRequestedGeneration := requestedGeneration }

/-- A repair waits until the requested generation exists. -/
def retransmitSelected (tile : TileState) : Bool :=
  tile.retransmitQueued && !tile.dirtyQueued &&
    (tile.retransmitRequestedGeneration == 0 ||
      tile.retransmitRequestedGeneration ≤ tile.generation)

def withGeneration (tile : TileState) (generation : Nat) : TileState :=
  { tile with generation := generation }

def answerRequest (source : EncodeSource) (tile : TileState) : TileState :=
  if source = .retransmit then tile.clearRetransmitRequest else tile

/-- The tile is clean, unless it was damaged after its encoding began. -/
def settleDirty (coveredDirtyEpoch : Nat) (tile : TileState) : TileState :=
  if tile.dirtyEpoch = coveredDirtyEpoch then { tile with dirtyQueued := false }
  else tile

def commit (source : EncodeSource) (generation coveredDirtyEpoch : Nat)
    (tile : TileState) : TileState :=
  ((tile.withGeneration generation).answerRequest source).settleDirty
    coveredDirtyEpoch

end TileState

namespace NetState

def mapTiles (net : NetState) (update : Nat → TileState → TileState) :
    NetState :=
  { net with tiles := fun tileId => update tileId (net.tiles tileId) }

def collapseTileQueuesForVideo (net : NetState) : NetState :=
  net.mapTiles fun _ tile => tile.collapse

def markDirtyTiles (net : NetState) (dirty : Nat → Bool) : NetState :=
  net.mapTiles fun tileId tile =>
    if dirty tileId then tile.markDirty else tile

def applyFrameAnalysis (net : NetState) (geometry : Geometry)
    (changedTiles : Nat → Bool) : NetState :=
  net.markDirtyTiles fun tileId =>
    decide (tileId < geometry.totalTiles) && changedTiles tileId

def retransmitQueueEmpty (net : NetState) (geometry : Geometry) : Bool :=
  (List.range geometry.totalTiles).all fun tileId =>
    !(net.tiles tileId).retransmitQueued

def dirtyQueueEmpty (net : NetState) (geometry : Geometry) : Bool :=
  (List.range geometry.totalTiles).all fun tileId =>
    !(net.tiles tileId).dirtyQueued

end NetState

/-! ## Encoding -/

def pixelBytes (pixel : UInt32) : List UInt8 := littleEndian 4 pixel.toNat

/-- `wd_extract_tile_xrgb8888_for_tile_sized`: the hidden part is zero. -/
def extractTile (geometry : Geometry) (image : Image) (tile : WireTile) :
    List UInt8 :=
  let tilesX := tilesForWidthWithTile geometry.displayWidth tile.size.width
  let startX := tileStartXForTile tile.tileId tilesX tile.size.width
  let startY := tileStartYForTile tile.tileId tilesX tile.size.height
  let width := tileVisibleWidthForTile geometry.displayWidth tile.tileId tilesX
    tile.size.width
  let height := tileVisibleHeightForTile geometry.displayHeight tile.tileId
    tilesX tile.size.height
  (List.range tile.size.height).flatMap fun y =>
    (List.range tile.size.width).flatMap fun x =>
      if x < width ∧ y < height then pixelBytes (image (startX + x) (startY + y))
      else pixelBytes 0

inductive AsyncUdpSendStatus where
  | queued
  | saturated
  | failed
  deriving DecidableEq, Repr

/--
A tile as an encode worker leaves it.  `compressedBytes` holds the compressor's
output where that was chosen.  `allowed` is the budget's answer at the time of
the send, and `packetStatus` the UDP sender's to each packet.
-/
structure EncodedTile where
  tile : WireTile
  compressedBytes : Option (List UInt8)
  allowed : Bool
  packetStatus : Nat → AsyncUdpSendStatus

inductive EncodeResult where
  | invalid (budgetBlocked : Bool)
  | encoded (encodedTile : EncodedTile)

def EncodedTile.payload (encodedTile : EncodedTile) (geometry : Geometry)
    (image : Image) : TilePayload :=
  match encodedTile.compressedBytes with
  | some bytes => ⟨bytes, true⟩
  | none => ⟨extractTile geometry image encodedTile.tile, false⟩

/-! ## Packets -/

def normalizeUdpPayloadTarget (target : Nat) : Nat :=
  if target < minProbedUdpPayload then udpPayloadTargetDefault
  else min target udpTilePayloadMax

def tilePacketCountForPayload (payloadSize target : Nat) : Nat :=
  if payloadSize = 0 ∨ target = 0 then 0
  else if (payloadSize + target - 1) / target > uint16Limit then 0
  else (payloadSize + target - 1) / target

def packetsQueued (status : Nat → AsyncUdpSendStatus) (count : Nat) : Nat :=
  ((List.range count).takeWhile fun packetId => status packetId == .queued).length

namespace NetState

def packetFor (net : NetState) (tile : WireTile) (generation : Nat)
    (payload : TilePayload) (packetCount packetId : Nat) : TilePacket where
  connectionToken := net.connectionToken
  contentEpoch := net.contentEpoch
  tile := tile
  generation := generation
  packetId := packetId
  packetCount := packetCount
  body :=
    let target := normalizeUdpPayloadTarget net.udpPayloadTarget
    (payload.bytes.drop (packetId * target)).take target
  payload := payload

def packetCountFor (net : NetState) (payload : TilePayload) : Nat :=
  tilePacketCountForPayload payload.bytes.length
    (normalizeUdpPayloadTarget net.udpPayloadTarget)

def packetsFor (net : NetState) (tile : WireTile) (generation : Nat)
    (payload : TilePayload) (sent : Nat) : List TilePacket :=
  (List.range sent).map
    (net.packetFor tile generation payload (net.packetCountFor payload))

end NetState

end WayDisplay.Server
