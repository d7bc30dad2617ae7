import Mathlib.Data.BitVec
import WayDisplay.Client.Presentation.State
import WayDisplay.Common.TilePacket
import WayDisplay.Common.Zstd
import WayDisplay.Foundation.SlotTable

/-!
The client's tile reassembler (`tile_reassembly.cpp`) and its table of repairs.

A tile that arrives in several packets has an entry with a buffer and a bitmap
of the packets seen.  Entries lie densely in a vector; for each wire size a
vector of slots says which entry a tile has.  When an entry is given up, the base
tiles under it that are still missing are queued for a repair request.

The last record is not in the program: it remembers every entry that was removed,
with the repairs as they stood then, and every copy into an entry's buffer.
-/

namespace WayDisplay.Client

open Common Foundation

/-! ## Configuration -/

/-- What the receive path reads of a configuration that
`client_normalize_and_validate_server_config` admits. -/
structure ReceiveConfig where
  display : ServerConfig
  sessionId : Nat
  connectionToken : Nat
  udpPayloadTarget : Nat
  session_ne : sessionId ≠ 0
  token_ne : connectionToken ≠ 0
  target_ge : minProbedUdpPayload ≤ udpPayloadTarget
  target_le : udpPayloadTarget ≤ udpTilePayloadMax

def ReceiveConfig.payloadTarget (config : ReceiveConfig) : Nat :=
  if config.udpPayloadTarget = 0 then udpPayloadTargetDefault
  else config.udpPayloadTarget

/-! ## Entries -/

structure Entry where
  tile : WireTile
  generation : Nat
  contentEpoch : Nat
  inputSequence : Nat
  firstFragmentMetadataSeen : Bool
  packetCount : Nat
  compressedSize : Nat
  compressedPayload : Bool
  firstPacketNs : Nat
  compressed : List UInt8
  receivedBitmap : BitVec 256
  receivedCount : Nat
  deriving DecidableEq

namespace Entry

def blank : Entry where
  tile := ⟨.tile16x16, 0⟩
  generation := 0
  contentEpoch := 0
  inputSequence := 0
  firstFragmentMetadataSeen := false
  packetCount := 0
  compressedSize := 0
  compressedPayload := true
  firstPacketNs := 0
  compressed := []
  receivedBitmap := 0
  receivedCount := 0

def received (entry : Entry) (packetId : Nat) : Bool :=
  entry.receivedBitmap.getLsbD packetId

def setBits (bitmap : BitVec 256) : Nat :=
  (List.range 256).countP bitmap.getLsbD

end Entry

/-! ## The reassembler -/

def tileReassemblyMaxRecycledEntries : Nat := 64

structure TileReassembler where
  table : SlotTable WireTile Entry
  slotCount : TileSize → Nat
  recycledEntries : List Entry
  entryFrameWidth : Nat
  entryFrameHeight : Nat
  activePayloadBytes : Nat
  maxActiveEntries : Nat
  maxActivePayloadBytes : Nat

namespace TileReassembler

def create (maxActiveEntries maxActivePayloadBytes : Nat) : TileReassembler where
  table := .empty
  slotCount := fun _ => 0
  recycledEntries := []
  entryFrameWidth := 0
  entryFrameHeight := 0
  activePayloadBytes := 0
  maxActiveEntries := max 1 maxActiveEntries
  maxActivePayloadBytes := max 1 maxActivePayloadBytes

variable (r : TileReassembler)

def activeEntries : List Entry := r.table.items

def findEntryIndex (tile : WireTile) : Option Nat :=
  if tile.tileId ≥ r.slotCount tile.size then none else r.table.slot tile

def entryFor (tile : WireTile) : Option Entry := r.table.find tile

def recycleEntry (entry : Entry) : TileReassembler :=
  if r.recycledEntries.length < tileReassemblyMaxRecycledEntries then
    { r with
      recycledEntries := r.recycledEntries ++
        [{ entry with compressed := [], receivedBitmap := 0 }] }
  else r

def removeEntry (index : Nat) : TileReassembler :=
  match r.table.items[index]? with
  | none => r
  | some retired =>
      { r with
        table := r.table.swapRemove Entry.tile index
        activePayloadBytes := r.activePayloadBytes - retired.compressed.length
        : TileReassembler }.recycleEntry retired

def activateEntry (tile : WireTile) : Option (TileReassembler × Nat) :=
  if tile.tileId ≥ r.slotCount tile.size then none
  else
    let entry :=
      { r.recycledEntries.getLastD .blank with
        tile := tile
        generation := 0
        contentEpoch := 0
        inputSequence := 0
        packetCount := 0
        compressedSize := 0
        compressedPayload := true
        firstPacketNs := 0
        compressed := []
        receivedBitmap := 0
        receivedCount := 0 }
    some ({ r with
      table := r.table.push Entry.tile entry
      recycledEntries := r.recycledEntries.dropLast }, r.table.items.length)

def modifyEntry (index : Nat) (change : Entry → Entry) : TileReassembler :=
  { r with table := r.table.modify index change }

/-- Slots for every wire tile of the display, if they can be numbered. -/
def slotCountsFor (display : ServerConfig) : Option (TileSize → Nat) :=
  let count (size : TileSize) : Nat :=
    tilesForWidthWithTile display.width size.width *
      tilesForHeightWithTile display.height size.height
  if [TileSize.tile128x64, .tile64x64, .tile32x32, .tile16x16].all fun size =>
      count size ≠ 0 && count size ≤ uint16Limit then some count
  else none

def overBudget (payloadSize : Nat) : Bool :=
  r.activeEntries.length ≥ r.maxActiveEntries ||
    r.activePayloadBytes + payloadSize > r.maxActivePayloadBytes

def oldestIndex : Nat :=
  let time (i : Nat) : Nat :=
    (r.activeEntries[i]?.map Entry.firstPacketNs).getD 0
  (List.range r.activeEntries.length).foldl
    (fun oldest i => if time i < time oldest then i else oldest) 0

end TileReassembler

/-! ## Repairs -/

structure RepairTracking where
  retxQueue : List Nat
  retxQueuedGeneration : Generations
  retxLastRequestedGeneration : Generations
  retxLastRequestNs : Generations
  retxInflightGeneration : Generations
  retxInflightSinceNs : Generations

namespace RepairTracking

def initial : RepairTracking where
  retxQueue := []
  retxQueuedGeneration := fun _ => 0
  retxLastRequestedGeneration := fun _ => 0
  retxLastRequestNs := fun _ => 0
  retxInflightGeneration := fun _ => 0
  retxInflightSinceNs := fun _ => 0

variable (repairs : RepairTracking)

/-- A tile is listed once it has a queued generation; that only grows. -/
def enqueue (tileId generation : Nat) : RepairTracking :=
  { repairs with
    retxQueue :=
      if repairs.retxQueuedGeneration tileId = 0 then
        repairs.retxQueue ++ [tileId]
      else repairs.retxQueue
    retxQueuedGeneration := Function.update repairs.retxQueuedGeneration tileId
      (max (repairs.retxQueuedGeneration tileId) generation) }

def clearRetxInflight (tileId generation : Nat) : RepairTracking :=
  if repairs.retxInflightGeneration tileId = generation then
    { repairs with
      retxInflightGeneration :=
        Function.update repairs.retxInflightGeneration tileId 0
      retxInflightSinceNs :=
        Function.update repairs.retxInflightSinceNs tileId 0 }
  else repairs

/-- `enqueue_retx_for_partial_timeout`; where it declines, the caller clears the
tile's in-flight mark. -/
def repairBaseTile (received : Generations) (totalTiles generation : Nat)
    (repairs : RepairTracking) (tileId : Nat) : RepairTracking :=
  if tileId ≥ totalTiles ∨ received tileId ≥ generation then
    repairs.clearRetxInflight tileId generation
  else (repairs.enqueue tileId generation).clearRetxInflight tileId generation

def markInflight (generation now : Nat) (repairs : RepairTracking)
    (tileId : Nat) : RepairTracking :=
  { repairs with
    retxInflightGeneration :=
      Function.update repairs.retxInflightGeneration tileId generation
    retxInflightSinceNs :=
      Function.update repairs.retxInflightSinceNs tileId now }

def Queued (tileId generation : Nat) : Prop :=
  tileId ∈ repairs.retxQueue ∧
    generation ≤ repairs.retxQueuedGeneration tileId

instance (tileId generation : Nat) :
    Decidable (repairs.Queued tileId generation) :=
  inferInstanceAs (Decidable (_ ∧ _))

end RepairTracking

/-! ## The receive path's state -/

inductive RetireCause where
  | completed
  | timedOut
  | evicted
  | conflict
  | wrongSize
  | undecodable
  | replaced (contentEpoch generation : Nat)
  | reset
  deriving DecidableEq, Repr

/-- An entry as it was removed, and what was received and queued for repair at
that moment. -/
structure Retired where
  entry : Entry
  cause : RetireCause
  display : ServerConfig
  receivedGeneration : Generations
  repairs : RepairTracking

structure FragmentCopy where
  offset : Nat
  size : Nat
  bufferSize : Nat
  deriving DecidableEq, Repr

structure ReassemblyTrace where
  retired : List Retired
  copies : List FragmentCopy

structure ReceiverState where
  config : ReceiveConfig
  remote : RemoteContent
  receivedGeneration : Generations
  reassembler : TileReassembler
  repairs : RepairTracking
  trace : ReassemblyTrace

structure ReassembledTile where
  wire : WireTile
  generation : Nat
  contentEpoch : Nat
  inputSequence : Nat
  firstPacketNs : Nat
  compressedSize : Nat
  packetCount : Nat
  tileBytes : List UInt8
  deriving DecidableEq

end WayDisplay.Client
