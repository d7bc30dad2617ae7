import WayDisplay.Client.Reassembly.State

/-!
How the reassembler takes a packet (`TileReassembler::process_udp_packet`) and
how it gives entries up.

The clock and the current timeout come with the packet: the timeout adapts to
the times tiles took, which are not modelled.
-/

namespace WayDisplay.Client

open Common Foundation

structure Arrival where
  bytes : List UInt8
  now : Nat
  timeoutNs : Nat
  deriving DecidableEq

namespace ReceiverState

/-! ## Removing entries -/

def removeEntry (s : ReceiverState) (index : Nat) (cause : RetireCause) :
    ReceiverState :=
  match s.reassembler.activeEntries[index]? with
  | none => s
  | some entry =>
      { s with
        reassembler := s.reassembler.removeEntry index
        trace := { s.trace with
          retired := s.trace.retired ++
            [⟨entry, cause, s.config.display, s.receivedGeneration,
              s.repairs⟩] } }

def removeAll : Nat → ReceiverState → ReceiverState
  | 0, s => s
  | count + 1, s =>
      removeAll count
        (s.removeEntry (s.reassembler.activeEntries.length - 1) .reset)

def resetReassembler (s : ReceiverState) : ReceiverState :=
  let s := removeAll s.reassembler.activeEntries.length s
  { s with
    reassembler := { s.reassembler with
      slotCount := fun _ => 0
      entryFrameWidth := 0
      entryFrameHeight := 0
      activePayloadBytes := 0 } }

/-- Every missing base tile under an entry is queued for repair. -/
def queueEntryRepair (s : ReceiverState) (entry : Entry) : ReceiverState :=
  { s with
    repairs := (forEachBaseTileCovered s.config.display entry.tile).foldl
      (RepairTracking.repairBaseTile s.receivedGeneration
        s.config.display.totalTiles entry.generation) s.repairs }

def abandonEntry (s : ReceiverState) (index : Nat) (cause : RetireCause) :
    ReceiverState :=
  match s.reassembler.activeEntries[index]? with
  | none => s
  | some entry => (s.queueEntryRepair entry).removeEntry index cause

def expireEntry (s : ReceiverState) (index : Nat) : ReceiverState :=
  s.abandonEntry index .timedOut

def evictEntryForBudget (s : ReceiverState) (index : Nat) : ReceiverState :=
  s.abandonEntry index .evicted

def clearEntryRetxInflight (s : ReceiverState) (entry : Entry) :
    ReceiverState :=
  { s with
    repairs := (forEachBaseTileCovered s.config.display entry.tile).foldl
      (fun repairs tileId => repairs.clearRetxInflight tileId entry.generation)
      s.repairs }

/-- The age of an entry is a difference of 64-bit times. -/
def timedOut (entry : Entry) (now timeoutNs : Nat) : Bool :=
  entry.firstPacketNs ≠ 0 &&
    (now + 2 ^ 64 - entry.firstPacketNs) % 2 ^ 64 > timeoutNs

-- An expired entry lowers the timeout for the turns after it, and other
-- threads may change it: each turn has its own, by the number of turns left.
def expireFrom (now : Nat) (timeoutNs : Nat → Nat) :
    Nat → Nat → ReceiverState → ReceiverState
  | 0, _, s => s
  | fuel + 1, index, s =>
      match s.reassembler.activeEntries[index]? with
      | none => s
      | some entry =>
          if timedOut entry now (timeoutNs fuel) then
            expireFrom now timeoutNs fuel index (s.expireEntry index)
          else expireFrom now timeoutNs fuel (index + 1) s

/-- Each turn removes an entry or passes one. -/
def expireStaleEntries (s : ReceiverState) (now : Nat)
    (timeoutNs : Nat → Nat) : ReceiverState :=
  expireFrom now timeoutNs s.reassembler.activeEntries.length 0 s

/-! ## Making room -/

def evictWhileOver (payloadSize : Nat) : Nat → ReceiverState → ReceiverState
  | 0, s => s
  | count + 1, s =>
      if s.reassembler.activeEntries ≠ [] ∧
          s.reassembler.overBudget payloadSize then
        evictWhileOver payloadSize count
          (s.evictEntryForBudget s.reassembler.oldestIndex)
      else s

def ensureBudget (s : ReceiverState) (payloadSize : Nat) :
    ReceiverState × Bool :=
  if payloadSize > s.reassembler.maxActivePayloadBytes then (s, false)
  else
    let s := evictWhileOver payloadSize s.reassembler.activeEntries.length s
    (s, !s.reassembler.overBudget payloadSize)

def configureEntrySlots (s : ReceiverState) : Option ReceiverState :=
  let display := s.config.display
  if s.reassembler.entryFrameWidth = display.width ∧
      s.reassembler.entryFrameHeight = display.height ∧
      s.reassembler.entryFrameWidth ≠ 0 then some s
  else
    match TileReassembler.slotCountsFor display with
    | none => none
    | some counts =>
        let s := removeAll s.reassembler.activeEntries.length s
        some { s with
          reassembler := { s.reassembler with
            slotCount := counts
            entryFrameWidth := display.width
            entryFrameHeight := display.height } }

/-! ## Admitting a packet -/

inductive TilePacketValidationResult where
  | valid
  | identity
  | geometry
  | fragment
  deriving DecidableEq, Repr

def validateTilePacketHeader (zstd : Zstd) (config : ReceiveConfig)
    (header : UdpTilePacketDecoded) (packetSize : Nat) :
    TilePacketValidationResult :=
  let tilesX := tilesForWidthWithTile config.display.width header.tileSize.width
  let tilesY :=
    tilesForHeightWithTile config.display.height header.tileSize.height
  if header.sessionId ≠ config.sessionId ∨
      header.connectionToken ≠ config.connectionToken then .identity
  else if tilesX = 0 ∨ tilesY = 0 ∨ header.tileId ≥ tilesX * tilesY ∨
      tilesX * tilesY > uint16Limit then .geometry
  else if header.tilePktCount = 0 ∨ header.tilePktId ≥ header.tilePktCount ∨
      header.payloadSize = 0 ∨ header.tilePayloadSize = 0 then .fragment
  else if header.isCompressed ∧
      header.tilePayloadSize > zstd.compressBound header.tileSize.bytes then
    .fragment
  else if ¬header.isCompressed ∧
      header.tilePayloadSize ≠ header.tileSize.bytes then .fragment
  else if !udpTileFragmentLayoutValid header packetSize config.payloadTarget
      header.tilePayloadSize then .fragment
  else .valid

/-- A packet that is well formed, of this session and not outdated. -/
def admitPacket (zstd : Zstd) (s : ReceiverState) (packet : List UInt8) :
    Option UdpTilePacketDecoded :=
  match udpTilePacketDecode packet with
  | none => none
  | some header =>
      if validateTilePacketHeader zstd s.config header packet.length ≠ .valid then
        none
      else if ClientState.wantsGeneration s.receivedGeneration
          (forEachBaseTileCovered s.config.display header.tile)
          header.tileGeneration then some header
      else none

/-! ## Opening an entry -/

def matchesHeader (header : UdpTilePacketDecoded) (entry : Entry) : Bool :=
  entry.contentEpoch = header.contentEpoch &&
    entry.generation = header.tileGeneration

def outdated (header : UdpTilePacketDecoded) (entry : Entry) : Bool :=
  entry.contentEpoch = header.contentEpoch &&
    header.tileGeneration < entry.generation

def beginEntry (header : UdpTilePacketDecoded) (now : Nat) (entry : Entry) :
    Entry :=
  { entry with
    generation := header.tileGeneration
    contentEpoch := header.contentEpoch
    inputSequence := if header.tilePktId = 0 then header.inputSequence else 0
    firstFragmentMetadataSeen := header.tilePktId = 0
    packetCount := header.tilePktCount
    compressedSize := header.tilePayloadSize
    compressedPayload := header.isCompressed
    firstPacketNs := now
    compressed := List.replicate header.tilePayloadSize 0
    receivedBitmap := 0
    receivedCount := 0 }

def replaceEntry (s : ReceiverState) (header : UdpTilePacketDecoded) :
    Option Nat → ReceiverState
  | none => s
  | some index =>
      match s.reassembler.activeEntries[index]? with
      | none => s
      | some entry =>
          (s.clearEntryRetxInflight entry).removeEntry index
            (.replaced header.contentEpoch header.tileGeneration)

def openEntry (s : ReceiverState) (header : UdpTilePacketDecoded)
    (found : Option Nat) (now : Nat) : ReceiverState × Option Nat :=
  let (s, room) :=
    (s.replaceEntry header found).ensureBudget header.tilePayloadSize
  if !room then (s, none)
  else
    match s.reassembler.activateEntry header.tile with
    | none => (s, none)
    | some (reassembler, index) =>
        let reassembler :=
          reassembler.modifyEntry index (beginEntry header now)
        ({ s with
          reassembler := { reassembler with
            activePayloadBytes :=
              reassembler.activePayloadBytes + header.tilePayloadSize }
          repairs := (forEachBaseTileCovered s.config.display header.tile).foldl
            (RepairTracking.markInflight header.tileGeneration now)
            s.repairs }, some index)

/-- The entry that a packet belongs to: an active one for its epoch and
generation that has not timed out, else a new one. -/
def entryForPacket (s : ReceiverState) (header : UdpTilePacketDecoded)
    (arrival : Arrival) (found : Option Nat) : ReceiverState × Option Nat :=
  match found with
  | none => s.openEntry header none arrival.now
  | some index =>
      match s.reassembler.activeEntries[index]? with
      | none => (s, none)
      | some entry =>
          if matchesHeader header entry then
            if timedOut entry arrival.now arrival.timeoutNs then
              (s.expireEntry index).openEntry header none arrival.now
            else (s, some index)
          else s.openEntry header (some index) arrival.now

/-! ## Taking a fragment -/

def overwrite (buffer : List UInt8) (offset : Nat) (payload : List UInt8) :
    List UInt8 :=
  buffer.take offset ++ payload ++ buffer.drop (offset + payload.length)

def slice (buffer : List UInt8) (offset size : Nat) : List UInt8 :=
  (buffer.drop offset).take size

def noteMetadata (header : UdpTilePacketDecoded) (entry : Entry) : Entry :=
  if header.tilePktId = 0 then
    { entry with
      firstFragmentMetadataSeen := true
      inputSequence := header.inputSequence }
  else entry

def copyFragment (header : UdpTilePacketDecoded) (offset : Nat)
    (payload : List UInt8) (entry : Entry) : Entry :=
  { entry with
    compressed := overwrite entry.compressed offset payload
    receivedBitmap := entry.receivedBitmap |||
      BitVec.twoPow 256 header.tilePktId
    receivedCount := entry.receivedCount + 1 }

def updateEntry (s : ReceiverState) (index : Nat) (change : Entry → Entry) :
    ReceiverState :=
  { s with reassembler := s.reassembler.modifyEntry index change }

/-- Every access to an entry's buffer is noted. -/
def noteCopy (s : ReceiverState) (copy : FragmentCopy) : ReceiverState :=
  { s with trace := { s.trace with copies := s.trace.copies ++ [copy] } }

def reassembled (entry : Entry) (tileBytes : List UInt8) :
    ReassembledTile where
  wire := entry.tile
  generation := entry.generation
  contentEpoch := entry.contentEpoch
  inputSequence := entry.inputSequence
  firstPacketNs := entry.firstPacketNs
  compressedSize := entry.compressedSize
  packetCount := entry.packetCount
  tileBytes := tileBytes

def finishEntry (zstd : Zstd) (s : ReceiverState) (index : Nat)
    (entry : Entry) : ReceiverState × Option ReassembledTile :=
  let finish (tileBytes : List UInt8) :=
    ((s.clearEntryRetxInflight entry).removeEntry index .completed,
      some (reassembled entry tileBytes))
  if entry.compressedPayload then
    match zstd.wdDecompress entry.compressed entry.tile.size.bytes with
    | none => (s.abandonEntry index .undecodable, none)
    | some tileBytes => finish tileBytes
  else if entry.compressed.length ≠ entry.tile.size.bytes then
    (s.abandonEntry index .wrongSize, none)
  else finish entry.compressed

/-- The rest of `process_udp_packet` once the packet has its entry. -/
def takeFragment (zstd : Zstd) (s : ReceiverState) (index : Nat)
    (header : UdpTilePacketDecoded) (packet : List UInt8) :
    ReceiverState × Option ReassembledTile :=
  match s.reassembler.activeEntries[index]? with
  | none => (s, none)
  | some entry =>
      if header.tilePktId = 0 ∧ entry.firstFragmentMetadataSeen ∧
          entry.inputSequence ≠ header.inputSequence then
        (s.abandonEntry index .conflict, none)
      else
        let s := s.updateEntry index (noteMetadata header)
        let entry := noteMetadata header entry
        if entry.packetCount ≠ header.tilePktCount ∨
            entry.compressedSize ≠ header.tilePayloadSize ∨
            entry.compressedPayload ≠ header.isCompressed then (s, none)
        else
          let offset := header.tilePktId * s.config.payloadTarget
          let payload := packet.drop header.headerSize
          let s := s.noteCopy
            ⟨offset, header.payloadSize, entry.compressed.length⟩
          if !entry.received header.tilePktId then
            let s := s.updateEntry index (copyFragment header offset payload)
            let entry := copyFragment header offset payload entry
            if entry.receivedCount ≠ entry.packetCount then (s, none)
            else finishEntry zstd s index entry
          else if slice entry.compressed offset header.payloadSize ≠ payload then
            (s.abandonEntry index .conflict, none)
          else if entry.receivedCount ≠ entry.packetCount then (s, none)
          else finishEntry zstd s index entry

/-! ## A packet -/

def processUdpPacket (zstd : Zstd) (s : ReceiverState) (arrival : Arrival) :
    ReceiverState × Option ReassembledTile :=
  match admitPacket zstd s arrival.bytes with
  | none => (s, none)
  | some header =>
      match s.configureEntrySlots with
      | none => (s, none)
      | some s =>
          let found := s.reassembler.findEntryIndex header.tile
          let current := found.bind fun index =>
            s.reassembler.activeEntries[index]?
          if current.any (outdated header) then (s, none)
          else
            match s.entryForPacket header arrival found with
            | (s, none) => (s, none)
            | (s, some index) =>
                takeFragment zstd s index header arrival.bytes

end ReceiverState

end WayDisplay.Client
