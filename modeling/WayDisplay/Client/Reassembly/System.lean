import WayDisplay.Client.Reassembly.Packets
import WayDisplay.Foundation.Runs

/-!
The client's receive path as one system (`client_receive.cpp`).

The receive thread takes datagrams, expires entries, and sends the requests for
repair.  Other threads offer content epochs and promote repairs that a summary
asked for, and a new configuration may be applied; the receive thread notices
the latter only when it next looks.  An epoch offered between the reassembly of
a tile and its publication comes with the datagram.
-/

namespace WayDisplay.Client

open Common Foundation

/-! ## Requesting repairs -/

def maxRetransmitEntriesPerMessage : Nat :=
  min uint16Limit ((2 * 1024 * 1024 - 19) / 10)

structure FlushInput where
  now : Nat
  inflightGraceNs : Nat
  requestIntervalNs : Nat
  deriving DecidableEq, Repr

namespace RepairTracking

def heldOff (generations times : Generations) (tileId target now graceNs : Nat) :
    Bool :=
  generations tileId ≥ target && times tileId ≠ 0 &&
    (now + 2 ^ 64 - times tileId) % 2 ^ 64 < graceNs

/-- `client_flush_retransmit_requests`: what one popped tile comes to. -/
def flushTile (received : Generations) (totalTiles : Nat) (input : FlushInput)
    (repairs : RepairTracking) (tileId : Nat) :
    RepairTracking × Option (Nat × Nat) :=
  if tileId ≥ totalTiles then (repairs, none)
  else
    let target := repairs.retxQueuedGeneration tileId
    let popped := { repairs with
      retxQueuedGeneration :=
        Function.update repairs.retxQueuedGeneration tileId 0 }
    let requeued := { popped with
      retxQueue := popped.retxQueue ++ [tileId]
      retxQueuedGeneration :=
        Function.update popped.retxQueuedGeneration tileId target }
    if target = 0 ∨ received tileId ≥ target then (popped, none)
    else if heldOff repairs.retxInflightGeneration repairs.retxInflightSinceNs
        tileId target input.now input.inflightGraceNs then (requeued, none)
    else if heldOff repairs.retxLastRequestedGeneration
        repairs.retxLastRequestNs tileId target input.now
        input.requestIntervalNs then (requeued, none)
    else
      ({ popped with
        retxLastRequestedGeneration :=
          Function.update repairs.retxLastRequestedGeneration tileId target
        retxLastRequestNs :=
          Function.update repairs.retxLastRequestNs tileId input.now },
        some (tileId, target))

/-- Each tile that was listed when the flush began is looked at once. -/
def flush (received : Generations) (totalTiles : Nat) (input : FlushInput) :
    Nat → RepairTracking → List (Nat × Nat) →
      RepairTracking × List (Nat × Nat)
  | 0, repairs, entries => (repairs, entries)
  | pending + 1, repairs, entries =>
      if entries.length ≥ maxRetransmitEntriesPerMessage then (repairs, entries)
      else
        match repairs.retxQueue with
        | [] => (repairs, entries)
        | tileId :: rest =>
            let flushed := flushTile received totalTiles input
              { repairs with retxQueue := rest } tileId
            flush received totalTiles input pending flushed.1
              (entries ++ flushed.2.toList)

def clearCompleted (received : Generations) (repairs : RepairTracking)
    (tileId : Nat) : RepairTracking :=
  let answered (generations : Generations) : Bool :=
    generations tileId ≠ 0 && generations tileId ≤ received tileId
  let clear (generations values : Generations) : Generations :=
    if answered generations then Function.update values tileId 0 else values
  { retxQueue := repairs.retxQueue
    retxQueuedGeneration :=
      clear repairs.retxQueuedGeneration repairs.retxQueuedGeneration
    retxLastRequestedGeneration :=
      clear repairs.retxLastRequestedGeneration
        repairs.retxLastRequestedGeneration
    retxLastRequestNs :=
      clear repairs.retxLastRequestedGeneration repairs.retxLastRequestNs
    retxInflightGeneration :=
      clear repairs.retxInflightGeneration repairs.retxInflightGeneration
    retxInflightSinceNs :=
      clear repairs.retxInflightGeneration repairs.retxInflightSinceNs }

end RepairTracking

/-! ## Datagrams -/

def udpTileIdMtuProbe : Nat := 0xffff

def udpTileIdThroughputProbe : Nat := 0xfffe

namespace ReceiverState

/-- `client_accept_content_epoch`, as far as the receive path sees it. -/
def acceptContentEpoch (s : ReceiverState) (epoch : Nat)
    (owner : ContentOwner) : ReceiverState :=
  match s.remote.judge epoch owner with
  | .advanced => { s with remote := ⟨epoch, owner⟩ }
  | _ => s

/-- A tile packet opens a newer epoch or belongs to the current one. -/
def enterEpoch (s : ReceiverState) (epoch : Nat) : Option ReceiverState :=
  match s.remote.judge epoch .tiles with
  | .stale => none
  | .current => some s
  | .advanced => some (s.acceptContentEpoch epoch .tiles).resetReassembler

def markCompletedBaseGenerations (s : ReceiverState) (tile : ReassembledTile) :
    ReceiverState :=
  let tileIds := forEachCompletedBaseTile s.config.display tile.wire
  let received := ClientState.markCompletedBaseGenerations s.receivedGeneration
    tileIds tile.generation
  { s with
    receivedGeneration := received
    repairs := tileIds.foldl (RepairTracking.clearCompleted received)
      s.repairs }

def presentable (s : ReceiverState) (tile : ReassembledTile) : Bool :=
  tile.contentEpoch = s.remote.epoch && s.remote.owner = .tiles &&
    tile.tileBytes.length ≥ tile.wire.size.bytes &&
    (tileUploadGeometry s.config.display tile.wire).isSome

def offerAll (s : ReceiverState) (offers : List (Nat × ContentOwner)) :
    ReceiverState :=
  offers.foldl (fun s offer => s.acceptContentEpoch offer.1 offer.2) s

def publish (s : ReceiverState) (tile : ReassembledTile) :
    ReceiverState × Option ReassembledTile :=
  if s.presentable tile then (s.markCompletedBaseGenerations tile, some tile)
  else (s, none)

def screenDatagram (zstd : Zstd) (s : ReceiverState) (packet : List UInt8) :
    Option UdpTilePacketDecoded :=
  match udpTilePacketDecode packet with
  | none => none
  | some header =>
      if header.tileId = udpTileIdMtuProbe ∨
          header.tileId = udpTileIdThroughputProbe then none
      else if s.config.sessionId = 0 ∨
          header.sessionId ≠ s.config.sessionId ∨
          header.connectionToken ≠ s.config.connectionToken then none
      else if validateTilePacketHeader zstd s.config header packet.length ≠
          .valid then none
      else some header

/-- The state after a datagram, the tile it completed and whether that tile was
accepted for presentation. -/
structure DatagramResult where
  state : ReceiverState
  completed : Option ReassembledTile
  accepted : Option ReassembledTile

/-- The packet is reassembled; a completed tile is published, unless another
thread has changed the content meanwhile. -/
def receivePacket (zstd : Zstd) (s : ReceiverState) (arrival : Arrival)
    (overtaking : List (Nat × ContentOwner)) : DatagramResult :=
  match processUdpPacket zstd s arrival with
  | (s, none) => ⟨s, none, none⟩
  | (s, some tile) =>
      let published := (s.offerAll overtaking).publish tile
      ⟨published.1, some tile, published.2⟩

def processUdpDatagram (zstd : Zstd) (s : ReceiverState) (arrival : Arrival)
    (overtaking : List (Nat × ContentOwner)) : DatagramResult :=
  match screenDatagram zstd s arrival.bytes with
  | none => ⟨s, none, none⟩
  | some header =>
      match s.enterEpoch header.contentEpoch with
      | none => ⟨s, none, none⟩
      | some s => s.receivePacket zstd arrival overtaking

/-! ## Events -/

def configure (s : ReceiverState) (config : ReceiveConfig) : ReceiverState :=
  { s with
    config := config
    receivedGeneration := fun _ => 0
    repairs := .initial }

/-- `client_reset_content_epoch`, which follows once the locks are released. -/
def resetContentEpoch (s : ReceiverState) (contentEpoch : Nat)
    (owner : ContentOwner) : ReceiverState :=
  { s with remote := s.remote.reset contentEpoch owner }

def queueRetransmitTile (s : ReceiverState) (tileId generation : Nat) :
    ReceiverState :=
  if tileId ≥ s.config.display.totalTiles ∨ generation = 0 then s
  else { s with repairs := s.repairs.enqueue tileId generation }

def flushRetransmitRequests (s : ReceiverState) (input : FlushInput) :
    ReceiverState :=
  { s with
    repairs := (s.repairs.flush s.receivedGeneration
      s.config.display.totalTiles input s.repairs.retxQueue.length []).1 }

end ReceiverState

inductive ReceiverEvent where
  | datagram (arrival : Arrival) (overtaking : List (Nat × ContentOwner))
  | expire (now : Nat) (timeoutNs : Nat → Nat)
  | offerContentEpoch (epoch : Nat) (owner : ContentOwner)
  | queueRetransmit (tileId generation : Nat)
  | flush (input : FlushInput)
  | configure (config : ReceiveConfig)
  | resetContentEpoch (contentEpoch : Nat) (owner : ContentOwner)
  | observeConfiguration

namespace ReceiverState

def step (zstd : Zstd) (s : ReceiverState) : ReceiverEvent → ReceiverState
  | .datagram arrival overtaking =>
      (s.processUdpDatagram zstd arrival overtaking).state
  | .expire now timeoutNs => s.expireStaleEntries now timeoutNs
  | .offerContentEpoch epoch owner => s.acceptContentEpoch epoch owner
  | .queueRetransmit tileId generation => s.queueRetransmitTile tileId generation
  | .flush input => s.flushRetransmitRequests input
  | .configure config => s.configure config
  | .resetContentEpoch contentEpoch owner =>
      s.resetContentEpoch contentEpoch owner
  | .observeConfiguration => s.resetReassembler

def acceptedBy (zstd : Zstd) (s : ReceiverState) :
    ReceiverEvent → Option ReassembledTile
  | .datagram arrival overtaking =>
      (s.processUdpDatagram zstd arrival overtaking).accepted
  | _ => none

def initial (config : ReceiveConfig) (contentEpoch maxActiveEntries
    maxActivePayloadBytes : Nat) : ReceiverState where
  config := config
  remote := ⟨contentEpoch, .tiles⟩
  receivedGeneration := fun _ => 0
  reassembler := .create maxActiveEntries maxActivePayloadBytes
  repairs := .initial
  trace := ⟨[], []⟩

end ReceiverState

/-! ## A small session -/

def onePixelReceive : ReceiveConfig where
  display := ⟨1, 1, .tile16x16, Nat.one_pos, Nat.one_pos,
    one_le_maxRenderWidth, one_le_maxRenderHeight⟩
  sessionId := 1
  connectionToken := 1
  udpPayloadTarget := udpPayloadTargetDefault
  session_ne := by decide
  token_ne := by decide
  target_ge := by decide
  target_le := by decide

def smallPackets : ReceiveConfig :=
  { onePixelReceive with
    udpPayloadTarget := minProbedUdpPayload
    target_ge := by decide
    target_le := by decide }

def halfTile (contentEpoch generation packetId now : Nat) : Arrival where
  bytes := (udpTilePacketEncodeHeader 44
    { sessionId := smallPackets.sessionId
      connectionToken := smallPackets.connectionToken
      contentEpoch
      flags := 0
      tileSize := .tile16x16
      tilePktId := packetId
      tileId := 0
      tilePktCount := 2
      payloadSize := 512
      tilePayloadSize := 1024
      tileGeneration := generation
      inputSequence := 0
      headerSize := 0 }).getD [] ++ List.replicate 512 0
  now
  timeoutNs := 1000

def wholeTile (config : ReceiveConfig) (contentEpoch generation : Nat) :
    Arrival where
  bytes := (udpTilePacketEncodeHeader 44
    { sessionId := config.sessionId
      connectionToken := config.connectionToken
      contentEpoch
      flags := 0
      tileSize := .tile16x16
      tilePktId := 0
      tileId := 0
      tilePktCount := 1
      payloadSize := 1024
      tilePayloadSize := 1024
      tileGeneration := generation
      inputSequence := 0
      headerSize := 0 }).getD [] ++ List.replicate 1024 0
  now := 1
  timeoutNs := 1000

end WayDisplay.Client
