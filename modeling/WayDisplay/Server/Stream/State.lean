import WayDisplay.Common.Tile
import WayDisplay.Server.StreamPolicy
import WayDisplay.Server.TileGenerations

/-!
The state of the streaming server (`wd_server`, `wd_net_state`).

Four threads share it: the compositor, the frame worker, the video worker and
the network thread.  Each holds the network lock for a section at a time and
the frame worker's progress between two sections is part of the state.

The last record of the state is not in the program.  It remembers what the
program does not keep: what has been sent, which base tiles have changed in the
shadow since they were last sent, and whether damage deferred behind a recovery
is still owed.
-/

namespace WayDisplay.Server

open Common

/-! ## Capture -/

abbrev Image := Nat → Nat → UInt32

structure SceneDamage where
  allTiles : Bool
  tiles : Nat → Bool

structure Capture where
  framebuffer : Image
  shadow : Image
  shadowValid : Bool
  damage : SceneDamage
  /-- The newest composed pixels, where a frame of this size has drawn any. -/
  composed : Nat → Nat → Option UInt32

/-! ## Tiles on the way to the client -/

structure TileState where
  generation : Nat
  dirtyEpoch : Nat
  dirtyQueued : Bool
  retransmitQueued : Bool
  retransmitRequestedGeneration : Nat
  deriving DecidableEq, Repr

def TileState.fresh : TileState := ⟨0, 0, false, false, 0⟩

structure TileDelivery where
  epoch : EpochIdentity
  generation : Nat
  coveredBaseIds : List Nat
  pending : Nat
  failed : Bool
  deriving DecidableEq, Repr

structure TilePayload where
  bytes : List UInt8
  compressed : Bool
  deriving DecidableEq, Repr

/-- A tile packet with its header, and the encoding it is a fragment of. -/
structure TilePacket where
  connectionToken : Nat
  contentEpoch : Nat
  tile : WireTile
  generation : Nat
  packetId : Nat
  packetCount : Nat
  body : List UInt8
  payload : TilePayload

structure VideoFrame where
  connectionToken : Nat
  contentEpoch : Nat
  frameId : Nat
  keyframe : Bool
  deriving DecidableEq, Repr

/-! ## Workers -/

structure VideoWorkerJob where
  epoch : Nat
  sessionId : Nat
  connectionToken : Nat
  sourceContentEpoch : Nat
  videoTcpFd : Nat
  requestKeyframe : Bool
  firstVideoEntry : Bool
  deriving DecidableEq, Repr

structure SubmittedFrame where
  damage : SceneDamage
  cpuFramebufferRefreshed : Bool

structure FrameAnalysis where
  changedTiles : Option (Nat → Bool)
  fullRefresh : Bool

inductive EncodeSource where
  | fresh
  | retransmit
  deriving DecidableEq, Repr

/-- Jobs handed to the encoders; each covers one region of 128 by 64 pixels. -/
structure EncodeBatch where
  source : EncodeSource
  regions : List Nat
  dirtyEpochs : Nat → Nat
  framebufferGeneration : Nat
  stopSending : Bool

inductive SendStage where
  | earlyRepairs
  | fresh
  | repairs
  | closing
  deriving DecidableEq, Repr

structure SendPass where
  stage : SendStage
  batch : Option EncodeBatch

inductive WorkerPhase where
  | idle
  | frameSubmitted (frame : SubmittedFrame)
  | serviceRequested
  | forceRead (frame : SubmittedFrame) (forceFullRefresh : Bool)
  | diffing (frame : SubmittedFrame) (forceFullRefresh : Bool)
  | analyzed (analysis : FrameAnalysis)
  | sending (pass : SendPass)

def WorkerPhase.isIdle : WorkerPhase → Bool
  | .idle => true
  | _ => false

def WorkerPhase.isSending : WorkerPhase → Bool
  | .sending _ => true
  | _ => false

/-! ## Sessions -/

inductive SessionPhase where
  | closed
  | identified
  | configured
  | established
  deriving DecidableEq, Repr

structure NetState where
  sessionPhase : SessionPhase
  sessionId : Nat
  connectionToken : Nat
  connectionEpoch : Nat
  configEpoch : Nat
  contentEpoch : Nat
  configUpdatePending : Bool
  videoStreamNegotiated : Bool
  videoFeedbackNegotiated : Bool
  videoTcpFd : Option Nat
  udpPayloadTarget : Nat
  streamPolicy : StreamPolicy
  videoWorker : Bool
  videoWorkerEpoch : Nat
  pendingJob : Option VideoWorkerJob
  activeJob : Option VideoWorkerJob
  tiles : Nat → TileState
  deliveries : List TileDelivery

namespace NetState

def clientConnected (net : NetState) : Bool :=
  net.sessionPhase == .established

def videoOwnsDisplay (net : NetState) : Bool :=
  net.streamPolicy.streamMode.videoOwnsDisplay

def videoRuntime (net : NetState) : VideoRuntime where
  negotiated := net.videoStreamNegotiated
  channelConnected := net.videoTcpFd.isSome
  encoderAvailable := net.videoStreamNegotiated && net.videoWorker

def refreshNeeded (net : NetState) : Bool :=
  net.streamPolicy.tileRefreshPending ||
    (net.streamPolicy.streamMode == .tileRecovery &&
      !net.streamPolicy.tileRecoveryRefreshStarted)

def withPolicy (net : NetState) (policy : StreamPolicy) : NetState :=
  { net with streamPolicy := policy }

def withDeliveries (net : NetState) (deliveries : List TileDelivery) : NetState :=
  { net with deliveries := deliveries }

end NetState

/-! ## The server -/

/-- What has been sent, newest first, and what is still owed. -/
structure Trace where
  tilePackets : List TilePacket
  videoFrames : List VideoFrame
  unsent : Nat → Bool
  owed : Bool

structure ServerState where
  geometry : Geometry
  framebufferGeneration : Nat
  fullRefreshRequested : Bool
  capture : Capture
  worker : WorkerPhase
  net : NetState
  trace : Trace

namespace ServerState

def withNet (s : ServerState) (net : NetState) : ServerState :=
  { s with net := net }

def withWorker (s : ServerState) (worker : WorkerPhase) : ServerState :=
  { s with worker := worker }

def requestFullRefresh (s : ServerState) : ServerState :=
  { s with fullRefreshRequested := true }

def epochIdentity (s : ServerState) : EpochIdentity :=
  ⟨s.net.connectionEpoch, s.net.configEpoch, s.net.contentEpoch,
    s.framebufferGeneration⟩

end ServerState

end WayDisplay.Server
