import WayDisplay.Foundation.Runs
import WayDisplay.Server.Stream.Session

/-!
The streaming server as one system.

An event is one section under the network lock, or one piece of work that only
the thread in charge touches: rendering while the frame worker is idle, and the
comparison with the shadow while it is not.  Lists of events are therefore the
interleavings of the compositor, the frame worker, the video worker and the
network thread.
-/

namespace WayDisplay.Server

open Common Foundation

inductive ServerEvent where
  | render (outcome : RenderOutcome)
  | applyPendingCompositorRequests
  | requestService
  | readForce
  | checkShadow
  | diffFrame
  | beginPass (input : PassInput)
  | beginBatch (regions : List Nat)
  | completeJob (region : Nat) (results : List EncodeResult)
  | endBatch
  | advancePass
  | endPass (regionsIdle : Bool)
  | completePacket (index : Nat) (success : Bool)
  | controllerTick (stats : TickStats)
  | takeVideoJob
  | completeVideoJob (outcome : VideoEncodeOutcome)
  | failVideoTransport
  | identifySession (connectionToken : Nat)
  | configureSession (negotiation : Negotiation)
  | establishSession (videoTcpFd : Option Nat)
  | rollbackSession
  | disconnectClient
  | applyConfig (configEpoch : Nat)
  | requestRepairs (contentEpoch : Nat) (entries : List (Nat × Nat))
  | receiveVideoFeedback (contentEpoch sequence : Nat)
      (flags : VideoFeedbackFlags)
  | acceptVideoChannel (fd : Nat)
  | closeVideoChannel
  | applyDisplaySize (geometry : Geometry)

namespace ServerState

def step (s : ServerState) : ServerEvent → ServerState
  | .render outcome => s.render outcome
  | .applyPendingCompositorRequests => s.applyPendingCompositorRequests
  | .requestService => s.requestService
  | .readForce => s.readForce
  | .checkShadow => s.checkShadow
  | .diffFrame => s.diffFrame
  | .beginPass input => s.beginPass input
  | .beginBatch regions => s.beginBatch regions
  | .completeJob region results => s.completeJob region results
  | .endBatch => s.endBatch
  | .advancePass => s.advancePass
  | .endPass regionsIdle => s.endPass regionsIdle
  | .completePacket index success => s.completePacket index success
  | .controllerTick stats => s.withNet (s.net.tick stats)
  | .takeVideoJob => s.withNet s.net.takeVideoJob
  | .completeVideoJob outcome => s.completeVideoJob outcome
  | .failVideoTransport => s.failVideoTransport
  | .identifySession connectionToken => s.identifySession connectionToken
  | .configureSession negotiation => s.configureSession negotiation
  | .establishSession videoTcpFd => s.establishSession videoTcpFd
  | .rollbackSession => s.rollbackSession
  | .disconnectClient => s.disconnectClient
  | .applyConfig configEpoch => s.applyConfig configEpoch
  | .requestRepairs contentEpoch entries =>
      s.requestRepairs contentEpoch entries
  | .receiveVideoFeedback contentEpoch sequence flags =>
      s.withNet (s.net.receiveVideoFeedback contentEpoch sequence flags)
  | .acceptVideoChannel fd => s.withNet (s.net.acceptVideoChannel fd)
  | .closeVideoChannel => s.withNet s.net.closeVideoChannel
  | .applyDisplaySize geometry => s.applyDisplaySize geometry

end ServerState

def NetState.initial (videoWorker : Bool) : NetState where
  sessionPhase := .closed
  sessionId := 0
  connectionToken := 0
  connectionEpoch := 0
  configEpoch := 0
  contentEpoch := 0
  configUpdatePending := false
  videoStreamNegotiated := false
  videoFeedbackNegotiated := false
  videoTcpFd := none
  udpPayloadTarget := udpPayloadTargetDefault
  streamPolicy := .defaults
  videoWorker := videoWorker
  videoWorkerEpoch := if videoWorker then 1 else 0
  pendingJob := none
  activeJob := none
  tiles := fun _ => .fresh
  deliveries := []

def ServerState.initial (geometry : Geometry) (videoWorker : Bool) :
    ServerState where
  geometry := geometry
  framebufferGeneration := 1
  fullRefreshRequested := false
  capture := Capture.blank.withDamage .none
  worker := .idle
  net := .initial videoWorker
  trace := ⟨[], [], fun _ => false, false⟩

def serverRun (geometry : Geometry) (videoWorker : Bool)
    (events : List ServerEvent) : ServerState :=
  runFrom ServerState.step (.initial geometry videoWorker) events

/-! ## Scripts

Pieces of runs on a display of two tiles, for the examples of later modules.
-/

namespace Script

def display : Geometry :=
  ⟨17, 1, by decide, Nat.one_pos, by decide, by decide, by decide⟩

def resizedDisplay : Geometry :=
  ⟨18, 1, by decide, Nat.one_pos, by decide, by decide, by decide⟩

/-- A client that forces video; its packets are small, so a tile takes two. -/
def negotiation : Negotiation := ⟨⟨2, 0, 0, true⟩, 512, true, true⟩

def connect : List ServerEvent :=
  [.identifySession 7, .configureSession negotiation,
    .establishSession (some 5)]

def oneTile (tileId : Nat) : SceneDamage := ⟨false, fun id => id == tileId⟩

def frame (damage : SceneDamage) (pixel : UInt32) (gpuExport : Bool) :
    ServerEvent :=
  .render (.frame ⟨damage, fun _ _ => pixel, gpuExport, true⟩)

def analyze : List ServerEvent := [.readForce, .checkShadow, .diffFrame]

def beginPass : ServerEvent := .beginPass ⟨true, false, false⟩

def sentTile (tileId : Nat) : EncodeResult :=
  .encoded ⟨⟨.tile16x16, tileId⟩, none, true, fun _ => .queued⟩

def sendAll : List ServerEvent :=
  [beginPass, .beginBatch [0], .completeJob 0 [sentTile 0, sentTile 1],
    .endBatch, .advancePass, .advancePass, .endPass true]

def fullPass (pixel : UInt32) : List ServerEvent :=
  [.applyPendingCompositorRequests, frame .all pixel false] ++ analyze ++ sendAll

def quietHealth : ClientVideoHealthMetrics where
  serverFramesTx := 0
  clientReports := 0
  clientFramesSeen := 0
  clientFramesDecoded := 0
  clientFramesPresented := 0
  clientDecodeFailures := 0
  clientPublishFailures := 0
  clientNeedKeyframeDrops := 0
  clientAudioVideoSyncHolds := 0
  clientDecodeQueueDrops := 0
  clientAudioVideoStartupHoldMs := 0
  clientAudioPlaybackState := .disabled
  clientQueueDepth := 0
  clientQueueDepthMax := 0
  clientAudioVideoSyncHoldCurrentMs := 0

def tick (presented : Nat) (health : ClientVideoHealthMetrics) : ServerEvent :=
  .controllerTick ⟨0, 0, 0, 0, presented, 0, health, false, false⟩

def toReady : List ServerEvent :=
  connect ++ fullPass 1 ++ [tick 1 quietHealth, tick 1 quietHealth]

def enterVideo : List ServerEvent :=
  [.takeVideoJob, .completeVideoJob (.encoded 1 true false true)]

end Script

end WayDisplay.Server
