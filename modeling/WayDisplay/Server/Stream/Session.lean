import WayDisplay.Server.Stream.Capture
import WayDisplay.Server.Stream.SendPass

/-!
Sessions, the video worker and the controller (`wd_server_net.c`,
`wd_stream_video.c`, `wd_stream_controller.c`, `wd_server_apply_display_size`).

Every change of the display's owner opens a new content epoch, and so does every
connection, disconnection and resize.  The first keyframe of a video is encoded
in the tiles' epoch and carries the next one, which becomes current together
with the video's ownership when the frame has been queued.
-/

namespace WayDisplay.Server

open Common

/-! ## Content epochs and resets -/

/-- Epochs are counted; the word on the wire is `epochWord` of the count. -/
def NetState.advanceContentEpoch (net : NetState) : NetState :=
  { net with contentEpoch := net.contentEpoch + 1 }

/-- The mailbox is emptied, and a job that is being encoded turns stale. -/
def NetState.discardVideoJobs (net : NetState) : NetState :=
  { net with
    videoWorkerEpoch := net.videoWorkerEpoch + 1
    pendingJob := none }

namespace StreamPolicy

/-- A resize keeps the intention to stream video; other resets forget it. -/
def planResume (policy : StreamPolicy) (connected resize : Bool) :
    StreamPolicy :=
  if resize then
    if connected && (policy.streamMode.usesVideoFrames ||
        (policy.streamMode == .tileRecovery &&
          policy.plannedRecoveryResumeVideo)) then
      { policy with
        plannedRecoveryResumeVideo := true
        plannedRecoverySourceMode :=
          if policy.streamMode.usesVideoFrames then policy.streamMode
          else policy.plannedRecoverySourceMode }
    else policy
  else policy.forgetPlannedResume

/-- A second resize restarts a planned recovery for the new framebuffer. -/
def restartPlannedRecovery (policy : StreamPolicy) (resize : Bool) :
    StreamPolicy :=
  if resize && policy.streamMode == .tileRecovery &&
      policy.videoRecoveryClass == .planned then
    { policy.restartRecovery with tileRecoveryLiveDamageDeferred := false }
  else policy

def resetRecoveryClass (connected resize : Bool) : VideoRecoveryClass :=
  if connected then if resize then .planned else .failure else .none

def resetVideo (policy : StreamPolicy) (connected resize : Bool) :
    StreamPolicy :=
  if policy.streamMode = .tiles then
    policy.clearModeCounters.planResume connected resize
  else
    ((policy.clearModeCounters.planResume connected
      resize).restartPlannedRecovery resize).setMode
        (if connected then .tileRecovery else .tiles)
        (resetRecoveryClass connected resize)

end StreamPolicy

namespace NetState

def resetVideo (net : NetState) (resize : Bool) : NetState :=
  let advanced :=
    if resize || net.videoOwnsDisplay then net.advanceContentEpoch else net
  advanced.discardVideoJobs.withPolicy
    (net.streamPolicy.resetVideo net.clientConnected resize)

/-! ## The controller -/

def noteOwnerChange (net : NetState) (ownedBefore : Bool) : NetState :=
  if ownedBefore = net.videoOwnsDisplay then net
  else
    net.advanceContentEpoch.withPolicy
      { net.streamPolicy with
        tileRecoveryContentEpoch :=
          if net.streamPolicy.streamMode = .tileRecovery then
            net.contentEpoch + 1
          else net.streamPolicy.tileRecoveryContentEpoch }

def tick (net : NetState) (stats : TickStats) : NetState :=
  (net.withPolicy (net.streamPolicy.tick stats net.videoRuntime)).noteOwnerChange
    net.videoOwnsDisplay

end NetState

/-! ## The video worker -/

inductive VideoEncodeOutcome where
  | noFrame
  | encoded (frameId : Nat) (keyframe sendPending queued : Bool)
  deriving DecidableEq, Repr

namespace NetState

def videoJobCurrent (net : NetState) (job : VideoWorkerJob) : Bool :=
  net.videoWorkerEpoch == job.epoch && net.sessionId == job.sessionId &&
    net.connectionToken == job.connectionToken &&
    net.contentEpoch == job.sourceContentEpoch &&
    net.videoTcpFd == some job.videoTcpFd && net.videoStreamNegotiated &&
    net.streamPolicy.streamMode.usesVideoFrames

def takeVideoJob (net : NetState) : NetState :=
  match net.activeJob, net.pendingJob with
  | none, some job => { net with activeJob := some job, pendingJob := none }
  | _, _ => net

end NetState

def VideoWorkerJob.entryPlan (job : VideoWorkerJob) (keyframe : Bool) :
    VideoEntryPlan Nat :=
  videoEntryPlanMake (· + 1) job.sourceContentEpoch
    (job.firstVideoEntry && job.requestKeyframe) keyframe

def VideoWorkerJob.frame (job : VideoWorkerJob) (frameId : Nat)
    (keyframe : Bool) : VideoFrame where
  connectionToken := job.connectionToken
  contentEpoch := (job.entryPlan keyframe).frameContentEpoch
  frameId := frameId
  keyframe := keyframe

namespace StreamPolicy

def trackKeyframe (policy : StreamPolicy) (frameId : Nat) (keyframe : Bool) :
    StreamPolicy :=
  if policy.streamMode = .videoRecovering ∧ keyframe ∧
      !policy.videoRecoveryKeyframeQueued ∧ frameId ≠ 0 then
    { policy with
      videoRecoveryKeyframeQueued := true
      videoRecoveryKeyframeId := frameId
      videoRecoveryWaitSeconds := 0 }
  else policy

end StreamPolicy

def StreamPolicy.noteFeedback (policy : StreamPolicy) (sequence : Nat)
    (flags : VideoFeedbackFlags) : StreamPolicy :=
  { policy with
    videoFeedbackFlags := policy.videoFeedbackFlags.union flags
    videoFeedbackSequence := sequence }

def Trace.recordFrame (trace : Trace) (frame : VideoFrame) : Trace :=
  { trace with videoFrames := frame :: trace.videoFrames }

namespace ServerState

def commitsVideo (s : ServerState) (job : VideoWorkerJob) (keyframe : Bool) :
    Bool :=
  s.net.streamPolicy.streamMode == .videoReady &&
    (job.entryPlan keyframe).canCommit (· + 1) s.net.contentEpoch true

def recordVideoFrame (s : ServerState) (job : VideoWorkerJob) (frameId : Nat)
    (keyframe : Bool) : ServerState :=
  { s with
    net := s.net.withPolicy
      (s.net.streamPolicy.trackKeyframe frameId keyframe)
    trace := s.trace.recordFrame (job.frame frameId keyframe) }

/-- The display changes hands: the frame's epoch becomes the current one. -/
def commitVideo (s : ServerState) (job : VideoWorkerJob) (frameId : Nat)
    (keyframe : Bool) : ServerState :=
  { s with
    net := { s.net with
      contentEpoch := (job.entryPlan keyframe).frameContentEpoch
      streamPolicy := s.net.streamPolicy.setMode .videoActive .none }
    trace := (s.trace.recordFrame (job.frame frameId keyframe)).settle }

def queueVideoFrame (s : ServerState) (job : VideoWorkerJob) (frameId : Nat)
    (keyframe queued : Bool) : ServerState :=
  if !queued then s.withNet (s.net.resetVideo false)
  else if s.commitsVideo job keyframe then s.commitVideo job frameId keyframe
  else s.recordVideoFrame job frameId keyframe

/-- The locked end of `wd_stream_video_worker_process`. -/
def finishVideoJob (s : ServerState) (job : VideoWorkerJob) :
    VideoEncodeOutcome → ServerState
  | .noFrame => s
  | .encoded frameId keyframe sendPending queued =>
      if !s.net.videoJobCurrent job || sendPending ||
          (job.requestKeyframe && !keyframe) then s
      else s.queueVideoFrame job frameId keyframe queued

def releaseJob (s : ServerState) : ServerState :=
  s.withNet { s.net with activeJob := none }

def completeVideoJob (s : ServerState) (outcome : VideoEncodeOutcome) :
    ServerState :=
  match s.net.activeJob with
  | none => s
  | some job => s.releaseJob.finishVideoJob job outcome

/-! ## Sessions -/

end ServerState

/-- Session identifiers have eight bits and skip zero. -/
def nextSessionId (current : Nat) : Nat :=
  if current = 0 ∨ current = 255 then 1 else current + 1

structure Negotiation where
  hello : ClientHello
  udpPayloadTarget : Nat
  videoStream : Bool
  videoFeedback : Bool
  deriving DecidableEq, Repr

namespace NetState

def identify (net : NetState) (connectionToken : Nat) : NetState :=
  { net with
    sessionPhase := .identified
    sessionId := nextSessionId net.sessionId
    connectionToken := connectionToken
    connectionEpoch := net.connectionEpoch + 1
    configEpoch := net.configEpoch + 1
    contentEpoch := net.contentEpoch + 1 }

def configure (net : NetState) (negotiation : Negotiation) : NetState :=
  { net with
    sessionPhase := .configured
    udpPayloadTarget := negotiation.udpPayloadTarget
    videoStreamNegotiated := negotiation.videoStream
    videoFeedbackNegotiated := negotiation.videoFeedback
    streamPolicy := net.streamPolicy.beginSession negotiation.hello
      net.contentEpoch }

def establish (net : NetState) (videoTcpFd : Option Nat) : NetState :=
  { net.collapseTileQueuesForVideo with
    sessionPhase := .established
    videoTcpFd := videoTcpFd
    configUpdatePending := false }

def rollback (net : NetState) : NetState :=
  { net with
    sessionPhase := .closed
    udpPayloadTarget := udpPayloadTargetDefault
    videoStreamNegotiated := false
    videoFeedbackNegotiated := false
    streamPolicy := .defaults }

def closeSession (net : NetState) : NetState :=
  { net with
    sessionPhase := .closed
    videoTcpFd := none
    connectionEpoch := net.connectionEpoch + 1
    contentEpoch := net.contentEpoch + 1
    configUpdatePending := false }

def disconnect (net : NetState) : NetState :=
  { net.closeSession.resetVideo false with
    videoStreamNegotiated := false
    videoFeedbackNegotiated := false }

/-- Feedback of the current epoch, newer than what was received before. -/
def receiveVideoFeedback (net : NetState) (contentEpoch sequence : Nat)
    (flags : VideoFeedbackFlags) : NetState :=
  if net.clientConnected && net.videoFeedbackNegotiated &&
      contentEpoch == net.contentEpoch && sequence != 0 &&
      sequence > net.streamPolicy.videoFeedbackSequence then
    net.withPolicy (net.streamPolicy.noteFeedback sequence flags)
  else net

def acceptVideoChannel (net : NetState) (fd : Nat) : NetState :=
  if net.clientConnected && net.videoStreamNegotiated &&
      net.videoTcpFd.isNone then { net with videoTcpFd := some fd }
  else net

def dropVideoChannel (net : NetState) : NetState :=
  { net with videoTcpFd := none }

def closeVideoChannel (net : NetState) : NetState :=
  if net.clientConnected && net.videoTcpFd.isSome then
    net.dropVideoChannel.resetVideo false
  else net

end NetState

namespace ServerState

def identifySession (s : ServerState) (connectionToken : Nat) : ServerState :=
  if s.net.sessionPhase = .closed then s.withNet (s.net.identify connectionToken)
  else s

def configureSession (s : ServerState) (negotiation : Negotiation) :
    ServerState :=
  if s.net.sessionPhase = .identified then
    s.withNet (s.net.configure negotiation)
  else s

def establishSession (s : ServerState) (videoTcpFd : Option Nat) :
    ServerState :=
  if s.net.sessionPhase = .configured then
    (s.withNet (s.net.establish videoTcpFd)).requestFullRefresh
  else s

def rollbackSession (s : ServerState) : ServerState :=
  if s.net.sessionPhase = .established then s else s.withNet s.net.rollback

def disconnectClient (s : ServerState) : ServerState :=
  if s.net.sessionPhase = .established then
    { s with net := s.net.disconnect, trace := s.trace.settle }
  else s

def applyConfig (s : ServerState) (configEpoch : Nat) : ServerState :=
  if s.net.clientConnected && s.net.configUpdatePending &&
      configEpoch == s.net.configEpoch then
    (s.withNet { s.net with configUpdatePending := false }).requestFullRefresh
  else s

/-- `wd_server_reap_and_sample_async_locked`, for the video sender. -/
def failVideoTransport (s : ServerState) : ServerState :=
  if s.net.videoTcpFd.isNone then s
  else
    { s with
      net := s.net.resetVideo false
      capture := s.capture.withDamage .all
      fullRefreshRequested := true }

end ServerState

/-- New storage: black framebuffers and a shadow that is not yet valid. -/
def Capture.blank : Capture where
  framebuffer := fun _ _ => 0
  shadow := fun _ _ => 0
  shadowValid := false
  damage := .all
  composed := fun _ _ => none

def NetState.resize (net : NetState) : NetState :=
  { net with
    configEpoch := net.configEpoch + 1
    tiles := fun _ => .fresh }

/-- The client is told the new size; no tile is sent before it answers. -/
def NetState.awaitConfig (net : NetState) : NetState :=
  { net with configUpdatePending := true }

def Trace.forgetTiles (trace : Trace) : Trace :=
  { trace with unsent := fun _ => false }

namespace ServerState

def replaceDisplay (s : ServerState) (geometry : Geometry) : ServerState :=
  { s with
    geometry := geometry
    framebufferGeneration := s.framebufferGeneration + 1
    capture := .blank
    net := (s.net.resize.resetVideo true).awaitConfig
    trace := s.trace.forgetTiles }

/-- `wd_server_apply_display_size`, with the frame worker idle. -/
def applyDisplaySize (s : ServerState) (geometry : Geometry) : ServerState :=
  if !s.worker.isIdle || geometry == s.geometry then s
  else s.replaceDisplay geometry

end ServerState

end WayDisplay.Server
