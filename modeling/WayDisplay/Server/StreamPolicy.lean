import WayDisplay.Server.VideoTransition

/-!
The stream mode machine (`wd_stream.c`).

Once a second the controller first reads the client's health and then selects a
mode.  Pacing, bandwidth plans and their counters follow the mode but never
change it; they are left out.  Statistics that only enter as measured averages
appear as the two judgements the mode selection makes of them.
-/

namespace WayDisplay.Server

inductive StreamMode where
  | tiles
  | videoCandidate
  | videoReady
  | videoActive
  | videoRecovering
  | tileRecovery
  deriving DecidableEq, Repr

def StreamMode.usesVideoFrames (mode : StreamMode) : Bool :=
  mode == .videoReady || mode == .videoActive || mode == .videoRecovering

def StreamMode.videoOwnsDisplay (mode : StreamMode) : Bool :=
  mode == .videoActive || mode == .videoRecovering

structure StreamPolicy where
  streamMode : StreamMode
  videoMode : VideoMode
  videoEnterSeconds : Nat
  videoExitSeconds : Nat
  videoCandidateSeconds : Nat
  tileRecoverySeconds : Nat
  videoClientFailureSeconds : Nat
  videoClientFailureClass : ClientVideoHealth
  videoFeedbackFlags : VideoFeedbackFlags
  videoFeedbackSequence : Nat
  videoRecoveryAttempts : Nat
  videoRecoveryWaitSeconds : Nat
  videoRecoveryKeyframeQueued : Bool
  videoRecoveryKeyframeId : Nat
  tileRefreshPending : Bool
  tileRecoveryRefreshStarted : Bool
  tileRecoveryRefreshSent : Bool
  tileRecoveryWaitSeconds : Nat
  tileRecoveryFramebufferGeneration : Nat
  tileRecoveryLiveDamageDeferred : Bool
  tileRecoveryContentEpoch : Nat
  videoRecoveryClass : VideoRecoveryClass
  plannedRecoveryResumeVideo : Bool
  plannedRecoverySourceMode : StreamMode
  videoRetryCooldownSeconds : Nat
  videoBootstrapPending : Bool
  videoBootstrapRefreshStarted : Bool
  videoBootstrapRefreshSent : Bool
  videoBootstrapWaitSeconds : Nat
  videoBootstrapContentEpoch : Nat
  clientRenderVisible : Bool
  clientWindowFocused : Bool
  deriving DecidableEq, Repr

structure TickStats where
  clientRenderHiddenReports : Nat
  clientRenderVisibleReports : Nat
  clientWindowUnfocusedReports : Nat
  clientWindowFocusedReports : Nat
  clientTileContentEpochPresented : Nat
  clientVideoLastFrameIdPresented : Nat
  videoHealth : ClientVideoHealthMetrics
  autoEntryCandidate : Bool
  lowDirty : Bool
  deriving DecidableEq, Repr

def videoEnterSecondsDefault : Nat := 3

def videoEnterSecondsMax : Nat := 60

def videoExitSecondsDefault : Nat := 30

def videoExitSecondsMax : Nat := 300

def tileRecoveryTimeoutSeconds : Nat := 5

def videoRetryCooldownSecondsStart : Nat := 5

def videoRecoveryTimeoutSeconds : Nat := 4

def videoRecoveryMaxAttempts : Nat := 3

def videoClientFailureSecondsLimit : Nat := 4

namespace StreamPolicy

def defaults : StreamPolicy where
  streamMode := .tiles
  videoMode := .auto
  videoEnterSeconds := videoEnterSecondsDefault
  videoExitSeconds := videoExitSecondsDefault
  videoCandidateSeconds := 0
  tileRecoverySeconds := 0
  videoClientFailureSeconds := 0
  videoClientFailureClass := .idle
  videoFeedbackFlags := .none
  videoFeedbackSequence := 0
  videoRecoveryAttempts := 0
  videoRecoveryWaitSeconds := 0
  videoRecoveryKeyframeQueued := false
  videoRecoveryKeyframeId := 0
  tileRefreshPending := false
  tileRecoveryRefreshStarted := false
  tileRecoveryRefreshSent := false
  tileRecoveryWaitSeconds := 0
  tileRecoveryFramebufferGeneration := 0
  tileRecoveryLiveDamageDeferred := false
  tileRecoveryContentEpoch := 0
  videoRecoveryClass := .none
  plannedRecoveryResumeVideo := false
  plannedRecoverySourceMode := .tiles
  videoRetryCooldownSeconds := 0
  videoBootstrapPending := false
  videoBootstrapRefreshStarted := false
  videoBootstrapRefreshSent := false
  videoBootstrapWaitSeconds := 0
  videoBootstrapContentEpoch := 0
  clientRenderVisible := true
  clientWindowFocused := true

/-! ## Session start -/

end StreamPolicy

structure ClientHello where
  videoMode : Nat
  videoEnterSeconds : Nat
  videoExitSeconds : Nat
  clientVideoStream : Bool
  deriving DecidableEq, Repr

/-- A requested duration: zero means the default, and the rest is capped. -/
def requestedSeconds (requested default limit : Nat) : Nat :=
  min (if requested ≠ 0 then requested else default) limit

namespace StreamPolicy

/-- Every field that the model keeps is reset, or taken from the hello. -/
def applyClientHello (hello : ClientHello) : StreamPolicy :=
  { defaults with
    videoMode := (VideoMode.ofWire hello.videoMode).getD .auto
    videoEnterSeconds := requestedSeconds hello.videoEnterSeconds
      videoEnterSecondsDefault videoEnterSecondsMax
    videoExitSeconds := requestedSeconds hello.videoExitSeconds
      videoExitSecondsDefault videoExitSecondsMax }

def beginSession (policy : StreamPolicy) (hello : ClientHello)
    (bootstrapContentEpoch : Nat) : StreamPolicy :=
  if bootstrapContentEpoch = 0 then policy
  else
    let required := videoSessionBootstrapRequired
      (VideoMode.ofWire hello.videoMode) hello.clientVideoStream
    { applyClientHello hello with
      tileRefreshPending := true
      videoBootstrapPending := required
      videoBootstrapContentEpoch :=
        if required then bootstrapContentEpoch else 0 }

/-! ## Modes -/

def forgetPlannedResume (policy : StreamPolicy) : StreamPolicy :=
  { policy with
    plannedRecoveryResumeVideo := false
    plannedRecoverySourceMode := .tiles }

/--
Every change of mode resets the recovery barrier.  Entering the tile recovery,
or taking the display from video, asks for a full refresh.
-/
def changeMode (policy : StreamPolicy) (mode : StreamMode)
    (recoveryClass : VideoRecoveryClass) : StreamPolicy :=
  { policy with
    streamMode := mode
    tileRecoveryRefreshStarted := false
    tileRecoveryRefreshSent := false
    tileRecoveryWaitSeconds := 0
    tileRecoveryFramebufferGeneration := 0
    tileRecoveryLiveDamageDeferred := false
    tileRefreshPending :=
      policy.tileRefreshPending || mode == .tileRecovery ||
        (policy.streamMode.videoOwnsDisplay && !mode.videoOwnsDisplay)
    videoClientFailureSeconds :=
      if mode = .tileRecovery then 0 else policy.videoClientFailureSeconds
    tileRecoveryContentEpoch :=
      if mode = .tileRecovery then 0 else policy.tileRecoveryContentEpoch
    videoRecoveryClass :=
      if mode = .tileRecovery then recoveryClass
      else if mode.usesVideoFrames && !policy.streamMode.usesVideoFrames then
        .none
      else policy.videoRecoveryClass
    plannedRecoveryResumeVideo :=
      policy.plannedRecoveryResumeVideo &&
        (mode != .tileRecovery || recoveryClass == .planned)
    plannedRecoverySourceMode :=
      if mode = .tileRecovery ∧ recoveryClass ≠ .planned then .tiles
      else policy.plannedRecoverySourceMode }

def setMode (policy : StreamPolicy) (mode : StreamMode)
    (recoveryClass : VideoRecoveryClass) : StreamPolicy :=
  if policy.streamMode = mode then policy
  else policy.changeMode mode recoveryClass

@[simp]
theorem setMode_streamMode (policy : StreamPolicy) (mode : StreamMode)
    (recoveryClass : VideoRecoveryClass) :
    (policy.setMode mode recoveryClass).streamMode = mode := by
  unfold setMode
  split
  · assumption
  · rfl

/-! ## Health -/

def noteWindow (policy : StreamPolicy) (stats : TickStats) : StreamPolicy :=
  { policy with
    clientRenderVisible :=
      if stats.clientRenderHiddenReports ≠ 0 then false
      else if stats.clientRenderVisibleReports ≠ 0 then true
      else policy.clientRenderVisible
    clientWindowFocused :=
      if stats.clientWindowUnfocusedReports ≠ 0 then false
      else if stats.clientWindowFocusedReports ≠ 0 then true
      else policy.clientWindowFocused }

def tileRecoveryAction (policy : StreamPolicy) (stats : TickStats) :
    TileRecoveryAction :=
  tileRecoveryDecide policy.tileRecoveryRefreshSent
    policy.tileRecoveryContentEpoch stats.clientTileContentEpochPresented
    policy.tileRecoveryWaitSeconds tileRecoveryTimeoutSeconds

/-- A timeout counts as a failure of video and gives up a planned resume. -/
def noteRecoveryTimeout (policy : StreamPolicy) (action : TileRecoveryAction) :
    StreamPolicy :=
  if action = .completeTimeout then
    { policy.forgetPlannedResume with videoRecoveryClass := .failure }
  else policy

def startRetryCooldown (policy : StreamPolicy) (action : TileRecoveryAction) :
    StreamPolicy :=
  { policy with
    videoRetryCooldownSeconds :=
      if action = .completePresented ∧ policy.videoRecoveryClass = .planned ∧
          policy.plannedRecoveryResumeVideo then 0
      else videoRetryCooldownSecondsStart }

def requestDeferred (policy : StreamPolicy) : StreamPolicy :=
  { policy with
    tileRefreshPending :=
      policy.tileRecoveryLiveDamageDeferred || policy.tileRefreshPending }

def finishTileRecovery (policy : StreamPolicy) (action : TileRecoveryAction) :
    StreamPolicy :=
  ((policy.startRetryCooldown action).noteRecoveryTimeout
    action).requestDeferred.setMode .tiles .none

def countRecoveryWait (policy : StreamPolicy) : StreamPolicy :=
  { policy with
    tileRecoveryWaitSeconds :=
      if policy.tileRecoveryRefreshSent then
        saturatingIncrement policy.tileRecoveryWaitSeconds
      else policy.tileRecoveryWaitSeconds }

def clearFailureSeconds (policy : StreamPolicy) : StreamPolicy :=
  { policy with videoClientFailureSeconds := 0 }

def updateTileRecovery (policy : StreamPolicy) (stats : TickStats) :
    StreamPolicy :=
  if policy.tileRecoveryAction stats ≠ .wait then
    (policy.finishTileRecovery
      (policy.tileRecoveryAction stats)).clearFailureSeconds
  else policy.countRecoveryWait.clearFailureSeconds

def beginRecoveryAttempt (policy : StreamPolicy) (attempts : Nat) :
    StreamPolicy :=
  { policy with
    videoRecoveryAttempts := attempts
    videoRecoveryWaitSeconds := 0
    videoRecoveryKeyframeQueued := false
    videoRecoveryKeyframeId := 0 }

def endRecoveryAttempts (policy : StreamPolicy) : StreamPolicy :=
  { policy with videoRecoveryAttempts := 0, videoRecoveryWaitSeconds := 0 }

def countKeyframeWait (policy : StreamPolicy) : StreamPolicy :=
  { policy with
    videoRecoveryWaitSeconds :=
      saturatingIncrement policy.videoRecoveryWaitSeconds }

def videoRecoveryAction (policy : StreamPolicy) (stats : TickStats) :
    VideoRecoveryAction :=
  videoRecoveryDecide policy.videoRecoveryKeyframeQueued
    policy.videoRecoveryKeyframeId stats.clientVideoLastFrameIdPresented
    policy.videoRecoveryWaitSeconds videoRecoveryTimeoutSeconds
    policy.videoRecoveryAttempts videoRecoveryMaxAttempts

def updateVideoRecovery (policy : StreamPolicy) (stats : TickStats) :
    StreamPolicy :=
  match policy.videoRecoveryAction stats with
  | .presented =>
      ((policy.setMode .videoActive .none).beginRecoveryAttempt
        0).clearFailureSeconds
  | .retryKeyframe =>
      (policy.beginRecoveryAttempt
        (policy.videoRecoveryAttempts + 1)).clearFailureSeconds
  | .fallbackTiles =>
      (policy.setMode .tileRecovery
        .failure).endRecoveryAttempts.clearFailureSeconds
  | .wait => policy.countKeyframeWait.clearFailureSeconds

def clientVideoHealth (policy : StreamPolicy) (stats : TickStats) :
    ClientVideoHealth :=
  videoHealthForWindow (clientVideoHealthClassify stats.videoHealth)
    policy.clientRenderVisible policy.clientWindowFocused

def clearClientFailure (policy : StreamPolicy) : StreamPolicy :=
  { policy with
    videoClientFailureSeconds := 0
    videoClientFailureClass := .idle }

def noteFailureStreak (policy : StreamPolicy) (health : ClientVideoHealth) :
    StreamPolicy :=
  let streak := videoHealthStreakUpdate
    ⟨policy.videoClientFailureClass, policy.videoClientFailureSeconds⟩ health
  { policy with
    videoClientFailureClass := streak.health
    videoClientFailureSeconds := streak.seconds }

def judgeVideoHealth (policy : StreamPolicy) (health : ClientVideoHealth) :
    StreamPolicy :=
  if health = .decoderOverloaded ∨ health = .awaitingKeyframe then
    ((policy.beginRecoveryAttempt 1).setMode .videoRecovering
      .failure).clearClientFailure
  else if (policy.noteFailureStreak health).videoClientFailureSeconds ≥
      videoClientFailureSecondsLimit then
    ((policy.noteFailureStreak health).setMode .tileRecovery
      .failure).clearClientFailure
  else policy.noteFailureStreak health

def takeFeedback (policy : StreamPolicy) : StreamPolicy :=
  { policy with videoFeedbackFlags := .none }

/-- Immediate feedback counts in the active mode only. -/
def updateVideoHealth (policy : StreamPolicy) (stats : TickStats) :
    StreamPolicy :=
  match policy.streamMode,
      videoFeedbackActionClassify policy.videoFeedbackFlags with
  | .videoActive, .fallbackTiles =>
      policy.takeFeedback.setMode .tileRecovery .failure
  | .videoActive, .recoverInVideo =>
      (policy.takeFeedback.beginRecoveryAttempt 1).setMode .videoRecovering
        .failure
  | .videoRecovering, _ => policy.takeFeedback.updateVideoRecovery stats
  | _, _ =>
      policy.takeFeedback.judgeVideoHealth (policy.clientVideoHealth stats)

def updateHealth (policy : StreamPolicy) (stats : TickStats) : StreamPolicy :=
  if policy.streamMode = .tileRecovery then
    (policy.noteWindow stats).updateTileRecovery stats
  else if policy.streamMode.usesVideoFrames then
    (policy.noteWindow stats).updateVideoHealth stats
  else policy.noteWindow stats

/-! ## Mode selection -/

end StreamPolicy

structure VideoRuntime where
  negotiated : Bool
  channelConnected : Bool
  encoderAvailable : Bool
  deriving DecidableEq, Repr

def VideoRuntime.allowsEntry (runtime : VideoRuntime) (mode : VideoMode) :
    Bool :=
  videoControlAllowsEntry mode runtime.negotiated runtime.channelConnected
    runtime.encoderAvailable

namespace StreamPolicy

def clearModeCounters (policy : StreamPolicy) : StreamPolicy :=
  { policy with videoCandidateSeconds := 0, tileRecoverySeconds := 0 }

def clearCandidate (policy : StreamPolicy) : StreamPolicy :=
  { policy with videoCandidateSeconds := 0 }

def bootstrapPresented (policy : StreamPolicy) (stats : TickStats) : Bool :=
  policy.videoBootstrapRefreshSent && policy.videoBootstrapContentEpoch ≠ 0 &&
    stats.clientTileContentEpochPresented ≥ policy.videoBootstrapContentEpoch

def endBootstrap (policy : StreamPolicy) : StreamPolicy :=
  { policy with
    videoBootstrapPending := false
    videoBootstrapRefreshStarted := false
    videoBootstrapRefreshSent := false
    videoBootstrapWaitSeconds := 0 }

def countBootstrapWait (policy : StreamPolicy) : StreamPolicy :=
  { policy with
    videoBootstrapWaitSeconds :=
      if policy.videoBootstrapRefreshSent then
        saturatingIncrement policy.videoBootstrapWaitSeconds
      else policy.videoBootstrapWaitSeconds }

def updateBootstrap (policy : StreamPolicy) (stats : TickStats) :
    StreamPolicy :=
  if policy.bootstrapPresented stats then policy.clearCandidate.endBootstrap
  else policy.clearCandidate.countBootstrapWait

def plannedResumeAction (policy : StreamPolicy) (runtime : VideoRuntime) :
    PlannedVideoResumeAction :=
  plannedVideoResumeDecide policy.plannedRecoveryResumeVideo
    (policy.streamMode == .tileRecovery) policy.videoBootstrapPending
    policy.videoMode runtime.negotiated runtime.channelConnected
    runtime.encoderAvailable

def dropRefresh (policy : StreamPolicy) : StreamPolicy :=
  { policy with
    tileRefreshPending := false
    tileRecoveryLiveDamageDeferred := false }

/-- Back to video after a resize; a pending tile refresh is dropped. -/
def resumePlannedVideo (policy : StreamPolicy) : StreamPolicy :=
  policy.forgetPlannedResume.clearModeCounters.dropRefresh.setMode .videoReady
    .none

def leaveVideo (policy : StreamPolicy) : StreamPolicy :=
  if policy.streamMode.videoOwnsDisplay then
    policy.clearModeCounters.setMode .tileRecovery .failure
  else policy.clearModeCounters.setMode .tiles .none

def clearQuiet (policy : StreamPolicy) : StreamPolicy :=
  { policy with tileRecoverySeconds := 0 }

def countCandidate (policy : StreamPolicy) : StreamPolicy :=
  { policy with
    videoCandidateSeconds := saturatingIncrement policy.videoCandidateSeconds
    tileRecoverySeconds := 0 }

def enterSeconds (policy : StreamPolicy) : Nat :=
  if policy.videoEnterSeconds ≠ 0 then policy.videoEnterSeconds
  else videoEnterSecondsDefault

def approachVideo (policy : StreamPolicy) : StreamPolicy :=
  if policy.streamMode = .videoActive ∨ policy.streamMode = .videoReady then
    policy.clearQuiet
  else if policy.videoMode = .force ∨
      policy.countCandidate.videoCandidateSeconds ≥ policy.enterSeconds then
    policy.countCandidate.setMode .videoReady .none
  else policy.countCandidate.setMode .videoCandidate .none

def countQuiet (policy : StreamPolicy) : StreamPolicy :=
  { policy with
    videoCandidateSeconds := 0
    tileRecoverySeconds := saturatingIncrement policy.tileRecoverySeconds }

def exitSeconds (policy : StreamPolicy) : Nat :=
  if policy.videoExitSeconds ≠ 0 then policy.videoExitSeconds
  else videoExitSecondsDefault

def considerExit (policy : StreamPolicy) (lowDirty : Bool) : StreamPolicy :=
  if policy.videoMode = .force ∨ !lowDirty then policy.clearModeCounters
  else if policy.countQuiet.tileRecoverySeconds ≥ policy.exitSeconds then
    (policy.countQuiet.setMode .tileRecovery .planned).clearQuiet
  else policy.countQuiet

def videoEntryCandidate (policy : StreamPolicy) (stats : TickStats)
    (cooldownActive : Bool) : Bool :=
  policy.videoMode != .off &&
    videoEntryAllowed policy.videoBootstrapPending false
      (if cooldownActive then 1 else 0) (policy.videoMode == .force)
      policy.videoRecoveryClass &&
    (policy.videoMode == .force || stats.autoEntryCandidate)

def chooseMode (policy : StreamPolicy) (stats : TickStats)
    (runtime : VideoRuntime) (cooldownActive : Bool) : StreamPolicy :=
  if policy.videoMode = .off ∨ !runtime.allowsEntry policy.videoMode then
    policy.leaveVideo
  else if policy.videoEntryCandidate stats cooldownActive then
    policy.approachVideo
  else if policy.streamMode = .tiles then policy.clearModeCounters
  else policy.considerExit stats.lowDirty

def countCooldown (policy : StreamPolicy) : StreamPolicy :=
  { policy with
    videoRetryCooldownSeconds := policy.videoRetryCooldownSeconds - 1 }

def selectMode (policy : StreamPolicy) (stats : TickStats)
    (runtime : VideoRuntime) : StreamPolicy :=
  let cooldownActive := policy.videoRetryCooldownSeconds ≠ 0
  match policy.plannedResumeAction runtime, policy.streamMode with
  | .enter, .tiles => policy.countCooldown.resumePlannedVideo
  | .clear, _ =>
      policy.countCooldown.forgetPlannedResume.chooseMode stats runtime
        cooldownActive
  | _, _ => policy.countCooldown.chooseMode stats runtime cooldownActive

def updateMode (policy : StreamPolicy) (stats : TickStats)
    (runtime : VideoRuntime) : StreamPolicy :=
  if policy.streamMode = .tileRecovery then policy.clearCandidate
  else if videoAutoModeWaitForRecovery (policy.streamMode == .videoRecovering)
      policy.videoMode runtime.negotiated runtime.channelConnected
      runtime.encoderAvailable then policy.clearModeCounters
  else if policy.videoBootstrapPending then policy.updateBootstrap stats
  else policy.selectMode stats runtime

def tick (policy : StreamPolicy) (stats : TickStats) (runtime : VideoRuntime) :
    StreamPolicy :=
  (policy.updateHealth stats).updateMode stats runtime

end StreamPolicy

end WayDisplay.Server
