import Mathlib.Algebra.Order.Ring.Nat

/-!
Decisions about transitions between tiles and video (`wd_video_transition.c`).

All functions here are pure; the policy calls them with fields of its own state
and of the statistics sampled since the last tick.
-/

namespace WayDisplay.Server

inductive VideoMode where
  | auto
  | off
  | force
  deriving DecidableEq, Repr

/-- The wire value of a requested mode; other values are not modes. -/
def VideoMode.ofWire : Nat → Option VideoMode
  | 0 => some .auto
  | 1 => some .off
  | 2 => some .force
  | _ => none

/-! ## Recovery -/

inductive VideoRecoveryClass where
  | none
  | planned
  | failure
  deriving DecidableEq, Repr

inductive VideoRecoveryAction where
  | wait
  | presented
  | retryKeyframe
  | fallbackTiles
  deriving DecidableEq, Repr

def videoRecoveryDecide (keyframeQueued : Bool)
    (recoveryFrameId presentedFrameId waitSeconds timeoutSeconds attempts
      maximumAttempts : Nat) : VideoRecoveryAction :=
  if keyframeQueued ∧ recoveryFrameId ≠ 0 ∧
      presentedFrameId ≥ recoveryFrameId then .presented
  else if timeoutSeconds = 0 ∨ waitSeconds < timeoutSeconds then .wait
  else if attempts < maximumAttempts then .retryKeyframe
  else .fallbackTiles

inductive TileRecoveryAction where
  | wait
  | completePresented
  | completeTimeout
  deriving DecidableEq, Repr

def tileRecoveryDecide (refreshSent : Bool)
    (requiredContentEpoch presentedContentEpoch waitSeconds timeoutSeconds :
      Nat) : TileRecoveryAction :=
  if !refreshSent ∨ requiredContentEpoch = 0 then .wait
  else if presentedContentEpoch ≥ requiredContentEpoch then .completePresented
  else if timeoutSeconds ≠ 0 ∧ waitSeconds ≥ timeoutSeconds then
    .completeTimeout
  else .wait

inductive TileRecoveryGenerationAction where
  | wait
  | transmitted
  | stale
  deriving DecidableEq, Repr

def tileRecoveryGenerationDecide (refreshStarted refreshSent : Bool)
    (recoveryFramebufferGeneration currentFramebufferGeneration : Nat)
    (recoveryQueuesEmpty : Bool) : TileRecoveryGenerationAction :=
  if !refreshStarted ∨ refreshSent ∨ recoveryFramebufferGeneration = 0 then
    .wait
  else if recoveryFramebufferGeneration ≠ currentFramebufferGeneration then
    .stale
  else if recoveryQueuesEmpty then .transmitted
  else .wait

/-! ## Entry -/

def videoEntryAllowed (bootstrapPending recoveryActive : Bool)
    (retryCooldownSeconds : Nat) (videoForced : Bool)
    (recoveryClass : VideoRecoveryClass) : Bool :=
  if bootstrapPending || recoveryActive then false
  else if retryCooldownSeconds = 0 then true
  else videoForced && recoveryClass == .planned

def videoSessionBootstrapRequired (requestedMode : Option VideoMode)
    (clientVideoStream : Bool) : Bool :=
  match requestedMode with
  | none => false
  | some mode => mode != .off && clientVideoStream

def videoControlAllowsEntry (requestedMode : VideoMode)
    (videoNegotiated videoChannelConnected videoEncoderAvailable : Bool) :
    Bool :=
  requestedMode != .off && videoNegotiated && videoChannelConnected &&
    videoEncoderAvailable

def videoAutoModeWaitForRecovery (recovering : Bool)
    (requestedMode : VideoMode)
    (videoNegotiated videoChannelConnected videoEncoderAvailable : Bool) :
    Bool :=
  recovering && videoControlAllowsEntry requestedMode videoNegotiated
    videoChannelConnected videoEncoderAvailable

inductive PlannedVideoResumeAction where
  | wait
  | enter
  | clear
  deriving DecidableEq, Repr

def plannedVideoResumeDecide (resumeRequested recoveryActive
    bootstrapPending : Bool) (requestedMode : VideoMode)
    (videoNegotiated videoChannelConnected videoEncoderAvailable : Bool) :
    PlannedVideoResumeAction :=
  if !resumeRequested then .wait
  else if !videoControlAllowsEntry requestedMode videoNegotiated
      videoChannelConnected videoEncoderAvailable then .clear
  else if recoveryActive || bootstrapPending then .wait
  else .enter

/-! ## Epochs -/

/-- Zero stands for no epoch, so the wrap skips it. -/
def nextNonzeroEpoch (currentEpoch : UInt64) : UInt64 :=
  if currentEpoch + 1 = 0 then 1 else currentEpoch + 1

/--
The session counts its epochs and framebuffer generations from zero and without
a bound.  This is the word the code has where the session has `count`.
-/
def epochWord : Nat → UInt64
  | 0 => 0
  | count + 1 => nextNonzeroEpoch (epochWord count)

/-- The counter has not run through all words: epochs are told apart. -/
def Unwrapped (count : Nat) : Prop :=
  count < 2 ^ 64

theorem nextNonzeroEpoch_ne_zero (currentEpoch : UInt64) :
    nextNonzeroEpoch currentEpoch ≠ 0 := by
  unfold nextNonzeroEpoch
  split
  · decide
  · assumption

theorem epochWord_eq_zero_iff (count : Nat) : epochWord count = 0 ↔ count = 0 := by
  cases count with
  | zero => exact iff_of_true rfl rfl
  | succ count =>
      exact iff_of_false (nextNonzeroEpoch_ne_zero _) (Nat.succ_ne_zero _)

theorem epochWord_toNat {count : Nat} (unwrapped : Unwrapped count) :
    (epochWord count).toNat = count := by
  induction count with
  | zero => rfl
  | succ count ih =>
      have next : (epochWord count + 1).toNat = count + 1 := by
        rw [UInt64.toNat_add, ih (Nat.lt_of_succ_lt unwrapped)]
        exact Nat.mod_eq_of_lt unwrapped
      have nonzero : epochWord count + 1 ≠ 0 := fun zero => by
        rw [zero] at next
        cases next
      rw [epochWord, nextNonzeroEpoch, if_neg nonzero, next]

theorem epochWord_beq {count other : Nat} (unwrapped : Unwrapped count)
    (unwrapped' : Unwrapped other) :
    (epochWord count == epochWord other) = (count == other) := by
  refine Bool.eq_iff_iff.mpr ?_
  rw [beq_iff_eq, beq_iff_eq]
  refine ⟨fun same => ?_, congrArg epochWord⟩
  rw [← epochWord_toNat unwrapped, same, epochWord_toNat unwrapped']

structure VideoEntryPlan (Epoch : Type) where
  sourceContentEpoch : Epoch
  frameContentEpoch : Epoch
  commitOnQueue : Bool
  deriving DecidableEq, Repr

section EntryPlan

variable {Epoch : Type} [BEq Epoch] (next : Epoch → Epoch)

/-- The code's `next` is `nextNonzeroEpoch`, the session's adds one. -/
def videoEntryPlanMake (currentEpoch : Epoch)
    (waitingForFirstKeyframe frameIsKeyframe : Bool) : VideoEntryPlan Epoch :=
  if waitingForFirstKeyframe && frameIsKeyframe then
    ⟨currentEpoch, next currentEpoch, true⟩
  else ⟨currentEpoch, currentEpoch, false⟩

def VideoEntryPlan.canCommit (plan : VideoEntryPlan Epoch)
    (currentEpoch : Epoch) (queueSucceeded : Bool) : Bool :=
  plan.commitOnQueue && queueSucceeded &&
    plan.sourceContentEpoch == currentEpoch &&
    plan.frameContentEpoch == next currentEpoch

end EntryPlan

/-- A plan made and judged on words commits where the counted one does. -/
theorem canCommit_epochWord {source current : Nat}
    (unwrapped : Unwrapped (source + 1)) (unwrapped' : Unwrapped (current + 1))
    (waiting keyframe queued : Bool) :
    (videoEntryPlanMake nextNonzeroEpoch (epochWord source) waiting
        keyframe).canCommit nextNonzeroEpoch (epochWord current) queued =
      (videoEntryPlanMake (· + 1) source waiting keyframe).canCommit (· + 1)
        current queued := by
  have same := epochWord_beq (Nat.lt_of_succ_lt unwrapped)
    (Nat.lt_of_succ_lt unwrapped')
  have nextSame := epochWord_beq unwrapped unwrapped'
  rw [epochWord, epochWord] at nextSame
  cases waiting <;> cases keyframe <;>
    simp [videoEntryPlanMake, VideoEntryPlan.canCommit, same, nextSame]

/-! ## Client health -/

inductive ClientVideoHealth where
  | idle
  | normal
  | audioWait
  | decoderOverloaded
  | awaitingKeyframe
  | pipelineStall
  | hardFailure
  deriving DecidableEq, Repr

inductive AudioPlayback where
  | disabled
  | buffering
  | playing
  | starved
  deriving DecidableEq, Repr

structure ClientVideoHealthMetrics where
  serverFramesTx : Nat
  clientReports : Nat
  clientFramesSeen : Nat
  clientFramesDecoded : Nat
  clientFramesPresented : Nat
  clientDecodeFailures : Nat
  clientPublishFailures : Nat
  clientNeedKeyframeDrops : Nat
  clientAudioVideoSyncHolds : Nat
  clientDecodeQueueDrops : Nat
  clientAudioVideoStartupHoldMs : Nat
  clientAudioPlaybackState : AudioPlayback
  clientQueueDepth : Nat
  clientQueueDepthMax : Nat
  clientAudioVideoSyncHoldCurrentMs : Nat
  deriving DecidableEq, Repr

def startupHoldMaxMs : Nat := 1000

def playingHoldMaxMs : Nat := 2000

def ClientVideoHealthMetrics.waitsForAudio
    (metrics : ClientVideoHealthMetrics) : Bool :=
  metrics.clientFramesDecoded ≠ 0 && metrics.clientAudioVideoSyncHolds ≠ 0 &&
    (metrics.clientAudioPlaybackState == .buffering ||
      metrics.clientAudioPlaybackState == .playing) &&
    metrics.clientAudioVideoStartupHoldMs ≤ startupHoldMaxMs &&
    metrics.clientAudioVideoSyncHoldCurrentMs ≠ 0 &&
    metrics.clientAudioVideoSyncHoldCurrentMs ≤ playingHoldMaxMs &&
    (metrics.clientQueueDepth ≠ 0 || metrics.clientQueueDepthMax ≠ 0)

def clientVideoHealthClassify (metrics : ClientVideoHealthMetrics) :
    ClientVideoHealth :=
  if metrics.clientReports = 0 then .idle
  else if metrics.clientDecodeFailures ≠ 0 ∨
      metrics.clientPublishFailures ≠ 0 then .hardFailure
  else if metrics.clientDecodeQueueDrops ≠ 0 then .decoderOverloaded
  else if metrics.clientNeedKeyframeDrops ≠ 0 then .awaitingKeyframe
  else if metrics.serverFramesTx = 0 then .idle
  else if metrics.clientFramesPresented ≠ 0 then .normal
  else if metrics.waitsForAudio then .audioWait
  else if metrics.clientFramesSeen ≠ 0 ∨ metrics.clientFramesDecoded ≠ 0 then
    .pipelineStall
  else .idle

def videoHealthForWindow (health : ClientVideoHealth)
    (visible focused : Bool) : ClientVideoHealth :=
  if health = .pipelineStall ∧ (!visible ∨ !focused) then .idle else health

def uint32Limit : Nat := 2 ^ 32 - 1

def saturatingIncrement (value : Nat) : Nat :=
  if value < uint32Limit then value + 1 else value

structure VideoHealthStreak where
  health : ClientVideoHealth
  seconds : Nat
  deriving DecidableEq, Repr

def videoHealthStreakUpdate (current : VideoHealthStreak)
    (sample : ClientVideoHealth) : VideoHealthStreak :=
  if sample ≠ .pipelineStall ∧ sample ≠ .hardFailure then ⟨.idle, 0⟩
  else if current.health ≠ sample then ⟨sample, 1⟩
  else { current with seconds := saturatingIncrement current.seconds }

/-! ## Client feedback -/

structure VideoFeedbackFlags where
  needsKeyframe : Bool
  decodeOverload : Bool
  decodeFailure : Bool
  publishFailure : Bool
  deriving DecidableEq, Repr

def VideoFeedbackFlags.none : VideoFeedbackFlags := ⟨false, false, false, false⟩

def VideoFeedbackFlags.union (first second : VideoFeedbackFlags) :
    VideoFeedbackFlags :=
  ⟨first.needsKeyframe || second.needsKeyframe,
    first.decodeOverload || second.decodeOverload,
    first.decodeFailure || second.decodeFailure,
    first.publishFailure || second.publishFailure⟩

inductive VideoFeedbackAction where
  | none
  | recoverInVideo
  | fallbackTiles
  deriving DecidableEq, Repr

def videoFeedbackActionClassify (flags : VideoFeedbackFlags) :
    VideoFeedbackAction :=
  if flags.decodeFailure || flags.publishFailure then .fallbackTiles
  else if flags.decodeOverload || flags.needsKeyframe then .recoverInVideo
  else .none

end WayDisplay.Server
