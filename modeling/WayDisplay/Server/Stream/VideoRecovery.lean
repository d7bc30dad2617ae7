import WayDisplay.Server.Stream.Epochs

/-!
Recovery inside video.

While video recovers, each attempt waits for its first keyframe to be queued and
then presented.  The wait starts over once, when the keyframe is queued, so an
attempt lasts at most twice the timeout and one tick; the attempts are numbered
from one to their maximum, and the tick after the last gives the display back
to the tiles.
-/

namespace WayDisplay.Server

open Common Foundation

/-! ## Attempts -/

structure RecoveryAttempt where
  attempts : Nat
  waitSeconds : Nat
  keyframeQueued : Bool
  keyframeId : Nat
  deriving DecidableEq, Repr

namespace StreamPolicy

def recoveryAttempt (policy : StreamPolicy) : RecoveryAttempt where
  attempts := policy.videoRecoveryAttempts
  waitSeconds := policy.videoRecoveryWaitSeconds
  keyframeQueued := policy.videoRecoveryKeyframeQueued
  keyframeId := policy.videoRecoveryKeyframeId

def recovering (policy : StreamPolicy) : Bool :=
  policy.streamMode == .videoRecovering

variable {policy : StreamPolicy}

@[simp]
theorem recovering_iff :
    policy.recovering = true ↔ policy.streamMode = .videoRecovering := by
  simp [recovering]

theorem setMode_recoveryAttempt (policy : StreamPolicy) (mode : StreamMode)
    (recoveryClass : VideoRecoveryClass) :
    (policy.setMode mode recoveryClass).recoveryAttempt =
      policy.recoveryAttempt := by
  unfold setMode
  split_ifs <;> rfl

/-! ## What the mode selection leaves alone -/

theorem chooseMode_recoveryAttempt (policy : StreamPolicy) (stats : TickStats)
    (runtime : VideoRuntime) (cooldownActive : Bool) :
    (policy.chooseMode stats runtime cooldownActive).recoveryAttempt =
      policy.recoveryAttempt := by
  unfold chooseMode leaveVideo approachVideo considerExit
  split_ifs
  any_goals rfl
  all_goals exact setMode_recoveryAttempt _ _ _

variable {stats : TickStats} {runtime : VideoRuntime}

theorem updateMode_recovering
    (stays : (policy.updateMode stats runtime).streamMode = .videoRecovering) :
    policy.streamMode = .videoRecovering ∧
      (policy.updateMode stats runtime).recoveryAttempt =
        policy.recoveryAttempt := by
  constructor
  · rcases updateMode_keepsOwner policy stats runtime with same | notOwns
    · exact same.symm.trans stays
    · rw [stays] at notOwns
      exact absurd notOwns (by decide)
  · unfold updateMode updateBootstrap selectMode
    split_ifs
    any_goals rfl
    dsimp only
    split
    · exact setMode_recoveryAttempt _ _ _
    · exact chooseMode_recoveryAttempt policy.countCooldown.forgetPlannedResume
        _ _ _
    · exact chooseMode_recoveryAttempt policy.countCooldown _ _ _

/-! ## What health does to an attempt -/

def firstAttempt : RecoveryAttempt := ⟨1, 0, false, 0⟩

inductive AttemptTick (attempt : RecoveryAttempt) : RecoveryAttempt → Prop
  | waits (early : attempt.waitSeconds < videoRecoveryTimeoutSeconds) :
      AttemptTick attempt
        { attempt with waitSeconds := attempt.waitSeconds + 1 }
  | retries (late : videoRecoveryTimeoutSeconds ≤ attempt.waitSeconds)
      (allowed : attempt.attempts < videoRecoveryMaxAttempts) :
      AttemptTick attempt ⟨attempt.attempts + 1, 0, false, 0⟩

theorem updateVideoRecovery_recovering
    (stays : (policy.updateVideoRecovery stats).streamMode = .videoRecovering) :
    AttemptTick policy.recoveryAttempt
      (policy.updateVideoRecovery stats).recoveryAttempt := by
  unfold updateVideoRecovery at stays ⊢
  cases decides : policy.videoRecoveryAction stats with
  | presented =>
      simp only [decides] at stays
      have left : (policy.setMode .videoActive .none).streamMode =
        .videoRecovering := stays
      simp at left
  | fallbackTiles =>
      simp only [decides] at stays
      have left : (policy.setMode .tileRecovery .failure).streamMode =
        .videoRecovering := stays
      simp at left
  | wait =>
      unfold videoRecoveryAction videoRecoveryDecide at decides
      split_ifs at decides with presented early
      have early : policy.videoRecoveryWaitSeconds <
          videoRecoveryTimeoutSeconds := early.resolve_left (by decide)
      have counts : policy.countKeyframeWait.clearFailureSeconds.recoveryAttempt =
          { policy.recoveryAttempt with
            waitSeconds := policy.videoRecoveryWaitSeconds + 1 } := by
        have room : policy.videoRecoveryWaitSeconds < uint32Limit :=
          lt_trans early (by decide)
        simp [recoveryAttempt, countKeyframeWait, clearFailureSeconds,
          saturatingIncrement, room]
      exact counts ▸ .waits early
  | retryKeyframe =>
      unfold videoRecoveryAction videoRecoveryDecide at decides
      split_ifs at decides with presented early allowed
      exact .retries (not_lt.mp (not_or.mp early).2) allowed

theorem judgeVideoHealth_recovering {health : ClientVideoHealth}
    (elsewhere : policy.streamMode ≠ .videoRecovering)
    (enters : (policy.judgeVideoHealth health).streamMode = .videoRecovering) :
    (policy.judgeVideoHealth health).recoveryAttempt = firstAttempt := by
  unfold judgeVideoHealth at enters ⊢
  split_ifs at enters ⊢
  · exact setMode_recoveryAttempt (policy.beginRecoveryAttempt 1) _ _
  · have left : ((policy.noteFailureStreak health).setMode .tileRecovery
      .failure).streamMode = .videoRecovering := enters
    simp at left
  · exact absurd enters elsewhere

theorem updateVideoHealth_recovering
    (stays : (policy.updateVideoHealth stats).streamMode = .videoRecovering) :
    policy.streamMode = .videoRecovering ∧
        AttemptTick policy.recoveryAttempt
          (policy.updateVideoHealth stats).recoveryAttempt ∨
      policy.streamMode ≠ .videoRecovering ∧
        (policy.updateVideoHealth stats).recoveryAttempt = firstAttempt := by
  revert stays
  unfold updateVideoHealth
  split
  · intro stays
    simp at stays
  · next active _ =>
    intro _
    exact Or.inr ⟨by simp [active], setMode_recoveryAttempt
      (policy.takeFeedback.beginRecoveryAttempt 1) _ _⟩
  · next recovering =>
    intro stays
    exact Or.inl ⟨recovering, updateVideoRecovery_recovering stays⟩
  · next elsewhere _ _ =>
    intro enters
    have elsewhere' : policy.takeFeedback.streamMode ≠ .videoRecovering :=
      elsewhere
    exact Or.inr ⟨elsewhere, judgeVideoHealth_recovering elsewhere' enters⟩

theorem updateHealth_recovering
    (stays : (policy.updateHealth stats).streamMode = .videoRecovering) :
    policy.streamMode = .videoRecovering ∧
        AttemptTick policy.recoveryAttempt
          (policy.updateHealth stats).recoveryAttempt ∨
      policy.streamMode ≠ .videoRecovering ∧
        (policy.updateHealth stats).recoveryAttempt = firstAttempt := by
  unfold updateHealth at stays ⊢
  split_ifs at stays ⊢ with recovery uses
  · rw [updateTileRecovery_streamMode] at stays
    split_ifs at stays
    exact absurd (recovery.symm.trans stays) (by decide)
  · exact @updateVideoHealth_recovering (policy.noteWindow stats) stats stays
  · rw [show policy.streamMode = .videoRecovering from stays] at uses
    exact absurd rfl uses

theorem tick_recovering
    (stays : (policy.tick stats runtime).streamMode = .videoRecovering) :
    policy.streamMode = .videoRecovering ∧
        AttemptTick policy.recoveryAttempt
          (policy.tick stats runtime).recoveryAttempt ∨
      policy.streamMode ≠ .videoRecovering ∧
        (policy.tick stats runtime).recoveryAttempt = firstAttempt := by
  obtain ⟨mode, attempt⟩ := updateMode_recovering stays
  rw [tick, attempt]
  exact updateHealth_recovering mode

theorem tick_active (recovering : policy.streamMode = .videoRecovering)
    (active : (policy.tick stats runtime).streamMode = .videoActive) :
    policy.videoRecoveryKeyframeQueued = true ∧
      policy.videoRecoveryKeyframeId ≤ stats.clientVideoLastFrameIdPresented := by
  have health : policy.updateHealth stats =
      (policy.noteWindow stats).takeFeedback.updateVideoRecovery stats := by
    simp [updateHealth, recovering, StreamMode.usesVideoFrames,
      updateVideoHealth, noteWindow]
  have active' : (policy.updateHealth stats).streamMode = .videoActive := by
    rcases updateMode_keepsOwner (policy.updateHealth stats) stats runtime with
      same | notOwns
    · exact same.symm.trans active
    · rw [show ((policy.updateHealth stats).updateMode stats runtime).streamMode =
        .videoActive from active] at notOwns
      exact absurd notOwns (by decide)
  rw [health] at active'
  unfold updateVideoRecovery at active'
  cases decides : (policy.noteWindow stats).takeFeedback.videoRecoveryAction
      stats with
  | presented =>
      unfold videoRecoveryAction videoRecoveryDecide at decides
      split_ifs at decides with presented
      exact ⟨presented.1, presented.2.2⟩
  | retryKeyframe =>
      simp only [decides] at active'
      exact absurd (recovering.symm.trans active') (by decide)
  | fallbackTiles =>
      simp only [decides] at active'
      have left : ((policy.noteWindow stats).takeFeedback.setMode .tileRecovery
        .failure).streamMode = .videoActive := active'
      simp at left
  | wait =>
      simp only [decides] at active'
      exact absurd (recovering.symm.trans active') (by decide)

end StreamPolicy

/-! ## The keyframes of an attempt -/

def keyframesSince (before after : List VideoFrame) : List Nat :=
  ((after.take (after.length - before.length)).reverse.filter
    (·.keyframe)).map (·.frameId)

@[simp]
theorem keyframesSince_self (frames : List VideoFrame) :
    keyframesSince frames frames = [] := by
  simp [keyframesSince]

@[simp]
theorem keyframesSince_cons (frame : VideoFrame) (frames : List VideoFrame) :
    keyframesSince frames (frame :: frames) =
      if frame.keyframe then [frame.frameId] else [] := by
  have length : (frame :: frames).length - frames.length = 1 := by
    simp
  rw [keyframesSince, length]
  cases keyframe : frame.keyframe <;> simp [keyframe]

/-- The keyframes of the attempt so far; another attempt starts a new list. -/
def logKeyframes (control control' : Control) (log : List Nat) : List Nat :=
  if control.policy.recovering && control'.policy.recovering &&
      control'.policy.videoRecoveryAttempts ==
        control.policy.videoRecoveryAttempts then
    log ++ keyframesSince control.videoFrames control'.videoFrames
  else []

def keyframeStep (logged : ServerState × List Nat) (event : ServerEvent) :
    ServerState × List Nat :=
  (logged.1.step event,
    logKeyframes logged.1.control (logged.1.step event).control logged.2)

def keyframeRun (geometry : Geometry) (videoWorker : Bool)
    (events : List ServerEvent) : ServerState × List Nat :=
  runFrom keyframeStep (.initial geometry videoWorker, []) events

theorem runFrom_keyframeStep_fst (logged : ServerState × List Nat)
    (events : List ServerEvent) :
    (runFrom keyframeStep logged events).1 =
      runFrom ServerState.step logged.1 events := by
  induction events generalizing logged with
  | nil => rfl
  | cons event rest ih => exact ih (keyframeStep logged event)

theorem keyframeRun_fst (geometry : Geometry) (videoWorker : Bool)
    (events : List ServerEvent) :
    (keyframeRun geometry videoWorker events).1 =
      serverRun geometry videoWorker events :=
  runFrom_keyframeStep_fst _ events

/-! ## What an event does to an attempt -/

/-- The attempt waits for its keyframe, or the first of the log is latched. -/
def RecoveryAttempt.latch (attempt : RecoveryAttempt) : Option Nat :=
  if attempt.keyframeQueued then some attempt.keyframeId else none

structure RecoveryAttempt.Bounded (attempt : RecoveryAttempt) : Prop where
  positive : 0 < attempt.attempts
  allowed : attempt.attempts ≤ videoRecoveryMaxAttempts
  early : attempt.waitSeconds ≤ videoRecoveryTimeoutSeconds

def RecoveryAttempt.track (attempt : RecoveryAttempt) (frame : VideoFrame) :
    RecoveryAttempt :=
  if frame.keyframe && !attempt.keyframeQueued && frame.frameId != 0 then
    { attempt with
      waitSeconds := 0
      keyframeQueued := true
      keyframeId := frame.frameId }
  else attempt

theorem trackKeyframe_recoveryAttempt {policy : StreamPolicy}
    (recovering : policy.streamMode = .videoRecovering) (frame : VideoFrame) :
    (policy.trackKeyframe frame.frameId frame.keyframe).recoveryAttempt =
      policy.recoveryAttempt.track frame := by
  unfold StreamPolicy.trackKeyframe RecoveryAttempt.track
  by_cases latches : frame.keyframe ∧
      !policy.videoRecoveryKeyframeQueued ∧ frame.frameId ≠ 0
  · rw [if_pos ⟨recovering, latches⟩, if_pos]
    · rfl
    · simpa [StreamPolicy.recoveryAttempt, and_assoc] using latches
  · rw [if_neg fun all => latches all.2, if_neg]
    simpa [StreamPolicy.recoveryAttempt, and_assoc] using latches

inductive AttemptStep (control : Control) :
    ServerEvent → Control → Prop
  | enters {event : ServerEvent} {control' : Control}
      (elsewhere : control.policy.streamMode ≠ .videoRecovering)
      (first : control'.policy.recoveryAttempt = StreamPolicy.firstAttempt) :
      AttemptStep control event control'
  | ticks {stats : TickStats} {control' : Control}
      (recovering : control.policy.streamMode = .videoRecovering)
      (frames : control'.videoFrames = control.videoFrames)
      (tick : StreamPolicy.AttemptTick control.policy.recoveryAttempt
        control'.policy.recoveryAttempt) :
      AttemptStep control (.controllerTick stats) control'
  | queues {outcome : VideoEncodeOutcome} {control' : Control}
      (frame : VideoFrame)
      (recovering : control.policy.streamMode = .videoRecovering)
      (frames : control'.videoFrames = frame :: control.videoFrames)
      (tracks : control'.policy.recoveryAttempt =
        control.policy.recoveryAttempt.track frame) :
      AttemptStep control (.completeVideoJob outcome) control'
  | keeps {event : ServerEvent} {control' : Control}
      (uncounted : event.isTick = false)
      (recovering : control.policy.streamMode = .videoRecovering)
      (frames : control'.videoFrames = control.videoFrames)
      (same : control'.policy.recoveryAttempt =
        control.policy.recoveryAttempt) :
      AttemptStep control event control'

theorem tick_recoveryAttempt (net : NetState) (stats : TickStats) :
    (net.tick stats).streamPolicy.recoveryAttempt =
      (net.streamPolicy.tick stats net.videoRuntime).recoveryAttempt := by
  unfold NetState.tick NetState.noteOwnerChange
  split_ifs <;> rfl

theorem closePass_recoveryAttempt (policy : StreamPolicy)
    (framebufferGeneration : Nat) (queuesEmpty : Bool) :
    (policy.closePass framebufferGeneration queuesEmpty).recoveryAttempt =
      policy.recoveryAttempt := by
  have noted (policy : StreamPolicy) :
      (policy.noteBootstrapSent queuesEmpty).recoveryAttempt =
        policy.recoveryAttempt := by
    unfold StreamPolicy.noteBootstrapSent
    split_ifs <;> rfl
  unfold StreamPolicy.closePass
  split <;> rw [noted] <;> rfl

theorem Governs.attemptStep {s : ServerState} {event : ServerEvent}
    {control : Control} (governs : Governs s event control)
    (recovering : control.policy.streamMode = .videoRecovering) :
    AttemptStep s.control event control := by
  have resets (connected resize : Bool) : (s.net.streamPolicy.resetVideo
      connected resize).streamMode ≠ .videoRecovering := by
    rw [StreamPolicy.resetVideo_streamMode]
    split_ifs <;> decide
  cases governs with
  | kept plain => exact .keeps plain.unticked recovering rfl rfl
  | ticked stats =>
      have mode := (s.net.tick_streamMode stats).symm.trans recovering
      rcases StreamPolicy.tick_recovering mode with
        ⟨before, ticks⟩ | ⟨elsewhere, first⟩
      · rw [← tick_recoveryAttempt] at ticks
        exact .ticks before rfl ticks
      · rw [← tick_recoveryAttempt] at first
        exact .enters elsewhere first
  | refreshed input connected needed => exact .keeps rfl recovering rfl rfl
  | deferred input behind => exact .keeps rfl recovering rfl rfl
  | closed regionsIdle =>
      exact .keeps rfl ((StreamPolicy.closePass_streamMode _ _ _).symm.trans
        recovering) rfl (closePass_recoveryAttempt _ _ _)
  | reset refused plain => exact absurd recovering (resets _ _)
  | tracked outcome frame =>
      have before := (StreamPolicy.trackKeyframe_streamMode _ _ _).symm.trans
        recovering
      exact .queues frame before rfl (trackKeyframe_recoveryAttempt before frame)
  | committed outcome frame ready =>
      exact absurd ((StreamPolicy.setMode_streamMode _ _ _).symm.trans recovering)
        (by decide)
  | fedBack contentEpoch sequence flags => exact .keeps rfl recovering rfl rfl
  | identified token phase => exact .keeps rfl recovering rfl rfl
  | configured negotiation phase =>
      have same := StreamPolicy.beginSession_eq
        (ne_of_eq_of_ne recovering (by decide))
      exact .keeps rfl ((congrArg StreamPolicy.streamMode same).symm.trans
        recovering) rfl (congrArg StreamPolicy.recoveryAttempt same)
  | established fd phase => exact .keeps rfl recovering rfl rfl
  | rolledBack phase => cases recovering
  | disconnected phase => exact absurd recovering (resets _ _)
  | resized geometry idle differs => exact absurd recovering (resets _ _)

/-! ## The rank of an attempt -/

namespace RecoveryAttempt

theorem Bounded.first : StreamPolicy.firstAttempt.Bounded :=
  ⟨by decide, by decide, by decide⟩

theorem Bounded.tick {attempt attempt' : RecoveryAttempt}
    (bounded : attempt.Bounded)
    (ticks : StreamPolicy.AttemptTick attempt attempt') : attempt'.Bounded := by
  cases ticks with
  | waits early => exact ⟨bounded.positive, bounded.allowed, early⟩
  | retries late allowed => exact ⟨Nat.succ_pos _, allowed, Nat.zero_le _⟩

theorem Bounded.track {attempt : RecoveryAttempt} (bounded : attempt.Bounded)
    (frame : VideoFrame) : (attempt.track frame).Bounded := by
  unfold RecoveryAttempt.track
  split_ifs
  · exact ⟨bounded.positive, bounded.allowed, Nat.zero_le _⟩
  · exact bounded

/-- The ticks that are left, if each wait is as long as it can be. -/
def rank (attempt : RecoveryAttempt) : Nat :=
  (videoRecoveryMaxAttempts - attempt.attempts) *
      (2 * videoRecoveryTimeoutSeconds + 1) +
    (if attempt.keyframeQueued then 0 else videoRecoveryTimeoutSeconds) +
    (videoRecoveryTimeoutSeconds - attempt.waitSeconds) + 1

theorem rank_le {attempt : RecoveryAttempt} (bounded : attempt.Bounded) :
    attempt.rank ≤
      videoRecoveryMaxAttempts * (2 * videoRecoveryTimeoutSeconds + 1) := by
  have others : (videoRecoveryMaxAttempts - attempt.attempts) *
      (2 * videoRecoveryTimeoutSeconds + 1) ≤
        (videoRecoveryMaxAttempts - 1) * (2 * videoRecoveryTimeoutSeconds + 1) :=
    Nat.mul_le_mul_right _ (Nat.sub_le_sub_left bounded.positive _)
  simp only [rank, videoRecoveryMaxAttempts, videoRecoveryTimeoutSeconds] at *
  split_ifs <;> omega

theorem rank_tick {attempt attempt' : RecoveryAttempt}
    (ticks : StreamPolicy.AttemptTick attempt attempt') :
    attempt'.rank + 1 ≤ attempt.rank := by
  cases ticks with
  | waits early =>
      simp only [rank]
      omega
  | retries late allowed =>
      -- The attempt that begins may wait twice, and one attempt fewer is left.
      obtain ⟨left, remaining⟩ : ∃ left, videoRecoveryMaxAttempts -
          attempt.attempts = left + 1 :=
        ⟨videoRecoveryMaxAttempts - (attempt.attempts + 1), by omega⟩
      have fewer : videoRecoveryMaxAttempts - (attempt.attempts + 1) = left := by
        omega
      simp only [rank, remaining, fewer, Nat.succ_mul]
      split_ifs <;> simp only [Bool.false_eq_true] at * <;> omega

theorem rank_track (attempt : RecoveryAttempt) (frame : VideoFrame) :
    (attempt.track frame).rank ≤ attempt.rank := by
  unfold RecoveryAttempt.track
  split_ifs with latches
  · simp only [Bool.and_eq_true, Bool.not_eq_true'] at latches
    simp only [rank, latches.1.2, if_true, Bool.false_eq_true, if_false]
    omega
  · exact le_rfl

end RecoveryAttempt

/-! ## Invariants -/

/-- The attempt is in its ranges, and its latch is the log's first keyframe. -/
structure AttemptKept (control : Control) (log : List Nat) : Prop where
  bounded : control.policy.streamMode = .videoRecovering →
    control.policy.recoveryAttempt.Bounded
  latched : control.policy.streamMode = .videoRecovering →
    log.find? (· != 0) = control.policy.recoveryAttempt.latch

theorem logKeyframes_same {control control' : Control} (log : List Nat)
    (recovering : control.policy.streamMode = .videoRecovering)
    (recovering' : control'.policy.streamMode = .videoRecovering)
    (attempts : control'.policy.videoRecoveryAttempts =
      control.policy.videoRecoveryAttempts) :
    logKeyframes control control' log =
      log ++ keyframesSince control.videoFrames control'.videoFrames := by
  simp [logKeyframes, StreamPolicy.recovering, recovering, recovering', attempts]

theorem latch_track (attempt : RecoveryAttempt) (frame : VideoFrame) :
    (attempt.track frame).latch = attempt.latch.or
      ((if frame.keyframe then [frame.frameId] else []).find? (· != 0)) := by
  unfold RecoveryAttempt.track RecoveryAttempt.latch
  cases queued : attempt.keyframeQueued <;> cases keyframe : frame.keyframe <;>
    by_cases numbered : frame.frameId = 0 <;> simp [numbered, queued]

theorem AttemptStep.bounded {control control' : Control} {event : ServerEvent}
    (moved : AttemptStep control event control')
    (bounded : control.policy.streamMode = .videoRecovering →
      control.policy.recoveryAttempt.Bounded) :
    control'.policy.recoveryAttempt.Bounded := by
  cases moved with
  | enters elsewhere first => exact first ▸ .first
  | ticks recovering frames ticks => exact (bounded recovering).tick ticks
  | queues frame recovering frames tracks =>
      exact tracks ▸ (bounded recovering).track frame
  | keeps uncounted recovering frames same => exact same ▸ bounded recovering

theorem AttemptStep.latched {control control' : Control} {event : ServerEvent}
    (moved : AttemptStep control event control') {log : List Nat}
    (latched : control.policy.streamMode = .videoRecovering →
      log.find? (· != 0) = control.policy.recoveryAttempt.latch)
    (recovering' : control'.policy.streamMode = .videoRecovering) :
    (logKeyframes control control' log).find? (· != 0) =
      control'.policy.recoveryAttempt.latch := by
  cases moved with
  | enters elsewhere first =>
      have empty : logKeyframes control control' log = [] := by
        simp [logKeyframes, StreamPolicy.recovering, elsewhere]
      rw [first, empty]
      rfl
  | ticks recovering frames ticks =>
      generalize next : control'.policy.recoveryAttempt = attempt' at ticks ⊢
      have attempts := congrArg RecoveryAttempt.attempts next
      cases ticks with
      | waits early =>
          rw [logKeyframes_same log recovering recovering' attempts, frames,
            keyframesSince_self, List.append_nil]
          exact latched recovering
      | retries late allowed =>
          have other : control'.policy.videoRecoveryAttempts ≠
              control.policy.videoRecoveryAttempts :=
            ne_of_eq_of_ne attempts (Nat.succ_ne_self _)
          have empty : logKeyframes control control' log = [] := by
            simp [logKeyframes, other]
          rw [empty]
          rfl
  | queues frame recovering frames tracks =>
      have attempts : control'.policy.videoRecoveryAttempts =
          control.policy.videoRecoveryAttempts := by
        have tracked := congrArg RecoveryAttempt.attempts tracks
        unfold RecoveryAttempt.track at tracked
        split_ifs at tracked <;> exact tracked
      rw [logKeyframes_same log recovering recovering' attempts, frames,
        keyframesSince_cons, List.find?_append, latched recovering, tracks,
        latch_track]
  | keeps uncounted recovering frames same =>
      rw [same, logKeyframes_same log recovering recovering'
        (congrArg RecoveryAttempt.attempts same), frames, keyframesSince_self,
        List.append_nil]
      exact latched recovering

theorem AttemptStep.rank_le {control control' : Control} {event : ServerEvent}
    (moved : AttemptStep control event control')
    (recovering : control.policy.streamMode = .videoRecovering) :
    control'.policy.recoveryAttempt.rank + (if event.isTick then 1 else 0) ≤
      control.policy.recoveryAttempt.rank := by
  cases moved with
  | enters elsewhere first => exact absurd recovering elsewhere
  | ticks _ frames ticks => exact RecoveryAttempt.rank_tick ticks
  | queues frame _ frames tracks =>
      rw [tracks]
      simpa [ServerEvent.isTick] using RecoveryAttempt.rank_track _ frame
  | keeps uncounted _ frames same =>
      rw [same, uncounted, if_neg Bool.false_ne_true, Nat.add_zero]

def AttemptSound (logged : ServerState × List Nat) : Prop :=
  logged.1.OwnerSound ∧ AttemptKept logged.1.control logged.2

theorem AttemptSound.step {logged : ServerState × List Nat}
    (sound : AttemptSound logged) (event : ServerEvent) :
    AttemptSound (keyframeStep logged event) := by
  have governs := ServerState.step_governs sound.1 event
  refine ⟨ServerState.step_ownerSound sound.1 event, ?_, ?_⟩
  · intro recovering
    exact (governs.attemptStep recovering).bounded sound.2.bounded
  · intro recovering
    exact (governs.attemptStep recovering).latched sound.2.latched recovering

theorem keyframeRun_sound (geometry : Geometry) (videoWorker : Bool)
    (events : List ServerEvent) :
    AttemptSound (keyframeRun geometry videoWorker events) := by
  have preserved : ∀ logged event, AttemptSound logged →
      AttemptSound (keyframeStep logged event) := fun _ event sound =>
    sound.step event
  refine invariant_runFrom_of_step preserved
    ⟨ServerState.initial_ownerSound geometry videoWorker, ?_, ?_⟩ events
  · intro recovering
    cases recovering
  · intro recovering
    cases recovering

/-! ## Whole recoveries -/

/--
What the next event may do to a recovery whose attempt has queued the keyframes
of `log`: only a report of the first of them leads back to video, and within
the attempt the latched keyframe stays.
-/
structure RecoveryLaw (s : ServerState) (log : List Nat) (event : ServerEvent) :
    Prop where
  attempts : s.net.streamPolicy.videoRecoveryAttempts ≤ videoRecoveryMaxAttempts
  returns : (s.step event).net.streamPolicy.streamMode = .videoActive →
    ∃ stats first, event = .controllerTick stats ∧ log.head? = some first ∧
      first ≤ stats.clientVideoLastFrameIdPresented
  latch : s.net.streamPolicy.videoRecoveryKeyframeQueued = true →
    (s.step event).net.streamPolicy.streamMode = .videoRecovering →
    (s.step event).net.streamPolicy.videoRecoveryAttempts =
      s.net.streamPolicy.videoRecoveryAttempts →
    (s.step event).net.streamPolicy.videoRecoveryKeyframeQueued = true ∧
      (s.step event).net.streamPolicy.videoRecoveryKeyframeId =
        s.net.streamPolicy.videoRecoveryKeyframeId

theorem head_le_of_find {log : List Nat} {frameId : Nat}
    (found : log.find? (· != 0) = some frameId) :
    ∃ first, log.head? = some first ∧ first ≤ frameId := by
  cases log with
  | nil => cases found
  | cons first rest =>
      refine ⟨first, rfl, ?_⟩
      by_cases zero : first = 0
      · exact zero ▸ Nat.zero_le _
      · simp only [List.find?_cons, bne_iff_ne.mpr zero,
          Option.some.injEq] at found
        exact found.le

theorem tick_of_active {s : ServerState} (sound : s.OwnerSound)
    {event : ServerEvent}
    (recovering : s.net.streamPolicy.streamMode = .videoRecovering)
    (active : (s.step event).net.streamPolicy.streamMode = .videoActive) :
    ∃ stats, event = .controllerTick stats := by
  have governs := ServerState.step_governs sound event
  have moved : (s.step event).control.policy.streamMode = .videoActive := active
  generalize (s.step event).control = control at governs moved
  have unmoved {P : Prop} (same : s.net.streamPolicy.streamMode =
      .videoActive) : P := absurd (recovering.symm.trans same) (by decide)
  have resets {connected resize : Bool} {P : Prop} (returned :
      (s.net.streamPolicy.resetVideo connected resize).streamMode =
        .videoActive) : P := by
    rw [StreamPolicy.resetVideo_streamMode] at returned
    split_ifs at returned
  cases governs with
  | ticked stats => exact ⟨stats, rfl⟩
  | closed regionsIdle =>
      exact unmoved ((StreamPolicy.closePass_streamMode _ _ _).symm.trans moved)
  | reset _ _ | disconnected _ | resized _ _ _ => exact resets moved
  | tracked outcome frame =>
      exact unmoved ((StreamPolicy.trackKeyframe_streamMode _ _ _).symm.trans
        moved)
  | committed outcome frame ready =>
      exact absurd (recovering.symm.trans ready) (by decide)
  | configured negotiation phase =>
      have offline := (sound.closed (by simp [NetState.clientConnected, phase])).1
      exact absurd (recovering.symm.trans offline) (by decide)
  | rolledBack phase => cases moved
  | _ => exact unmoved moved

theorem AttemptSound.recoveryLaw {s : ServerState} {log : List Nat}
    (sound : AttemptSound (s, log))
    (recovering : s.net.streamPolicy.streamMode = .videoRecovering)
    (event : ServerEvent) : RecoveryLaw s log event := by
  have latched : log.find? (· != 0) = s.net.streamPolicy.recoveryAttempt.latch :=
    sound.2.latched recovering
  refine ⟨(sound.2.bounded recovering).allowed, ?_, ?_⟩
  · intro active
    obtain ⟨stats, rfl⟩ := tick_of_active sound.1 recovering active
    have presents := StreamPolicy.tick_active recovering
      ((s.net.tick_streamMode stats).symm.trans active)
    have found : log.find? (· != 0) =
        some s.net.streamPolicy.videoRecoveryKeyframeId :=
      latched.trans (if_pos presents.1)
    obtain ⟨first, head, le⟩ := head_le_of_find found
    exact ⟨stats, first, rfl, head, le.trans presents.2⟩
  · intro queued stays attempts
    -- The latch is the log's first keyframe, and the log only grows at its end.
    have later := (sound.step event).2.latched stays
    have grown : logKeyframes s.control (s.step event).control log =
        log ++ keyframesSince s.trace.videoFrames
          (s.step event).trace.videoFrames :=
      logKeyframes_same log recovering stays attempts
    have found : log.find? (· != 0) =
        some s.net.streamPolicy.videoRecoveryKeyframeId :=
      latched.trans (if_pos queued)
    change (logKeyframes s.control (s.step event).control log).find? _ =
      (s.step event).net.streamPolicy.recoveryAttempt.latch at later
    rw [grown, List.find?_append, found, Option.some_or] at later
    unfold RecoveryAttempt.latch at later
    split_ifs at later with queued'
    exact ⟨queued', (Option.some.inj later).symm⟩

def InRecovery (s : ServerState) : Prop :=
  s.OwnerSound ∧ s.net.streamPolicy.recoveryAttempt.Bounded ∧
    s.net.streamPolicy.streamMode = .videoRecovering

theorem inRecovery_along {s : ServerState} (inside : InRecovery s)
    {events : List ServerEvent}
    (stays : Along ServerState.step (fun s event =>
      (s.step event).net.streamPolicy.streamMode = .videoRecovering) s events) :
    Along ServerState.step (fun s event => InRecovery (s.step event)) s
      events := by
  have preserved : ∀ (s : ServerState) (event : ServerEvent), InRecovery s →
      (s.step event).net.streamPolicy.streamMode = .videoRecovering →
      InRecovery (s.step event) := by
    rintro s event ⟨sound, bounded, recovering⟩ stays
    exact ⟨ServerState.step_ownerSound sound event,
      ((ServerState.step_governs sound event).attemptStep stays).bounded
        fun _ => bounded, stays⟩
  exact along_of_invariant preserved preserved inside stays

/--
In every recovery of every run: the attempts stay within their number, only a
report of a keyframe of the current attempt leads back to video, the latched
keyframe is not replaced, and before the last tick of the last attempt the mode
has been left.
-/
theorem recovery_of_run {geometry : Geometry} {videoWorker : Bool}
    {events : List ServerEvent}
    (recovering : (serverRun geometry videoWorker
      events).net.streamPolicy.streamMode = .videoRecovering) :
    (∀ event, RecoveryLaw (serverRun geometry videoWorker events)
        (keyframeRun geometry videoWorker events).2 event) ∧
      ∀ during, Along ServerState.step (fun s event =>
          (s.step event).net.streamPolicy.streamMode = .videoRecovering)
          (serverRun geometry videoWorker events) during →
        during.countP ServerEvent.isTick <
          videoRecoveryMaxAttempts * (2 * videoRecoveryTimeoutSeconds + 1) := by
  have sound := keyframeRun_sound geometry videoWorker events
  rw [← keyframeRun_fst] at recovering ⊢
  generalize keyframeRun geometry videoWorker events = logged at sound recovering ⊢
  obtain ⟨s, log⟩ := logged
  have inside : InRecovery s :=
    ⟨sound.1, sound.2.bounded recovering, recovering⟩
  refine ⟨sound.recoveryLaw recovering, fun during stays => ?_⟩
  have falls : ∀ (s : ServerState) (event : ServerEvent), InRecovery s →
      InRecovery (s.step event) →
      (s.step event).net.streamPolicy.recoveryAttempt.rank +
          (if event.isTick then 1 else 0) ≤
        s.net.streamPolicy.recoveryAttempt.rank := fun s event before after =>
    ((ServerState.step_governs before.1 event).attemptStep
      after.2.2).rank_le before.2.2
  have counted := countP_add_rank_le ServerEvent.isTick
    (fun s : ServerState => s.net.streamPolicy.recoveryAttempt.rank) falls inside
    (inRecovery_along inside stays)
  have least := RecoveryAttempt.rank_le inside.2.1
  have positive : 0 < (runFrom ServerState.step s
      during).net.streamPolicy.recoveryAttempt.rank := Nat.succ_pos _
  omega

/-- A client is overloaded before its first video, and the recovery has queued
its keyframe. -/
def recoveryKeyframe : List ServerEvent :=
  overloadedBeforeVideo ++
    [.applyPendingCompositorRequests, Script.frame .all 2 false] ++
    Script.analyze ++ [Script.beginPass] ++ Script.enterVideo

theorem recoveryKeyframe_recovery :
    (serverRun Script.display true
        recoveryKeyframe).net.streamPolicy.streamMode = .videoRecovering ∧
      (keyframeRun Script.display true recoveryKeyframe).2 = [1] ∧
      ∀ event, RecoveryLaw (serverRun Script.display true recoveryKeyframe)
        (keyframeRun Script.display true recoveryKeyframe).2 event :=
  ⟨by decide +kernel, by decide +kernel,
    (recovery_of_run (by decide +kernel)).1⟩

end WayDisplay.Server
