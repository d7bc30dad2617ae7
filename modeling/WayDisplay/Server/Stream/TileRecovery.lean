import WayDisplay.Server.Stream.VideoRecovery

/-!
Recovery of the tiles.

After video has given the display back, one full refresh stands as a barrier: it
is started by a pass, marked sent when nothing of it is queued any more, and
ends with the client's report or with the timeout.  The barrier's fields are
cleared by every change of mode, and a resize starts a planned recovery over.
-/

namespace WayDisplay.Server

open Common Foundation

/-! ## The barrier -/

namespace StreamPolicy

def KeepsBarrier (policy policy' : StreamPolicy) : Prop :=
  policy'.streamMode = policy.streamMode ∧ policy'.barrier = policy.barrier ∨
    policy'.barrier = .open

theorem KeepsBarrier.same {policy policy' : StreamPolicy}
    (mode : policy'.streamMode = policy.streamMode)
    (barrier : policy'.barrier = policy.barrier) :
    KeepsBarrier policy policy' :=
  Or.inl ⟨mode, barrier⟩

theorem KeepsBarrier.trans {policy policy' policy'' : StreamPolicy}
    (first : KeepsBarrier policy policy')
    (second : KeepsBarrier policy' policy'') : KeepsBarrier policy policy'' := by
  rcases second with ⟨mode, barrier⟩ | cleared
  · rcases first with ⟨mode', barrier'⟩ | cleared
    · exact Or.inl ⟨mode.trans mode', barrier.trans barrier'⟩
    · exact Or.inr (barrier.trans cleared)
  · exact Or.inr cleared

theorem setMode_keepsBarrier (policy : StreamPolicy) (mode : StreamMode)
    (recoveryClass : VideoRecoveryClass) :
    KeepsBarrier policy (policy.setMode mode recoveryClass) := by
  unfold setMode
  split_ifs
  · exact .same rfl rfl
  · exact Or.inr rfl

variable {policy : StreamPolicy}

theorem setMode_barrier_of_ne {mode : StreamMode}
    (recoveryClass : VideoRecoveryClass) (changes : policy.streamMode ≠ mode) :
    (policy.setMode mode recoveryClass).barrier = .open := by
  unfold setMode
  rw [if_neg changes]
  rfl

/-! ## Ticks -/

theorem finishTileRecovery_barrier
    (recovering : policy.streamMode = .tileRecovery)
    (action : TileRecoveryAction) :
    (policy.finishTileRecovery action).barrier = .open := by
  refine setMode_barrier_of_ne _ ?_
  have mode : ((policy.startRetryCooldown action).noteRecoveryTimeout
      action).requestDeferred.streamMode = .tileRecovery := by
    unfold noteRecoveryTimeout
    split_ifs <;> exact recovering
  rw [mode]
  decide

theorem Selects.keepsBarrier {targets : StreamMode → Prop}
    {policy policy' : StreamPolicy} (selects : Selects targets policy policy') :
    KeepsBarrier policy policy' := by
  cases selects with
  | keeps same => exact .same same.streamMode same.barrier
  | moves counted mode recoveryClass counts _ settles =>
      have counted' : KeepsBarrier policy counted :=
        .same counts.streamMode counts.barrier
      exact counted'.trans ((setMode_keepsBarrier counted mode
        recoveryClass).trans (.same settles.streamMode settles.barrier))

theorem updateMode_keepsBarrier (policy : StreamPolicy) (stats : TickStats)
    (runtime : VideoRuntime) :
    KeepsBarrier policy (policy.updateMode stats runtime) := by
  rcases updateMode_cases policy stats runtime with
    ⟨-, -, -, resumes⟩ | selects
  · rw [resumes]
    exact setMode_keepsBarrier
      policy.countCooldown.forgetPlannedResume.clearModeCounters.dropRefresh
      .videoReady .none
  · exact selects.keepsBarrier

theorem tick_of_tileRecovery {stats : TickStats} {runtime : VideoRuntime}
    (recovering : policy.streamMode = .tileRecovery)
    (stays : (policy.tick stats runtime).streamMode = .tileRecovery) :
    policy.tileRecoveryAction stats = .wait ∧
      policy.tick stats runtime = ((policy.noteWindow
        stats).countRecoveryWait.clearFailureSeconds).clearCandidate := by
  have health := updateHealth_of_tileRecovery recovering stats
  have decides : (policy.noteWindow stats).tileRecoveryAction stats =
      policy.tileRecoveryAction stats := rfl
  rw [tick, health] at stays ⊢
  unfold updateTileRecovery at stays ⊢
  rw [decides] at stays ⊢
  split_ifs at stays ⊢ with acts
  · have tiles : ((policy.noteWindow stats).finishTileRecovery
        (policy.tileRecoveryAction stats)).clearFailureSeconds.streamMode =
      .tiles := finishTileRecovery_streamMode _ _
    exact absurd stays (updateMode_of_tiles tiles stats runtime)
  · refine ⟨not_not.mp acts, ?_⟩
    have mode : (policy.noteWindow
        stats).countRecoveryWait.clearFailureSeconds.streamMode =
      .tileRecovery := recovering
    rw [updateMode, if_pos mode]

theorem tick_enters_tileRecovery {stats : TickStats} {runtime : VideoRuntime}
    (elsewhere : policy.streamMode ≠ .tileRecovery)
    (enters : (policy.tick stats runtime).streamMode = .tileRecovery) :
    (policy.tick stats runtime).barrier = .open := by
  have keeps := (updateHealth_selects elsewhere stats).keepsBarrier.trans
    (updateMode_keepsBarrier (policy.updateHealth stats) stats runtime)
  rcases keeps with ⟨mode, -⟩ | cleared
  · exact absurd (mode.symm.trans enters) elsewhere
  · exact cleared

/-! ## Resets -/

theorem resetVideo_barrier {connected resize : Bool}
    (recovers : (policy.resetVideo connected resize).streamMode = .tileRecovery) :
    policy.streamMode ≠ .tileRecovery ∧
        (policy.resetVideo connected resize).barrier = .open ∨
      policy.streamMode = .tileRecovery ∧
        (resize = true ∧ (policy.resetVideo connected resize).barrier = .open ∨
          (policy.resetVideo connected resize).barrier = policy.barrier ∧
          (policy.resetVideo connected resize).tileRecoveryContentEpoch =
            policy.tileRecoveryContentEpoch ∧
          (policy.resetVideo connected resize).tileRefreshPending =
            policy.tileRefreshPending) := by
  rw [resetVideo_streamMode] at recovers
  split_ifs at recovers with active
  obtain ⟨notTiles, rfl⟩ := active
  unfold resetVideo
  rw [if_neg notTiles, if_pos rfl]
  have planned : (policy.clearModeCounters.planResume true
      resize).streamMode = policy.streamMode := planResume_streamMode _ _ _
  have mode : ((policy.clearModeCounters.planResume true
      resize).restartPlannedRecovery resize).streamMode = policy.streamMode :=
    (restartPlannedRecovery_streamMode _ _).trans planned
  by_cases recovering : policy.streamMode = .tileRecovery
  · refine Or.inr ⟨recovering, ?_⟩
    unfold setMode
    rw [if_pos (mode.trans recovering)]
    unfold restartPlannedRecovery
    split_ifs with restarts
    · simp only [Bool.and_eq_true] at restarts
      exact Or.inl ⟨restarts.1.1, rfl⟩
    · right
      unfold planResume
      split_ifs <;> exact ⟨rfl, rfl, rfl⟩
  · refine Or.inl ⟨recovering, setMode_barrier_of_ne _ ?_⟩
    rw [mode]
    exact recovering

/-! ## The end of a pass -/

theorem noteBootstrapSent_barrier (policy : StreamPolicy) (queuesEmpty : Bool) :
    (policy.noteBootstrapSent queuesEmpty).barrier = policy.barrier ∧
      (policy.noteBootstrapSent queuesEmpty).tileRecoveryContentEpoch =
        policy.tileRecoveryContentEpoch ∧
      (policy.noteBootstrapSent queuesEmpty).tileRefreshPending =
        policy.tileRefreshPending := by
  unfold noteBootstrapSent
  split_ifs <;> exact ⟨rfl, rfl, rfl⟩

inductive BarrierClosing (policy : StreamPolicy)
    (framebufferGeneration : Nat) (queuesEmpty : Bool)
    (policy' : StreamPolicy) : Prop
  | waits (same : policy'.barrier = policy.barrier)
      (epoch : policy'.tileRecoveryContentEpoch =
        policy.tileRecoveryContentEpoch)
      (pending : policy'.tileRefreshPending = policy.tileRefreshPending)
  | discards (unsent : policy.tileRecoveryRefreshSent = false)
      (cleared : policy'.barrier = .open)
  | sends (started : policy.tileRecoveryRefreshStarted = true)
      (unsent : policy.tileRecoveryRefreshSent = false)
      (current : policy.tileRecoveryFramebufferGeneration =
        framebufferGeneration)
      (empty : queuesEmpty = true)
      (sent : policy'.barrier =
        { policy.barrier with sent := true, waitSeconds := 0 })
      (epoch : policy'.tileRecoveryContentEpoch =
        policy.tileRecoveryContentEpoch)
      (pending : policy'.tileRefreshPending = policy.tileRefreshPending)

theorem closePass_barrier (recovering : policy.streamMode = .tileRecovery)
    (framebufferGeneration : Nat) (queuesEmpty : Bool) :
    BarrierClosing policy framebufferGeneration queuesEmpty
      (policy.closePass framebufferGeneration queuesEmpty) := by
  have decides : policy.recoveryGeneration framebufferGeneration queuesEmpty =
      tileRecoveryGenerationDecide policy.tileRecoveryRefreshStarted
        policy.tileRecoveryRefreshSent policy.tileRecoveryFramebufferGeneration
        framebufferGeneration queuesEmpty := by
    rw [recoveryGeneration, if_pos recovering]
  unfold closePass
  rw [decides]
  unfold tileRecoveryGenerationDecide
  split_ifs with inactive stale empty
  · obtain ⟨barrier, epoch, pending⟩ :=
      policy.noteBootstrapSent_barrier queuesEmpty
    exact .waits barrier epoch pending
  · simp only [not_or, Bool.not_eq_true', Bool.not_eq_false,
      Bool.not_eq_true] at inactive
    exact .discards inactive.2.1
      (policy.restartRecovery.noteBootstrapSent_barrier queuesEmpty).1
  · simp only [not_or, Bool.not_eq_true', Bool.not_eq_false,
      Bool.not_eq_true] at inactive
    obtain ⟨barrier, epoch, pending⟩ :=
      policy.noteRecoverySent.noteBootstrapSent_barrier queuesEmpty
    exact .sends inactive.1 inactive.2.1 (not_not.mp stale) empty barrier epoch
      pending
  · obtain ⟨barrier, epoch, pending⟩ :=
      policy.noteBootstrapSent_barrier queuesEmpty
    exact .waits barrier epoch pending

end StreamPolicy

/-! ## What an event does to the barrier -/

structure SameBarrier (policy policy' : StreamPolicy) : Prop where
  barrier : policy'.barrier = policy.barrier
  epoch : policy'.tileRecoveryContentEpoch = policy.tileRecoveryContentEpoch
  pending : policy'.tileRefreshPending = policy.tileRefreshPending

inductive BarrierStep (s : ServerState) : ServerEvent → StreamPolicy → Prop
  | enters {event : ServerEvent} {policy' : StreamPolicy}
      (elsewhere : s.net.streamPolicy.streamMode ≠ .tileRecovery)
      (cleared : policy'.barrier = .open) : BarrierStep s event policy'
  | ticks {stats : TickStats} {policy' : StreamPolicy}
      (recovering : s.net.streamPolicy.streamMode = .tileRecovery)
      (waits : s.net.streamPolicy.tileRecoveryAction stats = .wait)
      (counted : SameBarrier s.net.streamPolicy.countRecoveryWait policy') :
      BarrierStep s (.controllerTick stats) policy'
  | starts {input : PassInput}
      (recovering : s.net.streamPolicy.streamMode = .tileRecovery)
      (connected : s.net.clientConnected = true)
      (needed : s.net.refreshNeeded = true) :
      BarrierStep s (.beginPass input)
        (s.net.streamPolicy.startRefresh s.net.contentEpoch
          s.framebufferGeneration)
  | closes {regionsIdle : Bool} {policy' : StreamPolicy}
      (recovering : s.net.streamPolicy.streamMode = .tileRecovery)
      (closing : s.net.streamPolicy.BarrierClosing s.framebufferGeneration
        (s.queuesEmpty regionsIdle) policy') :
      BarrierStep s (.endPass regionsIdle) policy'
  | restarts {event : ServerEvent} {policy' : StreamPolicy}
      (resizes : s.resizes event = true) (cleared : policy'.barrier = .open) :
      BarrierStep s event policy'
  | keeps {event : ServerEvent} {policy' : StreamPolicy}
      (unticked : event.isTick = false)
      (recovering : s.net.streamPolicy.streamMode = .tileRecovery)
      (same : SameBarrier s.net.streamPolicy policy') :
      BarrierStep s event policy'

theorem tick_barrierStep {s : ServerState} {stats : TickStats}
    (recovers : (s.net.tick stats).streamPolicy.streamMode = .tileRecovery) :
    BarrierStep s (.controllerTick stats) (s.net.tick stats).streamPolicy := by
  have mode := (s.net.tick_streamMode stats).symm.trans recovers
  by_cases recovering : s.net.streamPolicy.streamMode = .tileRecovery
  · obtain ⟨waits, ticks⟩ := StreamPolicy.tick_of_tileRecovery recovering mode
    -- The owner is the same before and after, so no epoch is noted.
    have owner : s.net.videoOwnsDisplay = (s.net.withPolicy
        (s.net.streamPolicy.tick stats s.net.videoRuntime)).videoOwnsDisplay := by
      change s.net.streamPolicy.streamMode.videoOwnsDisplay =
        (s.net.streamPolicy.tick stats s.net.videoRuntime).streamMode.videoOwnsDisplay
      rw [recovering, mode]
    refine .ticks recovering waits ?_
    rw [NetState.tick, NetState.noteOwnerChange, if_pos owner]
    change SameBarrier _ (s.net.streamPolicy.tick stats s.net.videoRuntime)
    rw [ticks]
    exact ⟨rfl, rfl, rfl⟩
  · refine .enters recovering ?_
    have noted : (s.net.tick stats).streamPolicy.barrier =
        (s.net.streamPolicy.tick stats s.net.videoRuntime).barrier := by
      unfold NetState.tick NetState.noteOwnerChange
      split_ifs <;> rfl
    exact noted.trans (StreamPolicy.tick_enters_tileRecovery recovering mode)

theorem resetVideo_barrierStep {s : ServerState} {event : ServerEvent}
    {connected resize : Bool} (unticked : event.isTick = false)
    (resizing : resize = true → s.resizes event = true)
    (recovers : (s.net.streamPolicy.resetVideo connected resize).streamMode =
      .tileRecovery) :
    BarrierStep s event (s.net.streamPolicy.resetVideo connected resize) := by
  rcases StreamPolicy.resetVideo_barrier recovers with
    ⟨elsewhere, cleared⟩ | ⟨recovering, ⟨resized, cleared⟩ | same⟩
  · exact .enters elsewhere cleared
  · exact .restarts (resizing resized) cleared
  · exact .keeps unticked recovering ⟨same.1, same.2.1, same.2.2⟩

theorem Governs.barrierStep {s : ServerState} {event : ServerEvent}
    {control : Control} (governs : Governs s event control)
    (recovers : control.policy.streamMode = .tileRecovery) :
    BarrierStep s event control.policy := by
  cases governs with
  | kept plain => exact .keeps plain.unticked recovers ⟨rfl, rfl, rfl⟩
  | ticked stats => exact tick_barrierStep recovers
  | refreshed input connected needed => exact .starts recovers connected needed
  | deferred input behind => exact .keeps rfl recovers ⟨rfl, rfl, rfl⟩
  | closed regionsIdle =>
      have recovering := (StreamPolicy.closePass_streamMode _ _ _).symm.trans
        recovers
      exact .closes recovering (StreamPolicy.closePass_barrier recovering _ _)
  | reset resets plain =>
      exact resetVideo_barrierStep plain.unticked (fun resized => by cases resized)
        recovers
  | tracked outcome frame =>
      have recovering := (StreamPolicy.trackKeyframe_streamMode _ _ _).symm.trans
        recovers
      refine .keeps rfl recovering ?_
      dsimp only
      unfold StreamPolicy.trackKeyframe
      split_ifs <;> exact ⟨rfl, rfl, rfl⟩
  | committed outcome frame ready =>
      exact absurd ((StreamPolicy.setMode_streamMode _ _ _).symm.trans recovers)
        (by decide)
  | fedBack contentEpoch sequence flags =>
      exact .keeps rfl recovers ⟨rfl, rfl, rfl⟩
  | identified token phase => exact .keeps rfl recovers ⟨rfl, rfl, rfl⟩
  | configured negotiation phase =>
      have same := StreamPolicy.beginSession_eq
        (ne_of_eq_of_ne recovers (by decide))
      dsimp only at recovers ⊢
      rw [same] at recovers ⊢
      exact .keeps rfl recovers ⟨rfl, rfl, rfl⟩
  | established fd phase => exact .keeps rfl recovers ⟨rfl, rfl, rfl⟩
  | rolledBack phase => cases recovers
  | disconnected phase =>
      exact resetVideo_barrierStep rfl (fun resized => by cases resized) recovers
  | resized geometry idle differs =>
      exact resetVideo_barrierStep rfl
        (fun _ => by simp [ServerState.resizes, idle, differs]) recovers

/-! ## The barrier's invariant -/

structure BarrierSound (policy : StreamPolicy) : Prop where
  sent : policy.tileRecoveryRefreshSent = true →
    policy.tileRecoveryRefreshStarted = true
  epoch : policy.tileRecoveryRefreshStarted = true →
    0 < policy.tileRecoveryContentEpoch
  generation : policy.tileRecoveryRefreshStarted = true →
    0 < policy.tileRecoveryFramebufferGeneration
  settled : policy.tileRecoveryRefreshStarted = true →
    policy.tileRefreshPending = false
  early : policy.tileRecoveryWaitSeconds ≤ tileRecoveryTimeoutSeconds

variable {policy : StreamPolicy}

theorem BarrierSound.of_open (cleared : policy.barrier = .open) :
    BarrierSound policy := by
  have started : policy.tileRecoveryRefreshStarted = false :=
    congrArg Barrier.started cleared
  have sent : policy.tileRecoveryRefreshSent = false :=
    congrArg Barrier.sent cleared
  have wait : policy.tileRecoveryWaitSeconds = 0 :=
    congrArg Barrier.waitSeconds cleared
  exact ⟨by simp [sent], by simp [started], by simp [started],
    by simp [started], by simp [wait]⟩

theorem BarrierSound.same {policy policy' : StreamPolicy}
    (sound : BarrierSound policy) (same : SameBarrier policy policy') :
    BarrierSound policy' := by
  have started : policy'.tileRecoveryRefreshStarted =
      policy.tileRecoveryRefreshStarted := congrArg Barrier.started same.barrier
  have sent : policy'.tileRecoveryRefreshSent =
      policy.tileRecoveryRefreshSent := congrArg Barrier.sent same.barrier
  have wait : policy'.tileRecoveryWaitSeconds =
      policy.tileRecoveryWaitSeconds := congrArg Barrier.waitSeconds same.barrier
  have generation : policy'.tileRecoveryFramebufferGeneration =
      policy.tileRecoveryFramebufferGeneration :=
    congrArg Barrier.framebufferGeneration same.barrier
  refine ⟨?_, ?_, ?_, ?_, ?_⟩
  · rw [started, sent]
    exact sound.sent
  · rw [started, same.epoch]
    exact sound.epoch
  · rw [started, generation]
    exact sound.generation
  · rw [started, same.pending]
    exact sound.settled
  · rw [wait]
    exact sound.early

theorem wait_lt_of_waits (sound : BarrierSound policy) {stats : TickStats}
    (waits : policy.tileRecoveryAction stats = .wait)
    (sent : policy.tileRecoveryRefreshSent = true) :
    policy.tileRecoveryWaitSeconds < tileRecoveryTimeoutSeconds := by
  have numbered := sound.epoch (sound.sent sent)
  unfold StreamPolicy.tileRecoveryAction tileRecoveryDecide at waits
  split_ifs at waits with idle presented late
  · rcases idle with unsent | zero
    · simp [sent] at unsent
    · omega
  · by_contra reached
    exact late ⟨by decide, not_lt.mp reached⟩

theorem countRecoveryWait_sent (sent : policy.tileRecoveryRefreshSent = true)
    (early : policy.tileRecoveryWaitSeconds < tileRecoveryTimeoutSeconds) :
    policy.countRecoveryWait.tileRecoveryWaitSeconds =
      policy.tileRecoveryWaitSeconds + 1 := by
  have room : policy.tileRecoveryWaitSeconds < uint32Limit :=
    lt_trans early (by decide)
  simp [StreamPolicy.countRecoveryWait, sent, saturatingIncrement, room]

theorem countRecoveryWait_sound (sound : BarrierSound policy)
    {stats : TickStats} (waits : policy.tileRecoveryAction stats = .wait) :
    BarrierSound policy.countRecoveryWait := by
  refine ⟨sound.sent, sound.epoch, sound.generation, sound.settled, ?_⟩
  cases sent : policy.tileRecoveryRefreshSent with
  | true =>
      have early := wait_lt_of_waits sound waits sent
      rw [countRecoveryWait_sent sent early]
      exact early
  | false =>
      have same : policy.countRecoveryWait.tileRecoveryWaitSeconds =
          policy.tileRecoveryWaitSeconds := by
        simp [StreamPolicy.countRecoveryWait, sent]
      exact same ▸ sound.early

theorem BarrierStep.sound {s : ServerState} {event : ServerEvent}
    {policy' : StreamPolicy} (moved : BarrierStep s event policy')
    (numbered : s.control.Numbered)
    (sound : s.net.streamPolicy.streamMode = .tileRecovery →
      BarrierSound s.net.streamPolicy) : BarrierSound policy' := by
  cases moved with
  | enters elsewhere cleared => exact .of_open cleared
  | ticks recovering waits counted =>
      exact (countRecoveryWait_sound (sound recovering) waits).same counted
  | starts recovering connected needed =>
      have epoch : 0 < s.net.contentEpoch := numbered.epoch (by
        intro closed
        replace closed : s.net.sessionPhase = .closed := closed
        simp [NetState.clientConnected, closed] at connected)
      have generation : 0 < s.framebufferGeneration := numbered.generation
      refine ⟨fun sent => absurd sent Bool.false_ne_true, fun _ => ?_,
        fun _ => ?_, fun _ => rfl, Nat.zero_le _⟩
      · simpa [StreamPolicy.startRefresh, recovering] using epoch
      · simpa [StreamPolicy.startRefresh, recovering] using generation
  | closes recovering closing =>
      cases closing with
      | waits same epoch pending =>
          exact (sound recovering).same ⟨same, epoch, pending⟩
      | discards unsent cleared => exact .of_open cleared
      | sends started unsent current empty sent epoch pending =>
          have before := sound recovering
          have marked : BarrierSound s.net.streamPolicy.noteRecoverySent :=
            ⟨fun _ => started, before.epoch, before.generation, before.settled,
              Nat.zero_le _⟩
          exact marked.same ⟨sent, epoch, pending⟩
  | restarts resizes cleared => exact .of_open cleared
  | keeps unticked recovering same => exact (sound recovering).same same

/-! ## Outside the recovery no refresh is marked -/

/-- The mark stands in the recovery only. -/
def MarkedInRecovery (policy : StreamPolicy) : Prop :=
  policy.tileRecoveryRefreshSent = true → policy.streamMode = .tileRecovery

theorem MarkedInRecovery.of_open (cleared : policy.barrier = .open) :
    MarkedInRecovery policy := by
  intro sent
  have unsent : policy.tileRecoveryRefreshSent = false :=
    congrArg Barrier.sent cleared
  exact absurd (sent.symm.trans unsent) (by decide)

theorem MarkedInRecovery.keeps {policy policy' : StreamPolicy}
    (marked : MarkedInRecovery policy)
    (keeps : StreamPolicy.KeepsBarrier policy policy') :
    MarkedInRecovery policy' := by
  rcases keeps with ⟨mode, barrier⟩ | cleared
  · intro sent
    have sent' : policy'.tileRecoveryRefreshSent =
        policy.tileRecoveryRefreshSent := congrArg Barrier.sent barrier
    exact mode.trans (marked (sent'.symm.trans sent))
  · exact .of_open cleared

theorem tick_markedInRecovery (marked : MarkedInRecovery policy)
    (stats : TickStats) (runtime : VideoRuntime) :
    MarkedInRecovery (policy.tick stats runtime) := by
  have selects := StreamPolicy.updateMode_keepsBarrier
    (policy.updateHealth stats) stats runtime
  refine MarkedInRecovery.keeps ?_ selects
  by_cases recovering : policy.streamMode = .tileRecovery
  · rw [StreamPolicy.updateHealth_of_tileRecovery recovering]
    unfold StreamPolicy.updateTileRecovery
    split_ifs
    · have noted : (policy.noteWindow stats).streamMode = .tileRecovery :=
        recovering
      exact .of_open (StreamPolicy.finishTileRecovery_barrier noted _ :
        ((policy.noteWindow stats).finishTileRecovery _).barrier = .open)
    · exact fun _ => recovering
  · exact marked.keeps
      (StreamPolicy.updateHealth_selects recovering stats).keepsBarrier

theorem resetVideo_keepsBarrier (policy : StreamPolicy)
    (connected resize : Bool) :
    StreamPolicy.KeepsBarrier policy (policy.resetVideo connected resize) := by
  have planned : StreamPolicy.KeepsBarrier policy
      (policy.clearModeCounters.planResume connected resize) := by
    unfold StreamPolicy.planResume
    split_ifs <;> exact .same rfl rfl
  unfold StreamPolicy.resetVideo
  split_ifs
  · exact planned
  all_goals
    refine planned.trans (StreamPolicy.KeepsBarrier.trans ?_
      (StreamPolicy.setMode_keepsBarrier _ _ _))
    unfold StreamPolicy.restartPlannedRecovery
    split_ifs
    · exact Or.inr rfl
    · exact .same rfl rfl

theorem Governs.markedInRecovery {s : ServerState} {event : ServerEvent}
    {control : Control} (governs : Governs s event control)
    (marked : MarkedInRecovery s.net.streamPolicy) :
    MarkedInRecovery control.policy := by
  cases governs with
  | ticked stats =>
      have ticks := tick_markedInRecovery marked stats s.net.videoRuntime
      change MarkedInRecovery (s.net.tick stats).streamPolicy
      unfold NetState.tick NetState.noteOwnerChange
      split_ifs <;> exact ticks
  | refreshed input connected needed =>
      exact fun sent => absurd sent Bool.false_ne_true
  | closed regionsIdle =>
      by_cases recovering : s.net.streamPolicy.streamMode = .tileRecovery
      · exact fun _ => (StreamPolicy.closePass_streamMode _ _ _).trans recovering
      · have waits : s.net.streamPolicy.closePass s.framebufferGeneration
            (s.queuesEmpty regionsIdle) = s.net.streamPolicy.noteBootstrapSent
              (s.queuesEmpty regionsIdle) := by
          rw [StreamPolicy.closePass, StreamPolicy.recoveryGeneration,
            if_neg recovering]
        dsimp only
        rw [waits]
        exact marked.keeps (.same (StreamPolicy.noteBootstrapSent_streamMode _ _)
          (s.net.streamPolicy.noteBootstrapSent_barrier _).1)
  | reset resets plain => exact marked.keeps (resetVideo_keepsBarrier _ _ _)
  | tracked outcome frame =>
      refine marked.keeps ?_
      dsimp only
      unfold StreamPolicy.trackKeyframe
      split_ifs <;> exact .same rfl rfl
  | committed outcome frame ready =>
      exact marked.keeps (StreamPolicy.setMode_keepsBarrier _ _ _)
  | configured negotiation phase =>
      dsimp only
      unfold StreamPolicy.beginSession
      split_ifs
      · exact marked
      · exact fun sent => absurd sent Bool.false_ne_true
  | rolledBack phase => exact fun sent => absurd sent Bool.false_ne_true
  | disconnected phase => exact marked.keeps (resetVideo_keepsBarrier _ _ _)
  | resized geometry idle differs =>
      exact marked.keeps (resetVideo_keepsBarrier _ _ _)
  | _ => exact marked

/-! ## Whole recoveries -/

namespace ServerState

/-- A new size or a reset of video takes the mark from the refresh. -/
def RestartsRecovery (s : ServerState) (event : ServerEvent) : Prop :=
  (s.resizes event = true ∨ s.resetsVideo event = true) ∧
    (s.step event).net.streamPolicy.tileRecoveryRefreshSent = false

def ClosesRefresh (s : ServerState) (event : ServerEvent) : Prop :=
  ∃ regionsIdle, event = .endPass regionsIdle ∧
    s.net.streamPolicy.tileRecoveryFramebufferGeneration =
      s.framebufferGeneration ∧
    s.net.dirtyQueueEmpty s.geometry = true ∧ regionsIdle = true ∧
    s.net.retransmitQueueEmpty s.geometry = true

structure RecoverySound (s : ServerState) : Prop where
  control : s.ControlSound
  barrier : s.net.streamPolicy.streamMode = .tileRecovery →
    BarrierSound s.net.streamPolicy
  marked : MarkedInRecovery s.net.streamPolicy

variable {s : ServerState}

theorem RecoverySound.step (sound : s.RecoverySound) (event : ServerEvent) :
    (s.step event).RecoverySound := by
  have governs := step_governs sound.control.owner event
  exact ⟨sound.control.step event,
    fun recovers => (governs.barrierStep recovers).sound sound.control.numbered
      sound.barrier,
    governs.markedInRecovery sound.marked⟩

theorem serverRun_recoverySound (geometry : Geometry) (videoWorker : Bool)
    (events : List ServerEvent) :
    (serverRun geometry videoWorker events).RecoverySound := by
  have preserved : ∀ (s : ServerState) event, s.RecoverySound →
      (s.step event).RecoverySound := fun _ event sound => sound.step event
  refine invariant_runFrom_of_step preserved
    ⟨initial_controlSound geometry videoWorker, ?_, ?_⟩ events
  · intro recovering
    cases recovering
  · exact fun sent => absurd sent Bool.false_ne_true

theorem RecoverySound.closesRefresh (sound : s.RecoverySound)
    {event : ServerEvent}
    (unsent : s.net.streamPolicy.tileRecoveryRefreshSent = false)
    (sent : (s.step event).net.streamPolicy.tileRecoveryRefreshSent = true) :
    s.ClosesRefresh event := by
  have recovers := (sound.step event).marked sent
  have moved := (step_governs sound.control.owner event).barrierStep recovers
  have barrier : (s.step event).control.policy.barrier.sent = true := sent
  generalize (s.step event).control.policy = policy' at moved barrier
  cases moved with
  | enters _ cleared | restarts _ cleared =>
      rw [cleared] at barrier
      cases barrier
  | ticks _ _ counted =>
      rw [counted.barrier] at barrier
      exact absurd (barrier.symm.trans unsent) (by decide)
  | starts _ _ _ => cases barrier
  | closes _ closing =>
      cases closing with
      | waits same _ _ =>
          rw [same] at barrier
          exact absurd (barrier.symm.trans unsent) (by decide)
      | discards _ cleared =>
          rw [cleared] at barrier
          cases barrier
      | sends _ _ current empty _ _ _ =>
          simp only [queuesEmpty, Bool.and_eq_true] at empty
          exact ⟨_, rfl, current, empty.1.1, empty.1.2, empty.2⟩
  | keeps _ _ same =>
      rw [same.barrier] at barrier
      exact absurd (barrier.symm.trans unsent) (by decide)

structure AwaitsReport (s : ServerState) : Prop where
  sound : s.RecoverySound
  recovering : s.net.streamPolicy.streamMode = .tileRecovery
  sent : s.net.streamPolicy.tileRecoveryRefreshSent = true

theorem AwaitsReport.moves (awaits : s.AwaitsReport) {event : ServerEvent}
    (stays : (s.step event).net.streamPolicy.streamMode = .tileRecovery)
    (undisturbed : ¬ s.RestartsRecovery event) :
    (s.step event).net.streamPolicy.tileRecoveryRefreshSent = true ∧
      (s.step event).net.streamPolicy.tileRecoveryWaitSeconds =
        s.net.streamPolicy.tileRecoveryWaitSeconds +
          (if event.isTick then 1 else 0) := by
  have sent := awaits.sent
  have barrier := awaits.sound.barrier awaits.recovering
  have moved := (step_governs awaits.sound.control.owner event).barrierStep stays
  have restarts (resizes : s.resizes event = true)
      (cleared : (s.step event).control.policy.barrier = .open) : False :=
    undisturbed ⟨Or.inl resizes, congrArg Barrier.sent cleared⟩
  change (s.step event).control.policy.barrier.sent = true ∧
    (s.step event).control.policy.barrier.waitSeconds = _
  generalize (s.step event).control.policy = policy' at moved restarts ⊢
  cases moved with
  | enters elsewhere _ => exact absurd awaits.recovering elsewhere
  | ticks _ waits counted =>
      have early := wait_lt_of_waits barrier waits sent
      rw [counted.barrier]
      exact ⟨sent, countRecoveryWait_sent sent early⟩
  | starts _ _ needed =>
      have started := barrier.sent sent
      simp [NetState.refreshNeeded, barrier.settled started, started] at needed
  | closes _ closing =>
      cases closing with
      | waits same _ _ =>
          rw [same]
          exact ⟨sent, rfl⟩
      | discards unsent _ | sends _ unsent _ _ _ _ _ =>
          exact absurd (sent.symm.trans unsent) (by decide)
  | restarts resizes cleared => exact (restarts resizes cleared).elim
  | keeps unticked _ same =>
      rw [same.barrier, unticked]
      exact ⟨sent, rfl⟩

theorem AwaitsReport.step (awaits : s.AwaitsReport) {event : ServerEvent}
    (stays : (s.step event).net.streamPolicy.streamMode = .tileRecovery)
    (undisturbed : ¬ s.RestartsRecovery event) :
    (s.step event).AwaitsReport :=
  ⟨awaits.sound.step event, stays, (awaits.moves stays undisturbed).1⟩

theorem AwaitsReport.ticks_le {s : ServerState} (awaits : s.AwaitsReport)
    {events : List ServerEvent}
    (stays : Along ServerState.step (fun s event =>
      (s.step event).net.streamPolicy.streamMode = .tileRecovery ∧
        ¬ s.RestartsRecovery event) s events) :
    s.net.streamPolicy.tileRecoveryWaitSeconds +
      events.countP ServerEvent.isTick ≤ tileRecoveryTimeoutSeconds := by
  induction events generalizing s with
  | nil => exact (awaits.sound.barrier awaits.recovering).early
  | cons event rest ih =>
      obtain ⟨⟨stayed, undisturbed⟩, later⟩ := stays
      have others := ih (awaits.step stayed undisturbed) later
      rw [(awaits.moves stayed undisturbed).2] at others
      rw [List.countP_cons]
      omega

end ServerState

/--
In every recovery of the tiles: a refresh that is marked sent was started and
has an epoch and a generation; only the end of a pass that left nothing of the
current framebuffer queued marks it; and from then on the mode is left with the
tick after the timeout, unless a new size or a reset takes the mark away.
-/
theorem tileRecovery_of_run {geometry : Geometry} {videoWorker : Bool}
    {events : List ServerEvent}
    (recovering : (serverRun geometry videoWorker
      events).net.streamPolicy.streamMode = .tileRecovery) :
    let s := serverRun geometry videoWorker events
    (s.net.streamPolicy.tileRecoveryRefreshSent = true →
        s.net.streamPolicy.tileRecoveryRefreshStarted = true ∧
          s.net.streamPolicy.tileRecoveryContentEpoch ≠ 0 ∧
          s.net.streamPolicy.tileRecoveryFramebufferGeneration ≠ 0) ∧
      (∀ event, s.net.streamPolicy.tileRecoveryRefreshSent = false →
        (s.step event).net.streamPolicy.tileRecoveryRefreshSent = true →
          s.ClosesRefresh event) ∧
      ∀ during, s.net.streamPolicy.tileRecoveryRefreshSent = true →
        Along ServerState.step (fun s event =>
          (s.step event).net.streamPolicy.streamMode = .tileRecovery ∧
            ¬ s.RestartsRecovery event) s during →
        during.countP ServerEvent.isTick < tileRecoveryTimeoutSeconds + 1 := by
  intro s
  have sound : s.RecoverySound :=
    ServerState.serverRun_recoverySound geometry videoWorker events
  refine ⟨fun sent => ?_, fun event => sound.closesRefresh,
    fun during sent stays => ?_⟩
  · have barrier := sound.barrier recovering
    have started := barrier.sent sent
    exact ⟨started, Nat.ne_of_gt (barrier.epoch started),
      Nat.ne_of_gt (barrier.generation started)⟩
  · have awaits : s.AwaitsReport := ⟨sound, recovering, sent⟩
    have counted := awaits.ticks_le stays
    omega

/-- Video has been given up, and the recovery's refresh has been sent. -/
def refreshSent : List ServerEvent :=
  Script.toReady ++ Script.enterVideo ++ [.closeVideoChannel] ++
    Script.fullPass 2

theorem refreshSent_tileRecovery :
    (serverRun Script.display true refreshSent).net.streamPolicy.streamMode =
        .tileRecovery ∧
      (serverRun Script.display true
        refreshSent).net.streamPolicy.tileRecoveryRefreshSent = true ∧
      (serverRun Script.display true
        refreshSent).net.streamPolicy.tileRecoveryContentEpoch ≠ 0 :=
  ⟨by decide +kernel, by decide +kernel,
    ((tileRecovery_of_run (by decide +kernel)).1 (by decide +kernel)).2.1⟩

end WayDisplay.Server
