import WayDisplay.Server.Stream.Control

/-!
Content epochs, session starts and the bootstrap of video.

The epoch moves when the display changes hands, when it is resized, and when a
session starts or ends.  A reset of video that finds tiles on the display keeps
the epoch.  In a session that has to show its first tiles before video, the
display is the tiles' until the client has reported them.
-/

namespace WayDisplay.Server

open Common Foundation

namespace StreamPolicy

@[simp]
theorem noteBootstrapSent_bootstrapPending (policy : StreamPolicy)
    (queuesEmpty : Bool) :
    (policy.noteBootstrapSent queuesEmpty).videoBootstrapPending =
      policy.videoBootstrapPending := by
  unfold noteBootstrapSent
  split_ifs <;> rfl

@[simp]
theorem closePass_streamMode (policy : StreamPolicy)
    (framebufferGeneration : Nat) (queuesEmpty : Bool) :
    (policy.closePass framebufferGeneration queuesEmpty).streamMode =
      policy.streamMode := by
  unfold closePass
  split <;> rw [noteBootstrapSent_streamMode] <;> rfl

@[simp]
theorem closePass_bootstrapPending (policy : StreamPolicy)
    (framebufferGeneration : Nat) (queuesEmpty : Bool) :
    (policy.closePass framebufferGeneration queuesEmpty).videoBootstrapPending =
      policy.videoBootstrapPending := by
  unfold closePass
  split <;> rw [noteBootstrapSent_bootstrapPending] <;> rfl

@[simp]
theorem trackKeyframe_streamMode (policy : StreamPolicy) (frameId : Nat)
    (keyframe : Bool) :
    (policy.trackKeyframe frameId keyframe).streamMode = policy.streamMode := by
  unfold trackKeyframe
  split_ifs <;> rfl

@[simp]
theorem trackKeyframe_bootstrapPending (policy : StreamPolicy) (frameId : Nat)
    (keyframe : Bool) :
    (policy.trackKeyframe frameId keyframe).videoBootstrapPending =
      policy.videoBootstrapPending := by
  unfold trackKeyframe
  split_ifs <;> rfl

theorem resetVideo_sameOptions (policy : StreamPolicy)
    (connected resize : Bool) :
    SameOptions policy (policy.resetVideo connected resize) := by
  have planned : SameOptions policy
      (policy.clearModeCounters.planResume connected resize) := by
    unfold planResume
    split_ifs <;> exact ⟨rfl, rfl⟩
  unfold resetVideo
  split_ifs
  · exact planned
  all_goals
    refine planned.trans (SameOptions.trans ?_ (setMode_sameOptions _ _ _))
    unfold restartPlannedRecovery
    split_ifs <;> exact ⟨rfl, rfl⟩

end StreamPolicy

/-! ## When the epoch advances -/

namespace ServerState

def FlipsOwner (s : ServerState) (event : ServerEvent) : Prop :=
  (s.step event).net.videoOwnsDisplay ≠ s.net.videoOwnsDisplay

structure EpochLaw (s : ServerState) (event : ServerEvent) : Prop where
  later : s.net.contentEpoch ≤ (s.step event).net.contentEpoch
  advances : s.net.contentEpoch < (s.step event).net.contentEpoch ↔
    s.FlipsOwner event ∨ s.resizes event = true ∨
      s.startsSession event = true ∨ s.endsSession event = true

variable {s : ServerState}

theorem reason_of_advance (sound : s.OwnerSound) {event : ServerEvent}
    (advances : s.net.contentEpoch < (s.step event).net.contentEpoch) :
    s.FlipsOwner event ∨ s.resizes event = true ∨
      s.startsSession event = true ∨ s.endsSession event = true := by
  have governs := step_governs sound event
  have epoch : (s.step event).control.contentEpoch =
      (s.step event).net.contentEpoch := rfl
  have owner : (s.step event).control.policy.streamMode.videoOwnsDisplay =
      (s.step event).net.videoOwnsDisplay := rfl
  rw [← epoch] at advances
  unfold FlipsOwner
  rw [← owner]
  generalize (s.step event).control = control at governs advances ⊢
  cases governs with
  | ticked stats =>
      left
      intro same
      have unmoved : (s.net.tick stats).contentEpoch = s.net.contentEpoch := by
        rw [NetState.tick_contentEpoch]
        exact if_pos same.symm
      exact absurd advances (by simp [unmoved])
  | reset resets plain =>
      left
      have owns : s.net.videoOwnsDisplay = true := by
        by_contra tiles
        simp [tiles] at advances
      rw [owns]
      simp [StreamPolicy.resetVideo_notOwns]
  | committed outcome frame ready =>
      left
      rw [NetState.videoOwnsDisplay, ready, StreamPolicy.setMode_streamMode]
      decide
  | identified token phase =>
      exact Or.inr (Or.inr (Or.inl (by simp [startsSession, phase])))
  | disconnected phase =>
      exact Or.inr (Or.inr (Or.inr (by simp [endsSession, phase])))
  | resized geometry idle differs =>
      exact Or.inr (Or.inl (by simp [resizes, idle, differs]))
  | _ => exact absurd advances (lt_irrefl _)

theorem advance_of_reason {s : ServerState} (sound : s.OwnerSound)
    {event : ServerEvent} (reason : s.resizes event = true ∨
      s.startsSession event = true ∨ s.endsSession event = true) :
    s.net.contentEpoch < (s.step event).net.contentEpoch := by
  have governs := step_governs sound event
  have epoch : (s.step event).control.contentEpoch =
      (s.step event).net.contentEpoch := rfl
  rw [← epoch]
  generalize (s.step event).control = control at governs ⊢
  cases governs with
  | kept plain | reset _ plain =>
      simp [plain.starts, plain.ends, plain.resizes] at reason
  | identified token phase => exact Nat.lt_succ_self _
  | disconnected phase =>
      change s.net.contentEpoch < if s.net.videoOwnsDisplay then
        s.net.contentEpoch + 2 else s.net.contentEpoch + 1
      split_ifs <;> omega
  | resized geometry idle differs => exact Nat.lt_succ_self _
  | _ => simp [resizes, startsSession, endsSession] at reason

theorem epochLaw (sound : s.OwnerSound) (event : ServerEvent) :
    s.EpochLaw event := by
  have moved := (step_effect sound.closed sound.jobs event).advances sound.closed
  refine ⟨moved.later, reason_of_advance sound, ?_⟩
  rintro (flips | reason)
  · exact moved.change flips
  · exact advance_of_reason sound reason

/-! ## Sessions begin with tiles -/

theorem videoReady_of_handsDisplay {event : ServerEvent}
    (hands : s.handsDisplay event) :
    s.net.streamPolicy.streamMode = .videoReady := by
  cases event with
  | controllerTick stats => exact hands.1
  | completeVideoJob outcome =>
      cases outcome with
      | noFrame => cases hands
      | encoded frameId keyframe sendPending queued =>
          obtain ⟨job, active, takes⟩ := (Option.any_eq_true _ _).mp hands
          simp only [Bool.and_eq_true] at takes
          exact (commitsVideo_spec takes.2).1
  | _ => exact hands.elim

theorem step_tileOwned (sound : s.OwnerSound)
    (tiles : s.net.streamPolicy.streamMode = .tiles) (event : ServerEvent) :
    (s.step event).net.videoOwnsDisplay = false := by
  have keeps : ¬ s.handsDisplay event := fun hands =>
    absurd (tiles.symm.trans (videoReady_of_handsDisplay hands)) (by decide)
  have withheld := (step_withholds sound.closed sound.jobs keeps).2
  by_contra owns
  have owned := withheld (by simpa using owns)
  rw [NetState.videoOwnsDisplay, tiles] at owned
  exact absurd owned (by decide)

end ServerState

/-! ## The bootstrap -/

structure BootstrapLog where
  required : Bool
  presented : Bool
  deriving DecidableEq, Repr

namespace ServerState

/-- The client reports the epoch of a bootstrap refresh that was marked sent. -/
def reportsBootstrap (s : ServerState) (stats : TickStats) : Bool :=
  s.net.streamPolicy.videoBootstrapRefreshSent &&
    decide (s.net.streamPolicy.videoBootstrapContentEpoch ≤
      stats.clientTileContentEpochPresented)

def logBootstrap (s : ServerState) (log : BootstrapLog) :
    ServerEvent → BootstrapLog
  | .configureSession negotiation =>
      if s.net.sessionPhase = .identified then
        ⟨videoSessionBootstrapRequired
          (VideoMode.ofWire negotiation.hello.videoMode)
          negotiation.hello.clientVideoStream, false⟩
      else log
  | .controllerTick stats =>
      { log with presented := log.presented || s.reportsBootstrap stats }
  | _ => log

end ServerState

def bootstrapStep (logged : ServerState × BootstrapLog) (event : ServerEvent) :
    ServerState × BootstrapLog :=
  (logged.1.step event, logged.1.logBootstrap logged.2 event)

def bootstrapRun (geometry : Geometry) (videoWorker : Bool)
    (events : List ServerEvent) : ServerState × BootstrapLog :=
  runFrom bootstrapStep (.initial geometry videoWorker, ⟨false, false⟩) events

theorem runFrom_bootstrapStep_fst (logged : ServerState × BootstrapLog)
    (events : List ServerEvent) :
    (runFrom bootstrapStep logged events).1 =
      runFrom ServerState.step logged.1 events := by
  induction events generalizing logged with
  | nil => rfl
  | cons event rest ih => exact ih (bootstrapStep logged event)

theorem bootstrapRun_fst (geometry : Geometry) (videoWorker : Bool)
    (events : List ServerEvent) :
    (bootstrapRun geometry videoWorker events).1 =
      serverRun geometry videoWorker events :=
  runFrom_bootstrapStep_fst _ events

/-- A session's bootstrap is pending until it has been reported. -/
structure BootstrapKept (control : Control) (log : BootstrapLog) : Prop where
  tiles : control.policy.videoBootstrapPending = true →
    control.policy.streamMode = .tiles
  pending : log.required = true → log.presented = false →
    control.policy.videoBootstrapPending = true ∨
      control.phase = .closed ∨ control.phase = .identified

theorem BootstrapKept.same {control control' : Control}
    {log log' : BootstrapLog} (kept : BootstrapKept control log)
    (phase : control'.phase = control.phase)
    (mode : control.policy.streamMode = .tiles →
      control'.policy.streamMode = .tiles)
    (bootstrap : control'.policy.videoBootstrapPending =
      control.policy.videoBootstrapPending)
    (required : log'.required = log.required)
    (presented : log'.presented = false → log.presented = false) :
    BootstrapKept control' log' := by
  refine ⟨?_, ?_⟩
  · intro pending
    exact mode (kept.tiles (bootstrap ▸ pending))
  · intro asked unreported
    rw [bootstrap, phase]
    exact kept.pending (required ▸ asked) (presented unreported)

theorem tick_bootstrapKept {s : ServerState} {log : BootstrapLog}
    (kept : BootstrapKept s.control log) (stats : TickStats) :
    BootstrapKept
      { s.control with
        contentEpoch := (s.net.tick stats).contentEpoch
        policy := (s.net.tick stats).streamPolicy }
      (s.logBootstrap log (.controllerTick stats)) := by
  have pending' : (s.net.tick stats).streamPolicy.videoBootstrapPending =
      (s.net.streamPolicy.tick stats s.net.videoRuntime).videoBootstrapPending := by
    unfold NetState.tick NetState.noteOwnerChange
    split_ifs <;> rfl
  refine ⟨?_, ?_⟩
  · intro pending
    replace pending := pending'.symm.trans pending
    have before := StreamPolicy.bootstrapPending_of_tick pending
    exact (s.net.tick_streamMode stats).trans
      (StreamPolicy.tick_of_bootstrapPending before (kept.tiles before) stats _).1
  · intro required unreported
    simp only [ServerState.logBootstrap, Bool.or_eq_false_iff] at unreported
    rcases kept.pending required unreported.1 with pending | phase
    · left
      refine pending'.trans ((StreamPolicy.tick_of_bootstrapPending pending
        (kept.tiles pending) stats _).2.trans ?_)
      rw [Bool.not_eq_true']
      -- Presenting the bootstrap would have been logged.
      by_contra unsettled
      have presents : s.net.streamPolicy.bootstrapPresented stats = true :=
        eq_true_of_ne_false unsettled
      simp only [StreamPolicy.bootstrapPresented, Bool.and_eq_true] at presents
      simp only [ServerState.reportsBootstrap, presents.1.1, Bool.true_and] at unreported
      exact absurd presents.2 (by simpa using unreported.2)
    · exact Or.inr phase

theorem resetVideo_bootstrapKept {s : ServerState} {log : BootstrapLog}
    (kept : BootstrapKept s.control log) (connected resize : Bool)
    {phase : SessionPhase}
    (opened : phase = .closed ∨ phase = s.control.phase)
    (epoch generation : Nat) :
    BootstrapKept
      ⟨phase, epoch, generation,
        s.net.streamPolicy.resetVideo connected resize, s.trace.videoFrames⟩
      log := by
  have options := s.net.streamPolicy.resetVideo_sameOptions connected resize
  refine ⟨?_, ?_⟩
  · intro pending
    have tiles := kept.tiles (options.bootstrap.symm.trans pending)
    replace tiles : s.net.streamPolicy.streamMode = .tiles := tiles
    rw [StreamPolicy.resetVideo_streamMode, tiles]
    simp
  · intro required unreported
    rcases opened with closed | same
    · exact Or.inr (Or.inl closed)
    · rcases kept.pending required unreported with pending | phases
      · exact Or.inl (options.bootstrap.trans pending)
      · exact Or.inr (same ▸ phases)

theorem beginSession_bootstrap (policy : StreamPolicy) (hello : ClientHello)
    {epoch : Nat} (positive : 0 < epoch) :
    (policy.beginSession hello epoch).streamMode = .tiles ∧
      (policy.beginSession hello epoch).videoBootstrapPending =
        videoSessionBootstrapRequired (VideoMode.ofWire hello.videoMode)
          hello.clientVideoStream := by
  unfold StreamPolicy.beginSession
  rw [if_neg (Nat.ne_of_gt positive)]
  exact ⟨rfl, rfl⟩

theorem Governs.bootstrapKept {s : ServerState} {event : ServerEvent}
    {control : Control} (governs : Governs s event control)
    (numbered : s.control.Numbered) {log : BootstrapLog} (kept : BootstrapKept s.control log) :
    BootstrapKept control (s.logBootstrap log event) := by
  cases governs with
  | kept plain =>
      cases event with
      | configureSession negotiation =>
          have elsewhere : s.net.sessionPhase ≠ .identified := by
            simpa [ServerState.configuresSession] using plain.configures
          simp only [ServerState.logBootstrap, if_neg elsewhere]
          exact kept
      | controllerTick stats => cases plain.unticked
      | _ => exact kept
  | ticked stats => exact tick_bootstrapKept kept stats
  | refreshed input connected needed => exact kept.same rfl id rfl rfl id
  | deferred input behind => exact kept.same rfl id rfl rfl id
  | closed regionsIdle =>
      exact kept.same rfl
        (fun tiles => (StreamPolicy.closePass_streamMode _ _ _).trans tiles)
        (StreamPolicy.closePass_bootstrapPending _ _ _) rfl id
  | reset resets plain =>
      have unlogged : s.logBootstrap log event = log := by
        cases event <;> first | rfl | cases resets
      rw [unlogged]
      exact resetVideo_bootstrapKept kept _ _ (Or.inr rfl) _ _
  | tracked outcome frame =>
      exact kept.same rfl
        (fun tiles => (StreamPolicy.trackKeyframe_streamMode _ _ _).trans tiles)
        (StreamPolicy.trackKeyframe_bootstrapPending _ _ _) rfl id
  | committed outcome frame ready =>
      refine kept.same rfl (fun tiles => ?_)
        (StreamPolicy.setMode_sameOptions _ _ _).bootstrap rfl id
      replace tiles : s.net.streamPolicy.streamMode = .tiles := tiles
      exact absurd (tiles.symm.trans ready) (by decide)
  | fedBack contentEpoch sequence flags =>
      exact kept.same rfl id rfl rfl id
  | identified token phase =>
      exact ⟨kept.tiles, fun _ _ => Or.inr (Or.inr rfl)⟩
  | configured negotiation phase =>
      have epoch : 0 < s.net.contentEpoch := numbered.epoch (by
        change s.net.sessionPhase ≠ .closed
        simp [phase])
      have begun := beginSession_bootstrap s.net.streamPolicy negotiation.hello
        epoch
      refine ⟨fun _ => begun.1, fun required _ => Or.inl ?_⟩
      rw [ServerState.logBootstrap, if_pos phase] at required
      exact begun.2.trans required
  | established fd phase =>
      refine ⟨kept.tiles, fun required unreported => ?_⟩
      have before := kept.pending required unreported
      simp only [ServerState.control, phase, reduceCtorEq, or_false] at before
      exact Or.inl before
  | rolledBack phase =>
      exact ⟨fun _ => rfl, fun _ _ => Or.inr (Or.inl rfl)⟩
  | disconnected phase =>
      exact resetVideo_bootstrapKept kept _ _ (Or.inl rfl) _ _
  | resized geometry idle differs =>
      exact resetVideo_bootstrapKept kept _ _ (Or.inr rfl) _ _

def BootstrapSound (logged : ServerState × BootstrapLog) : Prop :=
  logged.1.ControlSound ∧ BootstrapKept logged.1.control logged.2

theorem bootstrapRun_sound (geometry : Geometry) (videoWorker : Bool)
    (events : List ServerEvent) :
    BootstrapSound (bootstrapRun geometry videoWorker events) := by
  have preserved : ∀ logged event, BootstrapSound logged →
      BootstrapSound (bootstrapStep logged event) :=
    fun _ event sound => ⟨sound.1.step event,
      (ServerState.step_governs sound.1.owner event).bootstrapKept
        sound.1.numbered sound.2⟩
  refine invariant_runFrom_of_step preserved
    ⟨ServerState.initial_controlSound geometry videoWorker, ?_, ?_⟩ events
  · exact fun _ => rfl
  · exact fun required => absurd required Bool.false_ne_true

theorem BootstrapSound.tiles {logged : ServerState × BootstrapLog}
    (sound : BootstrapSound logged) (required : logged.2.required = true)
    (unreported : logged.2.presented = false) :
    logged.1.net.streamPolicy.streamMode = .tiles := by
  have offline (phase : logged.1.net.sessionPhase ≠ .established) :
      logged.1.net.streamPolicy.streamMode = .tiles :=
    (sound.1.owner.closed (by simpa [NetState.clientConnected] using phase)).1
  rcases sound.2.pending required unreported with pending | closed | identified
  · exact sound.2.tiles pending
  · replace closed : logged.1.net.sessionPhase = .closed := closed
    exact offline (by simp [closed])
  · replace identified : logged.1.net.sessionPhase = .identified := identified
    exact offline (by simp [identified])

/-! ## The session machine -/

/--
What the next event of a run may do: advance the epoch for a reason, leave a
session that has not been established yet to the tiles, and hand the display to
video only when a required bootstrap has been sent and reported.
-/
structure SessionLaw (s : ServerState) (log : BootstrapLog)
    (event : ServerEvent) : Prop where
  epoch : s.EpochLaw event
  starts : s.net.clientConnected = false →
    (s.step event).net.videoOwnsDisplay = false
  bootstrap : log.required = true →
    (s.step event).net.videoOwnsDisplay = true → log.presented = true

theorem sessionLaw_of_run (geometry : Geometry) (videoWorker : Bool)
    (events : List ServerEvent) (event : ServerEvent) :
    SessionLaw (serverRun geometry videoWorker events)
      (bootstrapRun geometry videoWorker events).2 event := by
  have sound := bootstrapRun_sound geometry videoWorker events
  rw [← bootstrapRun_fst]
  generalize bootstrapRun geometry videoWorker events = logged at sound ⊢
  have owner := sound.1.owner
  refine ⟨ServerState.epochLaw owner event, ?_, ?_⟩
  · intro disconnected
    exact ServerState.step_tileOwned owner (owner.closed disconnected).1 event
  · intro required owns
    by_contra unreported
    have tiles := sound.tiles required (by simpa using unreported)
    have tileOwned := ServerState.step_tileOwned owner tiles event
    exact absurd (owns.symm.trans tileOwned) (by decide)

/-- A reset that finds tiles on the display leaves the epoch as it is. -/
theorem closeVideoChannel_resets_within_epoch :
    (serverRun Script.display true Script.connect).resetsVideo
        .closeVideoChannel = true ∧
      ((serverRun Script.display true Script.connect).step
        .closeVideoChannel).net.contentEpoch =
      (serverRun Script.display true Script.connect).net.contentEpoch := by
  decide +kernel

end WayDisplay.Server
