import WayDisplay.Server.StreamPolicy

/-!
What a tick can do to display ownership and to an owed refresh.

The health and the mode selection each do some bookkeeping and change the mode
at most once, which is said once (`Selects`).  Two facts follow: in which modes
video may take the display, and that a full refresh, once it is owed to the
client, stays owed.  Both have one exception each, stated as a condition on the
policy and the statistics before the tick.
-/

namespace WayDisplay.Server

structure Barrier where
  started : Bool
  sent : Bool
  waitSeconds : Nat
  framebufferGeneration : Nat
  deriving DecidableEq, Repr

def Barrier.open : Barrier := ⟨false, false, 0, 0⟩

namespace StreamPolicy

def barrier (policy : StreamPolicy) : Barrier where
  started := policy.tileRecoveryRefreshStarted
  sent := policy.tileRecoveryRefreshSent
  waitSeconds := policy.tileRecoveryWaitSeconds
  framebufferGeneration := policy.tileRecoveryFramebufferGeneration

/-- Damage is deferred only behind a tile recovery. -/
def WellFormed (policy : StreamPolicy) : Prop :=
  policy.tileRecoveryLiveDamageDeferred = true →
    policy.streamMode = .tileRecovery

/-- From `policy` to `policy'`, no owed refresh is forgotten. -/
structure KeepsDebt (policy policy' : StreamPolicy) : Prop where
  pending : policy.tileRefreshPending = true → policy'.tileRefreshPending = true
  deferred : policy.tileRecoveryLiveDamageDeferred = true →
    policy'.tileRecoveryLiveDamageDeferred = true ∨
      policy'.tileRefreshPending = true
  settled : policy'.tileRecoveryLiveDamageDeferred = true →
    policy.tileRecoveryLiveDamageDeferred = true ∧
      policy'.streamMode = policy.streamMode
  handback : policy.streamMode.videoOwnsDisplay = true →
    policy'.streamMode.videoOwnsDisplay = false →
      policy'.tileRefreshPending = true

/-- The policies differ in counters only. -/
structure SameDebt (policy policy' : StreamPolicy) : Prop where
  streamMode : policy'.streamMode = policy.streamMode
  pending : policy'.tileRefreshPending = policy.tileRefreshPending
  deferred : policy'.tileRecoveryLiveDamageDeferred =
    policy.tileRecoveryLiveDamageDeferred

theorem SameDebt.keepsDebt {policy policy' : StreamPolicy}
    (same : SameDebt policy policy') : KeepsDebt policy policy' := by
  refine ⟨?_, ?_, ?_, ?_⟩
  · simp [same.pending]
  · exact fun deferred => Or.inl (same.deferred.trans deferred)
  · exact fun deferred => ⟨same.deferred ▸ deferred, same.streamMode⟩
  · intro owns notOwns
    rw [same.streamMode, owns] at notOwns
    exact absurd notOwns (by decide)

theorem KeepsDebt.trans {policy policy' policy'' : StreamPolicy}
    (first : KeepsDebt policy policy') (second : KeepsDebt policy' policy'') :
    KeepsDebt policy policy'' := by
  refine ⟨fun pending => second.pending (first.pending pending), ?_, ?_, ?_⟩
  · intro deferred
    rcases first.deferred deferred with deferred' | pending
    · exact second.deferred deferred'
    · exact Or.inr (second.pending pending)
  · intro deferred
    obtain ⟨deferred', same'⟩ := second.settled deferred
    obtain ⟨deferred'', same''⟩ := first.settled deferred'
    exact ⟨deferred'', same'.trans same''⟩
  · intro owns notOwns
    cases hmiddle : policy'.streamMode.videoOwnsDisplay with
    | true => exact second.handback hmiddle notOwns
    | false => exact second.pending (first.handback owns hmiddle)

theorem KeepsDebt.wellFormed {policy policy' : StreamPolicy}
    (keeps : KeepsDebt policy policy') (wellFormed : policy.WellFormed) :
    policy'.WellFormed := by
  intro deferred
  obtain ⟨deferred', same⟩ := keeps.settled deferred
  exact same.trans (wellFormed deferred')

theorem setMode_keepsDebt {policy : StreamPolicy} (mode : StreamMode)
    (recoveryClass : VideoRecoveryClass)
    (covered : policy.tileRecoveryLiveDamageDeferred = true →
      policy.tileRefreshPending = true) :
    KeepsDebt policy (policy.setMode mode recoveryClass) := by
  unfold setMode
  split
  · exact SameDebt.keepsDebt ⟨rfl, rfl, rfl⟩
  · refine ⟨?_, ?_, ?_, ?_⟩
    · intro pending
      simp [changeMode, pending]
    · intro deferred
      simp [changeMode, covered deferred]
    · intro deferred
      simp [changeMode] at deferred
    · intro owns notOwns
      replace notOwns : mode.videoOwnsDisplay = false := notOwns
      simp [changeMode, owns, notOwns]

variable {policy : StreamPolicy}

theorem setMode_keepsDebt_of_ne (mode : StreamMode)
    (recoveryClass : VideoRecoveryClass) (wellFormed : policy.WellFormed)
    (elsewhere : policy.streamMode ≠ .tileRecovery) :
    KeepsDebt policy (policy.setMode mode recoveryClass) :=
  setMode_keepsDebt mode recoveryClass fun deferred =>
    absurd (wellFormed deferred) elsewhere

/-! ## One change of mode -/

/-- Counting and noting: modes, debts and the barrier are as before. -/
structure Bookkept (policy policy' : StreamPolicy) : Prop
    extends SameDebt policy policy' where
  bootstrap : policy'.videoBootstrapPending = true →
    policy.videoBootstrapPending = true
  barrier : policy'.barrier = policy.barrier

theorem Bookkept.refl (policy : StreamPolicy) : Bookkept policy policy :=
  ⟨⟨rfl, rfl, rfl⟩, id, rfl⟩

theorem Bookkept.trans {policy policy' policy'' : StreamPolicy}
    (first : Bookkept policy policy') (second : Bookkept policy' policy'') :
    Bookkept policy policy'' where
  streamMode := second.streamMode.trans first.streamMode
  pending := second.pending.trans first.pending
  deferred := second.deferred.trans first.deferred
  bootstrap := fun pending => first.bootstrap (second.bootstrap pending)
  barrier := second.barrier.trans first.barrier

/-- At most one change of mode, to one of `targets`, between bookkeeping. -/
inductive Selects (targets : StreamMode → Prop) (policy policy' : StreamPolicy) :
    Prop
  | keeps (same : Bookkept policy policy')
  | moves (counted : StreamPolicy) (mode : StreamMode)
      (recoveryClass : VideoRecoveryClass) (counts : Bookkept policy counted)
      (allowed : targets mode)
      (settles : Bookkept (counted.setMode mode recoveryClass) policy')

theorem setMode_bootstrap (policy : StreamPolicy) (mode : StreamMode)
    (recoveryClass : VideoRecoveryClass) :
    (policy.setMode mode recoveryClass).videoBootstrapPending =
      policy.videoBootstrapPending := by
  unfold setMode
  split <;> rfl

namespace Selects

variable {targets : StreamMode → Prop} {policy policy' : StreamPolicy}

theorem streamMode (selects : Selects targets policy policy') :
    policy'.streamMode = policy.streamMode ∨ targets policy'.streamMode := by
  cases selects with
  | keeps same => exact Or.inl same.streamMode
  | moves counted mode recoveryClass _ allowed settles =>
      rw [settles.streamMode, setMode_streamMode]
      exact Or.inr allowed

theorem bootstrap (selects : Selects targets policy policy')
    (pending : policy'.videoBootstrapPending = true) :
    policy.videoBootstrapPending = true := by
  cases selects with
  | keeps same => exact same.bootstrap pending
  | moves counted mode recoveryClass counts _ settles =>
      have settled := settles.bootstrap pending
      rw [setMode_bootstrap] at settled
      exact counts.bootstrap settled

theorem keepsDebt (selects : Selects targets policy policy')
    (wellFormed : policy.WellFormed)
    (elsewhere : policy.streamMode ≠ .tileRecovery) :
    KeepsDebt policy policy' := by
  cases selects with
  | keeps same => exact same.keepsDebt
  | moves counted mode recoveryClass counts _ settles =>
      have counted' := counts.keepsDebt
      exact counted'.trans ((setMode_keepsDebt_of_ne mode recoveryClass
        (counted'.wellFormed wellFormed)
        (counts.streamMode ▸ elsewhere)).trans settles.keepsDebt)

theorem of_counted {counted : StreamPolicy}
    (selects : Selects targets counted policy')
    (counts : Bookkept policy counted) : Selects targets policy policy' := by
  cases selects with
  | keeps same => exact .keeps (counts.trans same)
  | moves counted' mode recoveryClass counts' allowed settles =>
      exact .moves counted' mode recoveryClass (counts.trans counts') allowed
        settles

end Selects

/-! ## Health -/

theorem noteRecoveryTimeout_sameDebt (policy : StreamPolicy)
    (action : TileRecoveryAction) :
    SameDebt policy (policy.noteRecoveryTimeout action) := by
  unfold noteRecoveryTimeout
  split <;> exact ⟨rfl, rfl, rfl⟩

theorem requestDeferred_keepsDebt (policy : StreamPolicy) :
    KeepsDebt policy policy.requestDeferred := by
  refine ⟨?_, Or.inl, fun deferred => ⟨deferred, rfl⟩, ?_⟩
  · intro pending
    simp [requestDeferred, pending]
  · intro owns notOwns
    exact absurd (owns.symm.trans notOwns) (by decide)

theorem finishTileRecovery_keepsDebt (policy : StreamPolicy)
    (action : TileRecoveryAction) :
    KeepsDebt policy (policy.finishTileRecovery action) := by
  have cooled : KeepsDebt policy (policy.startRetryCooldown action) :=
    SameDebt.keepsDebt ⟨rfl, rfl, rfl⟩
  have noted := (noteRecoveryTimeout_sameDebt (policy.startRetryCooldown action)
    action).keepsDebt
  unfold finishTileRecovery
  refine ((cooled.trans noted).trans (requestDeferred_keepsDebt _)).trans
    (setMode_keepsDebt _ _ ?_)
  intro deferred
  simpa [requestDeferred] using Or.inl deferred

theorem updateTileRecovery_keepsDebt (policy : StreamPolicy)
    (stats : TickStats) :
    KeepsDebt policy (policy.updateTileRecovery stats) := by
  unfold updateTileRecovery
  split_ifs
  · exact (finishTileRecovery_keepsDebt policy _).trans
      (SameDebt.keepsDebt ⟨rfl, rfl, rfl⟩)
  · exact SameDebt.keepsDebt ⟨rfl, rfl, rfl⟩

def asksForVideoRecovery (health : ClientVideoHealth) : Prop :=
  health = .decoderOverloaded ∨ health = .awaitingKeyframe

instance (health : ClientVideoHealth) :
    Decidable (asksForVideoRecovery health) := by
  unfold asksForVideoRecovery
  infer_instance

/--
Where health can lead.  Only a client that asks for video recovery brings video
to the display, and the mode before is not consulted then.
-/
inductive HealthMove (health : ClientVideoHealth) : StreamMode → StreamMode → Prop
  | stay (mode : StreamMode) : HealthMove health mode mode
  | fallBack (mode : StreamMode) : HealthMove health mode .tileRecovery
  | recovered : HealthMove health .tileRecovery .tiles
  | inVideo {mode mode' : StreamMode} (owns : mode.videoOwnsDisplay = true)
      (owns' : mode'.videoOwnsDisplay = true) : HealthMove health mode mode'
  | asked (asks : asksForVideoRecovery health) :
      HealthMove health .videoReady .videoRecovering

theorem updateVideoRecovery_selects {health : ClientVideoHealth}
    (recovering : policy.streamMode = .videoRecovering) (stats : TickStats) :
    Selects (HealthMove health policy.streamMode) policy
      (policy.updateVideoRecovery stats) := by
  have recovers : HealthMove health policy.streamMode .videoActive :=
    recovering ▸ .inVideo rfl rfl
  have begun (moved : StreamPolicy) :
      Bookkept moved (moved.beginRecoveryAttempt 0).clearFailureSeconds :=
    ⟨⟨rfl, rfl, rfl⟩, id, rfl⟩
  have ended (moved : StreamPolicy) :
      Bookkept moved moved.endRecoveryAttempts.clearFailureSeconds :=
    ⟨⟨rfl, rfl, rfl⟩, id, rfl⟩
  unfold updateVideoRecovery
  split
  · exact .moves policy .videoActive .none (.refl _) recovers (begun _)
  · exact .keeps ⟨⟨rfl, rfl, rfl⟩, id, rfl⟩
  · exact .moves policy .tileRecovery .failure (.refl _) (.fallBack _) (ended _)
  · exact .keeps ⟨⟨rfl, rfl, rfl⟩, id, rfl⟩

theorem judgeVideoHealth_selects {health : ClientVideoHealth}
    (asked : asksForVideoRecovery health →
      HealthMove health policy.streamMode .videoRecovering) :
    Selects (HealthMove health policy.streamMode) policy
      (policy.judgeVideoHealth health) := by
  have cleared (moved : StreamPolicy) :
      Bookkept moved moved.clearClientFailure := ⟨⟨rfl, rfl, rfl⟩, id, rfl⟩
  unfold judgeVideoHealth
  split_ifs with asks
  · exact .moves (policy.beginRecoveryAttempt 1) .videoRecovering .failure
      ⟨⟨rfl, rfl, rfl⟩, id, rfl⟩ (asked asks) (cleared _)
  · exact .moves (policy.noteFailureStreak health) .tileRecovery .failure
      ⟨⟨rfl, rfl, rfl⟩, id, rfl⟩ (.fallBack _) (cleared _)
  · exact .keeps ⟨⟨rfl, rfl, rfl⟩, id, rfl⟩

theorem updateVideoHealth_selects (stats : TickStats)
    (uses : policy.streamMode.usesVideoFrames = true) :
    Selects (HealthMove (policy.clientVideoHealth stats) policy.streamMode)
      policy (policy.updateVideoHealth stats) := by
  have taken : Bookkept policy policy.takeFeedback :=
    ⟨⟨rfl, rfl, rfl⟩, id, rfl⟩
  unfold updateVideoHealth
  split
  · exact .moves policy.takeFeedback .tileRecovery .failure taken (.fallBack _)
      (.refl _)
  · next active _ =>
    have recovers : HealthMove (policy.clientVideoHealth stats)
        policy.streamMode .videoRecovering := active ▸ .inVideo rfl rfl
    exact .moves (policy.takeFeedback.beginRecoveryAttempt 1) .videoRecovering
      .failure ⟨⟨rfl, rfl, rfl⟩, id, rfl⟩ recovers (.refl _)
  · next recovering =>
    have recovering' : policy.takeFeedback.streamMode = .videoRecovering :=
      recovering
    exact (updateVideoRecovery_selects recovering' stats).of_counted taken
  · next notRecovering _ _ =>
    refine (judgeVideoHealth_selects ?_).of_counted taken
    intro asks
    change HealthMove _ policy.streamMode _
    cases mode : policy.streamMode with
    | videoReady => exact .asked asks
    | videoActive => exact .inVideo rfl rfl
    | videoRecovering => exact (notRecovering mode).elim
    | tiles | videoCandidate | tileRecovery =>
        rw [mode] at uses
        exact absurd uses (by decide)

theorem updateHealth_selects (elsewhere : policy.streamMode ≠ .tileRecovery)
    (stats : TickStats) :
    Selects (HealthMove ((policy.noteWindow stats).clientVideoHealth stats)
      policy.streamMode) policy (policy.updateHealth stats) := by
  have noted : Bookkept policy (policy.noteWindow stats) :=
    ⟨⟨rfl, rfl, rfl⟩, id, rfl⟩
  unfold updateHealth
  rw [if_neg elsewhere]
  split_ifs with uses
  · have uses' : (policy.noteWindow stats).streamMode.usesVideoFrames = true :=
      uses
    exact (updateVideoHealth_selects stats uses').of_counted noted
  · exact .keeps noted

theorem finishTileRecovery_streamMode (policy : StreamPolicy)
    (action : TileRecoveryAction) :
    (policy.finishTileRecovery action).streamMode = .tiles :=
  setMode_streamMode _ _ _

theorem updateTileRecovery_streamMode (policy : StreamPolicy)
    (stats : TickStats) :
    (policy.updateTileRecovery stats).streamMode =
      if policy.tileRecoveryAction stats ≠ .wait then .tiles
      else policy.streamMode := by
  unfold updateTileRecovery
  split_ifs
  · exact finishTileRecovery_streamMode _ _
  · rfl

theorem updateHealth_of_tileRecovery
    (recovering : policy.streamMode = .tileRecovery) (stats : TickStats) :
    policy.updateHealth stats =
      (policy.noteWindow stats).updateTileRecovery stats := by
  rw [updateHealth, if_pos recovering]

theorem updateHealth_keepsDebt (wellFormed : policy.WellFormed)
    (stats : TickStats) :
    KeepsDebt policy (policy.updateHealth stats) := by
  by_cases recovering : policy.streamMode = .tileRecovery
  · have noted : KeepsDebt policy (policy.noteWindow stats) :=
      SameDebt.keepsDebt ⟨rfl, rfl, rfl⟩
    rw [updateHealth_of_tileRecovery recovering]
    exact noted.trans (updateTileRecovery_keepsDebt _ stats)
  · exact (updateHealth_selects recovering stats).keepsDebt wellFormed recovering

theorem updateHealth_healthMove (policy : StreamPolicy) (stats : TickStats) :
    HealthMove ((policy.noteWindow stats).clientVideoHealth stats)
      policy.streamMode
      (policy.updateHealth stats).streamMode := by
  by_cases recovering : policy.streamMode = .tileRecovery
  · rw [updateHealth_of_tileRecovery recovering, updateTileRecovery_streamMode]
    split_ifs
    · rw [recovering]
      exact .recovered
    · exact .stay _
  · rcases (updateHealth_selects recovering stats).streamMode with same | moved
    · rw [same]
      exact .stay _
    · exact moved

/-! ## Mode selection -/

/--
The tick returns to video after a resize: either the tiles have been shown
already, or the client has just presented the recovery.
-/
def ResumesPlanned (policy : StreamPolicy) (stats : TickStats)
    (runtime : VideoRuntime) : Prop :=
  policy.plannedRecoveryResumeVideo = true ∧
    runtime.allowsEntry policy.videoMode = true ∧
    policy.videoBootstrapPending = false ∧
    (policy.streamMode = .tiles ∨
      policy.streamMode = .tileRecovery ∧
        policy.tileRecoveryAction stats = .completePresented)

instance (policy : StreamPolicy) (stats : TickStats) (runtime : VideoRuntime) :
    Decidable (policy.ResumesPlanned stats runtime) := by
  unfold ResumesPlanned
  infer_instance

variable {runtime : VideoRuntime}

theorem plannedResumeAction_enter
    (enter : policy.plannedResumeAction runtime = .enter) :
    policy.plannedRecoveryResumeVideo = true ∧
      runtime.allowsEntry policy.videoMode = true := by
  simp only [plannedResumeAction, plannedVideoResumeDecide] at enter
  split_ifs at enter with unplanned disallowed waits
  simp only [Bool.not_eq_true', Bool.not_eq_false] at unplanned disallowed
  exact ⟨unplanned, disallowed⟩

/-- The selection brings video to no display, and tiles do not recover. -/
def ModeChoice (mode mode' : StreamMode) : Prop :=
  mode'.videoOwnsDisplay = false ∧ (mode' = .tileRecovery → mode ≠ .tiles)

theorem chooseMode_selects (policy : StreamPolicy) (stats : TickStats)
    (runtime : VideoRuntime) (cooldownActive : Bool) :
    Selects (ModeChoice policy.streamMode) policy
      (policy.chooseMode stats runtime cooldownActive) := by
  have counted : Bookkept policy policy.countCandidate :=
    ⟨⟨rfl, rfl, rfl⟩, id, rfl⟩
  have quiet (moved : StreamPolicy) : Bookkept moved moved.clearQuiet :=
    ⟨⟨rfl, rfl, rfl⟩, id, rfl⟩
  have moves (counted : StreamPolicy) {mode : StreamMode}
      {recoveryClass : VideoRecoveryClass} (counts : Bookkept policy counted)
      (allowed : ModeChoice policy.streamMode mode) :
      Selects (ModeChoice policy.streamMode) policy
        (counted.setMode mode recoveryClass) :=
    .moves counted mode recoveryClass counts allowed (.refl _)
  unfold chooseMode
  split_ifs with _ _ elsewhere
  · unfold leaveVideo
    split_ifs with owns
    · exact moves policy.clearModeCounters ⟨⟨rfl, rfl, rfl⟩, id, rfl⟩
        ⟨rfl, fun _ tiles => absurd (tiles ▸ owns) (by decide)⟩
    · exact moves policy.clearModeCounters ⟨⟨rfl, rfl, rfl⟩, id, rfl⟩
        ⟨rfl, nofun⟩
  · unfold approachVideo
    split_ifs
    · exact .keeps ⟨⟨rfl, rfl, rfl⟩, id, rfl⟩
    all_goals exact moves policy.countCandidate counted ⟨rfl, nofun⟩
  · exact .keeps ⟨⟨rfl, rfl, rfl⟩, id, rfl⟩
  · unfold considerExit
    split_ifs
    · exact .keeps ⟨⟨rfl, rfl, rfl⟩, id, rfl⟩
    · exact .moves policy.countQuiet .tileRecovery .planned
        ⟨⟨rfl, rfl, rfl⟩, id, rfl⟩ ⟨rfl, fun _ => elsewhere⟩ (quiet _)
    · exact .keeps ⟨⟨rfl, rfl, rfl⟩, id, rfl⟩

theorem updateMode_cases (policy : StreamPolicy) (stats : TickStats)
    (runtime : VideoRuntime) :
    policy.plannedResumeAction runtime = .enter ∧
        policy.videoBootstrapPending = false ∧ policy.streamMode = .tiles ∧
        policy.updateMode stats runtime =
          policy.countCooldown.resumePlannedVideo ∨
      Selects (ModeChoice policy.streamMode) policy
        (policy.updateMode stats runtime) := by
  unfold updateMode
  split_ifs with recovering waits bootstrap
  · exact Or.inr (.keeps ⟨⟨rfl, rfl, rfl⟩, id, rfl⟩)
  · exact Or.inr (.keeps ⟨⟨rfl, rfl, rfl⟩, id, rfl⟩)
  · unfold updateBootstrap
    split
    · exact Or.inr (.keeps ⟨⟨rfl, rfl, rfl⟩, fun _ => bootstrap, rfl⟩)
    · exact Or.inr (.keeps ⟨⟨rfl, rfl, rfl⟩, id, rfl⟩)
  · unfold selectMode
    dsimp only
    split
    · next enter tiles =>
      exact Or.inl ⟨enter, Bool.not_eq_true _ ▸ bootstrap, tiles, rfl⟩
    · exact Or.inr ((chooseMode_selects policy.countCooldown.forgetPlannedResume
        stats runtime _).of_counted ⟨⟨rfl, rfl, rfl⟩, id, rfl⟩)
    · exact Or.inr ((chooseMode_selects policy.countCooldown stats runtime
        _).of_counted ⟨⟨rfl, rfl, rfl⟩, id, rfl⟩)

theorem Selects.updateMode_keepsDebt {targets : StreamMode → Prop}
    {policy : StreamPolicy} {stats : TickStats} {runtime : VideoRuntime}
    (selects : Selects targets policy (policy.updateMode stats runtime))
    (wellFormed : policy.WellFormed) :
    KeepsDebt policy (policy.updateMode stats runtime) := by
  by_cases recovering : policy.streamMode = .tileRecovery
  · rw [updateMode, if_pos recovering]
    exact SameDebt.keepsDebt ⟨rfl, rfl, rfl⟩
  · exact selects.keepsDebt wellFormed recovering

structure SameOptions (policy policy' : StreamPolicy) : Prop where
  videoMode : policy'.videoMode = policy.videoMode
  bootstrap : policy'.videoBootstrapPending = policy.videoBootstrapPending

theorem SameOptions.trans {policy policy' policy'' : StreamPolicy}
    (first : SameOptions policy policy')
    (second : SameOptions policy' policy'') : SameOptions policy policy'' :=
  ⟨second.videoMode.trans first.videoMode,
    second.bootstrap.trans first.bootstrap⟩

theorem setMode_sameOptions (policy : StreamPolicy) (mode : StreamMode)
    (recoveryClass : VideoRecoveryClass) :
    SameOptions policy (policy.setMode mode recoveryClass) := by
  unfold setMode
  split <;> exact ⟨rfl, rfl⟩

theorem noteRecoveryTimeout_sameOptions (policy : StreamPolicy)
    (action : TileRecoveryAction) :
    SameOptions policy (policy.noteRecoveryTimeout action) := by
  unfold noteRecoveryTimeout
  split <;> exact ⟨rfl, rfl⟩

/-- The mode selection never brings video to the display. -/
def KeepsOwner (policy policy' : StreamPolicy) : Prop :=
  policy'.streamMode = policy.streamMode ∨
    policy'.streamMode.videoOwnsDisplay = false

theorem updateMode_keepsOwner (policy : StreamPolicy) (stats : TickStats)
    (runtime : VideoRuntime) :
    KeepsOwner policy (policy.updateMode stats runtime) := by
  rcases updateMode_cases policy stats runtime with
    ⟨-, -, -, resumes⟩ | selects
  · rw [resumes]
    exact Or.inr (by simp [resumePlannedVideo, StreamMode.videoOwnsDisplay])
  · exact selects.streamMode.imp_right And.left

theorem updateMode_of_tiles (tiles : policy.streamMode = .tiles)
    (stats : TickStats) (runtime : VideoRuntime) :
    (policy.updateMode stats runtime).streamMode ≠ .tileRecovery := by
  intro recovers
  rcases updateMode_cases policy stats runtime with
    ⟨-, -, -, resumes⟩ | selects
  · simp [resumes, resumePlannedVideo] at recovers
  · rcases selects.streamMode with same | chosen
    · exact absurd (recovers.symm.trans (same.trans tiles)) (by decide)
    · exact chosen.2 recovers tiles

/-! ## The tick -/

/-- The tick lets the client's statistics alone hand the display to video. -/
def HandsToVideo (policy : StreamPolicy) (stats : TickStats) : Prop :=
  policy.streamMode = .videoReady ∧
    asksForVideoRecovery ((policy.noteWindow stats).clientVideoHealth stats)

instance (policy : StreamPolicy) (stats : TickStats) :
    Decidable (policy.HandsToVideo stats) := by
  unfold HandsToVideo
  infer_instance

variable {stats : TickStats}

theorem tick_keepsOwner
    (owns : (policy.tick stats runtime).streamMode.videoOwnsDisplay = true)
    (asksNot : ¬ policy.HandsToVideo stats) :
    policy.streamMode.videoOwnsDisplay = true := by
  have owns' : (policy.updateHealth stats).streamMode.videoOwnsDisplay = true := by
    rcases updateMode_keepsOwner (policy.updateHealth stats) stats runtime with
      same | notOwns
    · exact same ▸ owns
    · exact absurd (owns.symm.trans notOwns) (by decide)
  have moved := updateHealth_healthMove policy stats
  generalize (policy.updateHealth stats).streamMode = mode' at owns' moved
  generalize hmode : policy.streamMode = mode at moved
  cases moved with
  | stay => exact owns'
  | fallBack => exact absurd owns' (by decide)
  | recovered => exact absurd owns' (by decide)
  | inVideo owns'' => exact owns''
  | asked asks => exact absurd ⟨hmode, asks⟩ asksNot

theorem setMode_planned {policy : StreamPolicy} {mode : StreamMode}
    {recoveryClass : VideoRecoveryClass}
    (planned : (policy.setMode mode recoveryClass).plannedRecoveryResumeVideo =
      true) : policy.plannedRecoveryResumeVideo = true := by
  unfold setMode at planned
  split at planned
  · exact planned
  · simp only [changeMode, Bool.and_eq_true] at planned
    exact planned.1

theorem finishTileRecovery_planned {policy : StreamPolicy}
    {action : TileRecoveryAction}
    (planned : (policy.finishTileRecovery action).plannedRecoveryResumeVideo =
      true) :
    policy.plannedRecoveryResumeVideo = true ∧ action ≠ .completeTimeout := by
  unfold finishTileRecovery at planned
  have requested := setMode_planned planned
  have planned' : ((policy.startRetryCooldown action).noteRecoveryTimeout
      action).plannedRecoveryResumeVideo = true := requested
  unfold noteRecoveryTimeout at planned'
  split at planned'
  · exact absurd planned' (by simp [forgetPlannedResume])
  · next notTimeout => exact ⟨planned', notTimeout⟩

theorem finishTileRecovery_sameOptions (policy : StreamPolicy)
    (action : TileRecoveryAction) :
    SameOptions policy (policy.finishTileRecovery action) := by
  have noted := noteRecoveryTimeout_sameOptions
    (policy.startRetryCooldown action) action
  have requested : SameOptions policy ((policy.startRetryCooldown
      action).noteRecoveryTimeout action).requestDeferred :=
    ⟨noted.videoMode, noted.bootstrap⟩
  exact requested.trans (setMode_sameOptions _ _ _)

theorem resumesPlanned_of_updateHealth
    (enter : (policy.updateHealth stats).plannedResumeAction runtime = .enter)
    (bootstrap : (policy.updateHealth stats).videoBootstrapPending = false)
    (tiles : (policy.updateHealth stats).streamMode = .tiles) :
    policy.ResumesPlanned stats runtime := by
  obtain ⟨planned, allowed⟩ := plannedResumeAction_enter enter
  have moved := updateHealth_healthMove policy stats
  rw [tiles] at moved
  generalize hmode : policy.streamMode = mode at moved
  cases moved with
  | stay =>
      simp only [updateHealth, hmode, StreamMode.usesVideoFrames, reduceCtorEq,
        if_false] at planned allowed bootstrap
      exact ⟨planned, allowed, bootstrap, Or.inl hmode⟩
  | inVideo _ owns' => exact absurd owns' (by decide)
  | recovered =>
      rw [updateHealth_of_tileRecovery hmode] at planned allowed bootstrap tiles
      unfold updateTileRecovery at planned allowed bootstrap tiles
      split_ifs at planned allowed bootstrap tiles with acts
      · obtain ⟨planned', notTimeout⟩ := finishTileRecovery_planned planned
        have same := finishTileRecovery_sameOptions (policy.noteWindow stats)
          ((policy.noteWindow stats).tileRecoveryAction stats)
        refine ⟨planned', ?_, same.bootstrap.symm.trans bootstrap,
          Or.inr ⟨hmode, ?_⟩⟩
        · exact same.videoMode ▸ allowed
        · change (policy.noteWindow stats).tileRecoveryAction stats = _
          cases action : (policy.noteWindow stats).tileRecoveryAction stats with
          | wait => exact absurd action acts
          | completePresented => rfl
          | completeTimeout => exact absurd action notTimeout
      · exact absurd (hmode.symm.trans tiles) (by decide)

theorem resumePlannedVideo_deferred (policy : StreamPolicy) :
    policy.resumePlannedVideo.tileRecoveryLiveDamageDeferred = false := by
  unfold resumePlannedVideo setMode
  split <;> rfl

theorem tick_settled {policy : StreamPolicy} {stats : TickStats}
    {runtime : VideoRuntime} (wellFormed : policy.WellFormed)
    (deferred : (policy.tick stats
      runtime).tileRecoveryLiveDamageDeferred = true) :
    policy.tileRecoveryLiveDamageDeferred = true ∧
      (policy.tick stats runtime).streamMode = policy.streamMode := by
  have health := updateHealth_keepsDebt wellFormed stats
  rcases updateMode_cases (policy.updateHealth stats) stats runtime with
    ⟨-, -, -, resumes⟩ | selects
  · rw [tick, resumes, resumePlannedVideo_deferred] at deferred
    exact absurd deferred (by decide)
  · exact (health.trans (selects.updateMode_keepsDebt
      (health.wellFormed wellFormed))).settled deferred

/-- A refresh is pending, or will be when the recovery has ended. -/
def Indebted (policy : StreamPolicy) : Prop :=
  policy.tileRefreshPending = true ∨
    policy.tileRecoveryLiveDamageDeferred = true

instance (policy : StreamPolicy) : Decidable policy.Indebted := by
  unfold Indebted
  infer_instance

theorem tick_keepsDebt (wellFormed : policy.WellFormed)
    (remembers : ¬ (policy.ResumesPlanned stats runtime ∧ policy.Indebted)) :
    KeepsDebt policy (policy.tick stats runtime) := by
  by_cases resumes : policy.ResumesPlanned stats runtime
  · have clear := fun indebted => remembers ⟨resumes, indebted⟩
    refine ⟨fun pending => absurd (Or.inl pending) clear,
      fun deferred => absurd (Or.inr deferred) clear, tick_settled wellFormed,
      fun owns => ?_⟩
    rcases resumes.2.2.2 with tiles | ⟨recovering, -⟩
    · rw [tiles] at owns
      exact absurd owns (by decide)
    · rw [recovering] at owns
      exact absurd owns (by decide)
  · have health := updateHealth_keepsDebt wellFormed stats
    rcases updateMode_cases (policy.updateHealth stats) stats runtime with
      ⟨enter, bootstrap, tiles, -⟩ | selects
    · exact absurd (resumesPlanned_of_updateHealth enter bootstrap tiles) resumes
    · exact health.trans (selects.updateMode_keepsDebt
        (health.wellFormed wellFormed))

/-! ## Without a video channel -/

theorem allowsEntry_of_closed (closed : runtime.channelConnected = false)
    (mode : VideoMode) :
    runtime.allowsEntry mode = false := by
  simp [VideoRuntime.allowsEntry, videoControlAllowsEntry, closed]

theorem leaveVideo_tiles (tiles : policy.streamMode = .tiles) :
    policy.leaveVideo.streamMode = .tiles := by
  simp [leaveVideo, tiles, StreamMode.videoOwnsDisplay]

theorem chooseMode_tiles_of_closed (tiles : policy.streamMode = .tiles)
    (closed : runtime.channelConnected = false) (stats : TickStats)
    (cooldownActive : Bool) :
    (policy.chooseMode stats runtime cooldownActive).streamMode = .tiles := by
  unfold chooseMode
  rw [if_pos (Or.inr (by simp [allowsEntry_of_closed closed]))]
  exact leaveVideo_tiles tiles

theorem selectMode_tiles_of_closed (tiles : policy.streamMode = .tiles)
    (closed : runtime.channelConnected = false) (stats : TickStats) :
    (policy.selectMode stats runtime).streamMode = .tiles := by
  unfold selectMode
  dsimp only
  split
  · next enter _ =>
    have allowed := (plannedResumeAction_enter enter).2
    rw [allowsEntry_of_closed closed] at allowed
    exact absurd allowed (by decide)
  · have counted : policy.countCooldown.forgetPlannedResume.streamMode = .tiles :=
      tiles
    exact chooseMode_tiles_of_closed counted closed stats _
  · have counted : policy.countCooldown.streamMode = .tiles := tiles
    exact chooseMode_tiles_of_closed counted closed stats _

theorem tick_tiles_of_closed (tiles : policy.streamMode = .tiles)
    (closed : runtime.channelConnected = false) (stats : TickStats) :
    (policy.tick stats runtime).streamMode = .tiles := by
  have health : policy.updateHealth stats = policy.noteWindow stats := by
    simp [updateHealth, tiles, StreamMode.usesVideoFrames]
  have noted : (policy.noteWindow stats).streamMode = .tiles := tiles
  rw [tick, health]
  unfold updateMode updateBootstrap
  split_ifs
  · exact noted
  · exact noted
  · exact noted
  · exact noted
  · exact selectMode_tiles_of_closed noted closed stats

/-! ## The bootstrap -/

theorem updateTileRecovery_sameOptions (policy : StreamPolicy)
    (stats : TickStats) :
    SameOptions policy (policy.updateTileRecovery stats) := by
  unfold updateTileRecovery
  split_ifs
  · have finished := finishTileRecovery_sameOptions policy
      (policy.tileRecoveryAction stats)
    exact ⟨finished.videoMode, finished.bootstrap⟩
  · exact ⟨rfl, rfl⟩

theorem updateHealth_bootstrap
    (pending : (policy.updateHealth stats).videoBootstrapPending = true) :
    policy.videoBootstrapPending = true := by
  by_cases recovering : policy.streamMode = .tileRecovery
  · rw [updateHealth_of_tileRecovery recovering,
      (updateTileRecovery_sameOptions _ stats).bootstrap] at pending
    exact pending
  · exact (updateHealth_selects recovering stats).bootstrap pending

theorem bootstrapPending_of_tick
    (pending : (policy.tick stats runtime).videoBootstrapPending = true) :
    policy.videoBootstrapPending = true := by
  rw [tick] at pending
  refine @updateHealth_bootstrap policy stats ?_
  generalize policy.updateHealth stats = noted at pending ⊢
  rcases updateMode_cases noted stats runtime with
    ⟨-, -, -, resumes⟩ | selects
  · rw [resumes, resumePlannedVideo, setMode_bootstrap] at pending
    exact pending
  · exact selects.bootstrap pending

theorem tick_of_bootstrapPending (pending : policy.videoBootstrapPending = true)
    (tiles : policy.streamMode = .tiles) (stats : TickStats)
    (runtime : VideoRuntime) :
    (policy.tick stats runtime).streamMode = .tiles ∧
      (policy.tick stats runtime).videoBootstrapPending =
        !policy.bootstrapPresented stats := by
  have health : policy.updateHealth stats = policy.noteWindow stats := by
    simp [updateHealth, tiles, StreamMode.usesVideoFrames]
  have elsewhere : (policy.noteWindow stats).streamMode = .tiles := tiles
  have pending' : (policy.noteWindow stats).videoBootstrapPending = true :=
    pending
  have ticks : policy.tick stats runtime =
      (policy.noteWindow stats).updateBootstrap stats := by
    rw [tick, health, updateMode, elsewhere, if_neg (by decide),
      if_neg (by simp [videoAutoModeWaitForRecovery]), if_pos pending']
  have presents : (policy.noteWindow stats).bootstrapPresented stats =
      policy.bootstrapPresented stats := rfl
  rw [ticks, updateBootstrap, presents]
  cases policy.bootstrapPresented stats with
  | true => exact ⟨tiles, rfl⟩
  | false => exact ⟨tiles, pending⟩

end StreamPolicy

end WayDisplay.Server
