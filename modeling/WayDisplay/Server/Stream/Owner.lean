import WayDisplay.Foundation.EpochLedger
import WayDisplay.Server.ModeTransitions
import WayDisplay.Server.Stream.WorkerSteps

/-!
Who owns the display, and in which content epoch.

Tiles and video own the display in turn.  The model's states map to ledgers of
the epoch library: the first party labels tile packets, the second labels video
frames.  Each event makes at most one move of the library.
-/

namespace WayDisplay.Server

open Common Foundation

/-! ## Jobs -/

/--
A job of the current epoch was published under the current owner, and it enters
video exactly when tiles own the display.
-/
structure VideoWorkerJob.Fits (job : VideoWorkerJob) (net : NetState) : Prop where
  source_le : job.sourceContentEpoch ≤ net.contentEpoch
  entry : job.sourceContentEpoch = net.contentEpoch →
    job.firstVideoEntry = !net.videoOwnsDisplay
  keyframe : job.firstVideoEntry = true → job.requestKeyframe = true

namespace NetState

structure JobsFit (net : NetState) : Prop where
  pending : ∀ job, net.pendingJob = some job → job.Fits net
  active : ∀ job, net.activeJob = some job → job.Fits net

/-- Without a client the display shows tiles, and there is no video channel. -/
def Closed (net : NetState) : Prop :=
  net.clientConnected = false →
    net.streamPolicy.streamMode = .tiles ∧ net.videoTcpFd = none

/-- What an event does to the owner, the epoch and the jobs. -/
structure Advances (net net' : NetState) : Prop where
  later : net.contentEpoch ≤ net'.contentEpoch
  change : net'.videoOwnsDisplay ≠ net.videoOwnsDisplay →
    net.contentEpoch < net'.contentEpoch
  pending : ∀ job, net'.pendingJob = some job →
    net.pendingJob = some job ∨ job.Fits net'
  active : ∀ job, net'.activeJob = some job →
    net.activeJob = some job ∨ net.pendingJob = some job
  closed : net'.Closed

structure Withholds (net net' : NetState) : Prop extends Advances net net' where
  keeps : net'.videoOwnsDisplay = true → net.videoOwnsDisplay = true

variable {net net' : NetState}

theorem Advances.fits (advances : Advances net net') {job : VideoWorkerJob}
    (fits : job.Fits net) : job.Fits net' := by
  refine ⟨fits.source_le.trans advances.later, ?_, fits.keyframe⟩
  intro current
  have same : net'.contentEpoch = net.contentEpoch :=
    le_antisymm (current ▸ fits.source_le) advances.later
  have owner : net'.videoOwnsDisplay = net.videoOwnsDisplay := by
    by_contra changed
    exact absurd (advances.change changed) (same ▸ lt_irrefl _)
  rw [owner]
  exact fits.entry (current.trans same)

theorem Advances.jobsFit (advances : Advances net net') (fit : net.JobsFit) :
    net'.JobsFit := by
  constructor
  · intro job present
    rcases advances.pending job present with kept | fits
    · exact advances.fits (fit.pending job kept)
    · exact fits
  · intro job present
    rcases advances.active job present with kept | taken
    · exact advances.fits (fit.active job kept)
    · exact advances.fits (fit.pending job taken)

structure SameOwner (net net' : NetState) : Prop where
  phase : net'.sessionPhase = net.sessionPhase
  epoch : net'.contentEpoch = net.contentEpoch
  mode : net'.streamPolicy.streamMode = net.streamPolicy.streamMode
  fd : net'.videoTcpFd = net.videoTcpFd
  pending : net'.pendingJob = net.pendingJob
  active : net'.activeJob = net.activeJob

theorem SameOwner.refl (net : NetState) : SameOwner net net :=
  ⟨rfl, rfl, rfl, rfl, rfl, rfl⟩

variable {net net' net'' : NetState}

theorem SameOwner.trans (first : SameOwner net net')
    (second : SameOwner net' net'') :
    SameOwner net net'' :=
  ⟨second.phase.trans first.phase, second.epoch.trans first.epoch,
    second.mode.trans first.mode, second.fd.trans first.fd,
    second.pending.trans first.pending, second.active.trans first.active⟩

theorem SameOwner.owner (same : SameOwner net net') :
    net'.videoOwnsDisplay = net.videoOwnsDisplay := by
  rw [videoOwnsDisplay, videoOwnsDisplay, same.mode]

theorem SameOwner.closed (same : SameOwner net net') (closed : net.Closed) :
    net'.Closed := by
  intro disconnected
  have := closed (by rw [← disconnected, clientConnected, clientConnected,
    same.phase])
  rw [same.mode, same.fd]
  exact this

theorem SameOwner.withholds (same : SameOwner net net') (closed : net.Closed) :
    Withholds net net' where
  later := same.epoch.symm.le
  change := fun changed => absurd same.owner changed
  pending := fun _ present => Or.inl (same.pending ▸ present)
  active := fun _ present => Or.inl (same.active ▸ present)
  closed := same.closed closed
  keeps := fun owns => same.owner ▸ owns

theorem SameOwner.trans_withholds (same : SameOwner net net')
    (advances : Withholds net' net'') :
    Withholds net net'' where
  later := same.epoch ▸ advances.later
  change := fun changed => same.epoch ▸ advances.change (same.owner ▸ changed)
  pending := fun job present => same.pending ▸ advances.pending job present
  active := fun job present => by
    rw [← same.active, ← same.pending]
    exact advances.active job present
  closed := advances.closed
  keeps := fun owns => same.owner ▸ advances.keeps owns

theorem Withholds.trans_same (advances : Withholds net net')
    (same : SameOwner net' net'') :
    Withholds net net'' where
  later := same.epoch ▸ advances.later
  change := fun changed => same.epoch ▸ advances.change (same.owner ▸ changed)
  pending := by
    intro job present
    rcases advances.pending job (same.pending ▸ present) with kept | fits
    · exact Or.inl kept
    · exact Or.inr ⟨same.epoch ▸ fits.source_le, by
        rw [same.epoch, same.owner]
        exact fits.entry, fits.keyframe⟩
  active := fun job present => advances.active job (same.active ▸ present)
  closed := same.closed advances.closed
  keeps := fun owns => advances.keeps (same.owner ▸ owns)

/-! ## What each section does -/

theorem mapTiles_sameOwner (net : NetState)
    (update : Nat → TileState → TileState) :
    SameOwner net (net.mapTiles update) :=
  ⟨rfl, rfl, rfl, rfl, rfl, rfl⟩

theorem withPolicy_sameOwner {net : NetState} {policy : StreamPolicy}
    (mode : policy.streamMode = net.streamPolicy.streamMode) :
    SameOwner net (net.withPolicy policy) :=
  ⟨rfl, rfl, mode, rfl, rfl, rfl⟩

theorem Advances.of_lt (later : net.contentEpoch < net'.contentEpoch)
    (pending : ∀ job, net'.pendingJob = some job → net.pendingJob = some job)
    (active : net'.activeJob = net.activeJob) (closed : net'.Closed) :
    Advances net net' where
  later := later.le
  change := fun _ => later
  pending := fun job present => Or.inl (pending job present)
  active := fun _ present => Or.inl (active ▸ present)
  closed := closed

theorem publishVideoSnapshot_withholds {net : NetState} (closed : net.Closed)
    (snapshotReady sendPending : Bool) :
    Withholds net (net.publishVideoSnapshot snapshotReady sendPending) := by
  unfold publishVideoSnapshot
  split
  · exact (SameOwner.refl net).withholds closed
  · split_ifs with publishes
    · simp only [Bool.and_eq_true] at publishes
      have uses := publishes.1.1.2
      refine ⟨⟨le_rfl, fun changed => absurd rfl changed, ?_,
        fun _ present => Or.inl present, closed⟩, id⟩
      rintro job present
      cases present
      refine Or.inr ⟨le_rfl, fun _ => ?_, fun first =>
        Bool.or_eq_true_iff.mpr (Or.inl first)⟩
      -- Of the modes that send frames, only the ready one is the tiles'.
      change (_ == StreamMode.videoReady) =
        !net.streamPolicy.streamMode.videoOwnsDisplay
      cases mode : net.streamPolicy.streamMode <;>
        simp [mode, StreamMode.usesVideoFrames] at uses <;> rfl
    · exact (SameOwner.refl net).withholds closed

theorem publishVideoSnapshot_rest (net : NetState)
    (snapshotReady sendPending : Bool) :
    (net.publishVideoSnapshot snapshotReady sendPending).streamPolicy =
        net.streamPolicy ∧
      (net.publishVideoSnapshot snapshotReady sendPending).sessionPhase =
        net.sessionPhase ∧
      (net.publishVideoSnapshot snapshotReady sendPending).configUpdatePending =
        net.configUpdatePending ∧
      (net.publishVideoSnapshot snapshotReady sendPending).tiles =
        net.tiles := by
  unfold publishVideoSnapshot
  split
  · exact ⟨rfl, rfl, rfl, rfl⟩
  · split_ifs <;> exact ⟨rfl, rfl, rfl, rfl⟩

theorem takeVideoJob_withholds {net : NetState} (closed : net.Closed) :
    Withholds net net.takeVideoJob := by
  unfold takeVideoJob
  split
  · next waiting =>
    refine ⟨⟨le_rfl, fun changed => absurd rfl changed, fun job present => ?_,
      fun job present => Or.inr ?_, closed⟩, id⟩
    · cases present
    · exact waiting.trans present
  · exact (SameOwner.refl net).withholds closed

end NetState

namespace StreamPolicy

theorem planResume_streamMode (policy : StreamPolicy) (connected resize : Bool) :
    (policy.planResume connected resize).streamMode = policy.streamMode := by
  unfold planResume
  split_ifs <;> rfl

theorem restartPlannedRecovery_streamMode (policy : StreamPolicy)
    (resize : Bool) :
    (policy.restartPlannedRecovery resize).streamMode = policy.streamMode := by
  unfold restartPlannedRecovery
  split_ifs <;> rfl

theorem resetVideo_streamMode (policy : StreamPolicy) (connected resize : Bool) :
    (policy.resetVideo connected resize).streamMode =
      if policy.streamMode ≠ .tiles ∧ connected then .tileRecovery
      else .tiles := by
  unfold resetVideo
  by_cases tiles : policy.streamMode = .tiles
  · simp [tiles, planResume_streamMode, clearModeCounters]
  · cases connected <;> simp [tiles]

theorem resetVideo_notOwns (policy : StreamPolicy) (connected resize : Bool) :
    (policy.resetVideo connected resize).streamMode.videoOwnsDisplay =
      false := by
  rw [resetVideo_streamMode]
  split_ifs <;> rfl

@[simp]
theorem noteBootstrapSent_streamMode (policy : StreamPolicy)
    (queuesEmpty : Bool) :
    (policy.noteBootstrapSent queuesEmpty).streamMode = policy.streamMode := by
  unfold noteBootstrapSent
  split_ifs <;> rfl

theorem beginSession_eq {policy : StreamPolicy} {hello : ClientHello}
    {epoch : Nat}
    (video : (policy.beginSession hello epoch).streamMode ≠ .tiles) :
    policy.beginSession hello epoch = policy := by
  unfold beginSession at video ⊢
  split_ifs at video ⊢
  · rfl
  · exact absurd rfl video

end StreamPolicy

namespace NetState

theorem resetVideo_contentEpoch (net : NetState) (resize : Bool) :
    (net.resetVideo resize).contentEpoch =
      if resize || net.videoOwnsDisplay then net.contentEpoch + 1
      else net.contentEpoch := by
  unfold resetVideo
  dsimp only
  split_ifs <;> rfl

theorem resetVideo_notOwns (net : NetState) (resize : Bool) :
    (net.resetVideo resize).videoOwnsDisplay = false :=
  net.streamPolicy.resetVideo_notOwns _ _

theorem resetVideo_rest (net : NetState) (resize : Bool) :
    (net.resetVideo resize).sessionPhase = net.sessionPhase ∧
      (net.resetVideo resize).videoTcpFd = net.videoTcpFd ∧
      (net.resetVideo resize).pendingJob = none ∧
      (net.resetVideo resize).activeJob = net.activeJob := by
  unfold resetVideo
  dsimp only
  split_ifs <;> exact ⟨rfl, rfl, rfl, rfl⟩

theorem resetVideo_tiles (net : NetState) (resize : Bool) :
    (net.resetVideo resize).tiles = net.tiles := by
  unfold resetVideo
  dsimp only
  split_ifs <;> rfl

variable {net : NetState}

theorem resetVideo_closed
    (channel : net.clientConnected = false → net.videoTcpFd = none)
    (resize : Bool) : (net.resetVideo resize).Closed := by
  obtain ⟨phase, fd, -, -⟩ := net.resetVideo_rest resize
  intro disconnected
  replace disconnected : net.clientConnected = false := by
    rw [← disconnected, clientConnected, clientConnected, phase]
  refine ⟨?_, fd.trans (channel disconnected)⟩
  change (net.streamPolicy.resetVideo _ _).streamMode = _
  rw [StreamPolicy.resetVideo_streamMode, disconnected]
  simp

theorem resetVideo_withholds
    (channel : net.clientConnected = false → net.videoTcpFd = none)
    (resize : Bool) : Withholds net (net.resetVideo resize) := by
  obtain ⟨-, -, pending, active⟩ := net.resetVideo_rest resize
  refine ⟨⟨?_, ?_, ?_, fun _ present => Or.inl (active ▸ present),
    resetVideo_closed channel resize⟩, fun owns =>
      absurd ((net.resetVideo_notOwns resize).symm.trans owns) (by simp)⟩
  · rw [resetVideo_contentEpoch]
    split_ifs <;> omega
  · intro changed
    have owned : net.videoOwnsDisplay = true := by
      rw [resetVideo_notOwns] at changed
      simpa using changed.symm
    simp [resetVideo_contentEpoch, owned]
  · intro job present
    rw [pending] at present
    cases present

theorem noteOwnerChange_streamMode (net : NetState) (ownedBefore : Bool) :
    (net.noteOwnerChange ownedBefore).streamPolicy.streamMode =
      net.streamPolicy.streamMode := by
  unfold noteOwnerChange
  split_ifs <;> rfl

theorem tick_streamMode (net : NetState) (stats : TickStats) :
    (net.tick stats).streamPolicy.streamMode =
      (net.streamPolicy.tick stats net.videoRuntime).streamMode :=
  noteOwnerChange_streamMode _ _

theorem tick_contentEpoch (net : NetState) (stats : TickStats) :
    (net.tick stats).contentEpoch =
      if net.videoOwnsDisplay = (net.tick stats).videoOwnsDisplay then
        net.contentEpoch
      else net.contentEpoch + 1 := by
  have owner : (net.tick stats).videoOwnsDisplay = (net.withPolicy
      (net.streamPolicy.tick stats net.videoRuntime)).videoOwnsDisplay := by
    rw [videoOwnsDisplay, tick_streamMode]
    rfl
  rw [owner, tick, noteOwnerChange]
  split_ifs <;> rfl

theorem tick_rest (net : NetState) (stats : TickStats) :
    (net.tick stats).sessionPhase = net.sessionPhase ∧
      (net.tick stats).videoTcpFd = net.videoTcpFd ∧
      (net.tick stats).pendingJob = net.pendingJob ∧
      (net.tick stats).activeJob = net.activeJob := by
  unfold tick noteOwnerChange
  split_ifs <;> exact ⟨rfl, rfl, rfl, rfl⟩

theorem tick_closed (closed : net.Closed) (stats : TickStats) :
    (net.tick stats).Closed := by
  obtain ⟨phase, fd, -, -⟩ := net.tick_rest stats
  intro disconnected
  obtain ⟨tiles, noChannel⟩ := closed (by
    rw [← disconnected, clientConnected, clientConnected, phase])
  refine ⟨?_, fd.trans noChannel⟩
  rw [tick_streamMode]
  exact StreamPolicy.tick_tiles_of_closed tiles
    (by simp [videoRuntime, noChannel]) stats

theorem tick_advances (closed : net.Closed) (stats : TickStats) :
    Advances net (net.tick stats) := by
  obtain ⟨-, -, pending, active⟩ := net.tick_rest stats
  refine ⟨?_, ?_, fun _ present => Or.inl (pending ▸ present),
    fun _ present => Or.inl (active ▸ present), tick_closed closed stats⟩
  · rw [tick_contentEpoch]
    split_ifs <;> omega
  · intro changed
    rw [tick_contentEpoch, if_neg (Ne.symm changed)]
    exact Nat.lt_succ_self _

end NetState

/-! ## Sections that send nothing -/

namespace ServerState

structure Quiet (s s' : ServerState) : Prop where
  net : s.net.Withholds s'.net
  packets : s'.trace.tilePackets = s.trace.tilePackets
  frames : s'.trace.videoFrames = s.trace.videoFrames

theorem Quiet.of_net {s s' : ServerState} (closed : s.net.Closed)
    (net : s'.net = s.net)
    (packets : s'.trace.tilePackets = s.trace.tilePackets)
    (frames : s'.trace.videoFrames = s.trace.videoFrames) : Quiet s s' :=
  ⟨net ▸ (NetState.SameOwner.refl s.net).withholds closed, packets, frames⟩

variable {s : ServerState}

theorem Quiet.refl (closed : s.net.Closed) : Quiet s s :=
  .of_net closed rfl rfl rfl

theorem applyAnalysis_quiet (closed : s.net.Closed) (analysis : FrameAnalysis)
    (input : PassInput) :
    Quiet s (s.applyAnalysis analysis input) := by
  have applied : s.net.SameOwner (s.net.applyFrameAnalysis s.geometry
      (analysis.changedTiles.getD fun _ => false)) :=
    s.net.mapTiles_sameOwner _
  exact ⟨applied.trans_withholds (NetState.publishVideoSnapshot_withholds
    (applied.closed closed) _ _), rfl, rfl⟩

theorem serveTiles_quiet (closed : s.net.Closed)
    (analysis : Option FrameAnalysis) (input : PassInput)
    (refreshStarted : Bool) :
    Quiet s (s.serveTiles analysis input refreshStarted) := by
  unfold serveTiles
  cases analysis with
  | none => exact .of_net closed rfl rfl rfl
  | some analysis =>
      dsimp only
      split_ifs
      · have deferred : s.net.SameOwner s.deferDamage.net :=
          ⟨rfl, rfl, rfl, rfl, rfl, rfl⟩
        exact ⟨deferred.withholds closed, rfl, rfl⟩
      · have applied := applyAnalysis_quiet closed analysis input
        exact ⟨applied.net, applied.packets, applied.frames⟩

theorem serve_quiet (closed : s.net.Closed) (analysis : Option FrameAnalysis)
    (input : PassInput) (refreshStarted : Bool) :
    Quiet s (s.serve analysis input refreshStarted) := by
  unfold serve serveVideo
  split_ifs
  · exact .of_net closed rfl rfl rfl
  · exact ⟨(NetState.publishVideoSnapshot_withholds closed _ _).trans_same
      (NetState.mapTiles_sameOwner _ _), rfl, rfl⟩
  · exact serveTiles_quiet closed analysis input refreshStarted

theorem startRefresh_sameOwner (s : ServerState) :
    s.net.SameOwner s.startRefresh.net :=
  (s.net.mapTiles_sameOwner _).trans (NetState.withPolicy_sameOwner rfl)

theorem openPass_quiet (closed : s.net.Closed) (analysis : Option FrameAnalysis)
    (input : PassInput) :
    Quiet s (s.openPass analysis input) := by
  unfold openPass
  split_ifs
  · exact .of_net closed rfl rfl rfl
  · exact .of_net closed rfl rfl rfl
  · have same := s.startRefresh_sameOwner
    have served := serve_quiet (same.closed closed) analysis input true
    exact ⟨same.trans_withholds served.net, served.packets, served.frames⟩
  · exact .of_net closed rfl rfl rfl
  · exact serve_quiet closed analysis input false

theorem beginPass_quiet (closed : s.net.Closed) (input : PassInput) :
    Quiet s (s.beginPass input) := by
  unfold beginPass
  split
  · exact openPass_quiet closed none input
  · exact openPass_quiet closed _ input
  · exact .refl closed

theorem SameStream.quiet {s' : ServerState} (same : SameStream s s')
    (closed : s.net.Closed) : Quiet s s' :=
  .of_net closed same.net same.packets same.frames

theorem Retiled.sameOwner {s' : ServerState} (retiled : Retiled s s') :
    s.net.SameOwner s'.net ∧ s'.trace = s.trace := by
  obtain ⟨tiles, deliveries, -⟩ := retiled
  exact ⟨⟨rfl, rfl, rfl, rfl, rfl, rfl⟩, rfl⟩

theorem Retiled.quiet {s' : ServerState} (retiled : Retiled s s')
    (closed : s.net.Closed) : Quiet s s' :=
  ⟨retiled.sameOwner.1.withholds closed,
    congrArg Trace.tilePackets retiled.sameOwner.2,
    congrArg Trace.videoFrames retiled.sameOwner.2⟩

theorem beginBatch_quiet (closed : s.net.Closed) (regions : List Nat) :
    Quiet s (s.beginBatch regions) := by
  unfold beginBatch startBatch
  split
  · split
    · next source _ =>
      have repairs := (s.supersedeRepairs_retiled source).quiet closed
      split <;> exact ⟨repairs.net, repairs.packets, repairs.frames⟩
    · exact .refl closed
  · exact .refl closed

theorem endPass_quiet (closed : s.net.Closed) (regionsIdle : Bool) :
    Quiet s (s.endPass regionsIdle) := by
  have closes (queuesEmpty : Bool) :
      s.net.SameOwner (s.closePass queuesEmpty).net ∧
        (s.closePass queuesEmpty).trace = s.trace := by
    unfold closePass
    dsimp only
    split
    all_goals
      exact ⟨NetState.withPolicy_sameOwner
        (StreamPolicy.noteBootstrapSent_streamMode _ queuesEmpty), rfl⟩
  unfold endPass
  split
  · obtain ⟨same, logs⟩ := closes (s.net.dirtyQueueEmpty s.geometry &&
      regionsIdle && s.net.retransmitQueueEmpty s.geometry)
    exact ⟨same.withholds closed, congrArg Trace.tilePackets logs,
      congrArg Trace.videoFrames logs⟩
  · exact .refl closed

/-! ## Sessions -/

theorem identifySession_quiet (closed : s.net.Closed) (connectionToken : Nat) :
    Quiet s (s.identifySession connectionToken) := by
  unfold identifySession
  split_ifs with phase
  · have disconnected : s.net.clientConnected = false := by
      simp [NetState.clientConnected, phase]
    exact ⟨⟨.of_lt (Nat.lt_succ_self _) (fun _ => id) rfl
      fun _ => closed disconnected, id⟩, rfl, rfl⟩
  · exact .refl closed

theorem beginSession_tiles {policy : StreamPolicy}
    (tiles : policy.streamMode = .tiles) (hello : ClientHello) (epoch : Nat) :
    (policy.beginSession hello epoch).streamMode = .tiles := by
  by_contra video
  rw [StreamPolicy.beginSession_eq video] at video
  exact video tiles

theorem configureSession_quiet (closed : s.net.Closed)
    (negotiation : Negotiation) : Quiet s (s.configureSession negotiation) := by
  unfold configureSession
  split_ifs with phase
  · obtain ⟨tiles, noChannel⟩ := closed (by
      simp [NetState.clientConnected, phase])
    have tiles' := beginSession_tiles tiles negotiation.hello s.net.contentEpoch
    have same : (s.net.configure negotiation).videoOwnsDisplay =
        s.net.videoOwnsDisplay := by
      rw [NetState.videoOwnsDisplay, NetState.videoOwnsDisplay, tiles]
      exact congrArg _ tiles'
    exact ⟨⟨⟨le_rfl, fun changed => absurd same changed, fun _ => Or.inl,
      fun _ => Or.inl, fun _ => ⟨tiles', noChannel⟩⟩, fun owns => same ▸ owns⟩,
      rfl, rfl⟩
  · exact .refl closed

theorem establishSession_quiet (closed : s.net.Closed) (videoTcpFd : Option Nat) :
    Quiet s (s.establishSession videoTcpFd) := by
  unfold establishSession
  split_ifs
  · have connected : (s.net.establish videoTcpFd).clientConnected = true := rfl
    exact ⟨⟨⟨le_rfl, fun changed => absurd rfl changed, fun _ => Or.inl,
      fun _ => Or.inl, fun disconnected =>
        absurd (connected.symm.trans disconnected) (by decide)⟩, id⟩, rfl, rfl⟩
  · exact .refl closed

theorem rollbackSession_quiet (closed : s.net.Closed) :
    Quiet s s.rollbackSession := by
  unfold rollbackSession
  split_ifs with phase
  · exact .refl closed
  · obtain ⟨tiles, noChannel⟩ := closed (by
      simp [NetState.clientConnected, phase])
    have same : s.net.rollback.videoOwnsDisplay = s.net.videoOwnsDisplay := by
      rw [NetState.videoOwnsDisplay, NetState.videoOwnsDisplay, tiles]
      rfl
    exact ⟨⟨⟨le_rfl, fun changed => absurd same changed, fun _ => Or.inl,
      fun _ => Or.inl, fun _ => ⟨rfl, noChannel⟩⟩, fun owns => same ▸ owns⟩,
      rfl, rfl⟩

theorem disconnectClient_quiet (closed : s.net.Closed) :
    Quiet s s.disconnectClient := by
  unfold disconnectClient
  split_ifs
  · have reset := NetState.resetVideo_withholds (fun _ => rfl :
      s.net.closeSession.clientConnected = false →
        s.net.closeSession.videoTcpFd = none) false
    obtain ⟨-, -, pending, active⟩ := s.net.closeSession.resetVideo_rest false
    refine ⟨⟨.of_lt (Nat.lt_of_lt_of_le (Nat.lt_succ_self _) reset.later) ?_
      active reset.closed, reset.keeps⟩, rfl, rfl⟩
    intro job present
    exact absurd (pending.symm.trans present) (by simp)
  · exact .refl closed

theorem applyConfig_quiet (closed : s.net.Closed) (configEpoch : Nat) :
    Quiet s (s.applyConfig configEpoch) := by
  have applied : s.net.SameOwner { s.net with configUpdatePending := false } :=
    ⟨rfl, rfl, rfl, rfl, rfl, rfl⟩
  unfold applyConfig
  split_ifs
  · exact ⟨applied.withholds closed, rfl, rfl⟩
  · exact .refl closed

theorem failVideoTransport_quiet (closed : s.net.Closed) :
    Quiet s s.failVideoTransport := by
  unfold failVideoTransport
  split_ifs
  · exact .refl closed
  · exact ⟨NetState.resetVideo_withholds (fun disconnected =>
      (closed disconnected).2) false, rfl, rfl⟩

theorem receiveVideoFeedback_quiet (closed : s.net.Closed)
    (contentEpoch sequence : Nat) (flags : VideoFeedbackFlags) :
    Quiet s (s.withNet
      (s.net.receiveVideoFeedback contentEpoch sequence flags)) := by
  unfold NetState.receiveVideoFeedback
  split_ifs
  · have noted : s.net.SameOwner (s.net.withPolicy
        (s.net.streamPolicy.noteFeedback sequence flags)) :=
      NetState.withPolicy_sameOwner rfl
    exact ⟨noted.withholds closed, rfl, rfl⟩
  · exact .refl closed

theorem acceptVideoChannel_quiet (closed : s.net.Closed) (fd : Nat) :
    Quiet s (s.withNet (s.net.acceptVideoChannel fd)) := by
  unfold NetState.acceptVideoChannel
  split_ifs with accepted
  · simp only [Bool.and_eq_true] at accepted
    exact ⟨⟨⟨le_rfl, fun changed => absurd rfl changed, fun _ => Or.inl,
      fun _ => Or.inl, fun disconnected =>
        absurd (accepted.1.1.symm.trans disconnected) (by decide)⟩, id⟩, rfl, rfl⟩
  · exact .refl closed

theorem closeVideoChannel_quiet (closed : s.net.Closed) :
    Quiet s (s.withNet s.net.closeVideoChannel) := by
  unfold NetState.closeVideoChannel
  split_ifs
  · have reset := NetState.resetVideo_withholds (fun _ => rfl :
      s.net.dropVideoChannel.clientConnected = false →
        s.net.dropVideoChannel.videoTcpFd = none) false
    exact ⟨⟨⟨reset.later, reset.change, reset.pending, reset.active,
      reset.closed⟩, reset.keeps⟩, rfl, rfl⟩
  · exact .refl closed

theorem applyDisplaySize_quiet (closed : s.net.Closed) (geometry : Geometry) :
    Quiet s (s.applyDisplaySize geometry) := by
  unfold applyDisplaySize
  split_ifs
  · exact .refl closed
  · have reset := NetState.resetVideo_withholds (fun disconnected =>
      (closed disconnected).2 : s.net.resize.clientConnected = false →
        s.net.resize.videoTcpFd = none) true
    have resized : s.net.SameOwner s.net.resize := ⟨rfl, rfl, rfl, rfl, rfl, rfl⟩
    exact ⟨(resized.trans_withholds reset).trans_same
      ⟨rfl, rfl, rfl, rfl, rfl, rfl⟩, rfl, rfl⟩

end ServerState

end WayDisplay.Server
