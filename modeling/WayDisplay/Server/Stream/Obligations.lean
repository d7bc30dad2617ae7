import WayDisplay.Server.Stream.Debts
import WayDisplay.Server.Stream.WorkerSteps

/-!
Changes that have not been sent.

The analysis of a frame updates the shadow before the send pass decides what to
do with the changes, so a change is remembered by whatever makes the server look
at the tile again: its dirty mark, a pending refresh, deferred damage, a request
to the compositor, an invalid shadow, the display's return from video, or the
session's next start.
-/

namespace WayDisplay.Server

open Common Foundation

/-! ## Analyses -/

namespace FrameAnalysis

def changes (analysis : Option FrameAnalysis) (tileId : Nat) : Bool :=
  match analysis with
  | some analysis => (analysis.changedTiles.getD fun _ => false) tileId
  | none => false

end FrameAnalysis

def WorkerPhase.analysis : WorkerPhase → Option FrameAnalysis
  | .analyzed analysis => some analysis
  | _ => none

/-- A frame is on its way to the comparison with the shadow. -/
def WorkerPhase.holdsFrame : WorkerPhase → Bool
  | .frameSubmitted _ | .forceRead _ _ | .diffing _ _ => true
  | _ => false

/-- The worker has no frame and no analysis. -/
def WorkerPhase.Settled (phase : WorkerPhase) : Prop :=
  phase.analysis = none ∧ phase.holdsFrame = false

/-! ## Debts of a session -/

namespace NetState

structure KeepsDebts (net net' : NetState) : Prop where
  wellFormed : net'.streamPolicy.WellFormed
  connected : net'.clientConnected = true → net.clientConnected = true
  policy : net'.clientConnected = true →
    net.streamPolicy.KeepsDebt net'.streamPolicy
  config : net'.clientConnected = true → net.configUpdatePending = true →
    net'.configUpdatePending = true

theorem KeepsDebts.refl {net : NetState}
    (wellFormed : net.streamPolicy.WellFormed) : KeepsDebts net net :=
  ⟨wellFormed, id, fun _ => .refl _, fun _ => id⟩

theorem KeepsDebts.of_offline {net net' : NetState}
    (wellFormed : net'.streamPolicy.WellFormed)
    (offline : net'.clientConnected = false) : KeepsDebts net net' :=
  ⟨wellFormed, fun online => absurd (online.symm.trans offline) (by simp),
    fun online => absurd (online.symm.trans offline) (by simp),
    fun online => absurd (online.symm.trans offline) (by simp)⟩

theorem KeepsDebts.of_policy {net net' : NetState}
    (wellFormed : net.streamPolicy.WellFormed)
    (policy : net.streamPolicy.KeepsDebt net'.streamPolicy)
    (phase : net'.sessionPhase = net.sessionPhase)
    (config : net'.configUpdatePending = net.configUpdatePending) :
    KeepsDebts net net' :=
  ⟨policy.wellFormed wellFormed, fun online => by
    rw [clientConnected, ← phase]
    exact online, fun _ => policy, fun _ pending => config.trans pending⟩

theorem KeepsDebts.of_same {net net' : NetState}
    (wellFormed : net.streamPolicy.WellFormed)
    (policy : net'.streamPolicy = net.streamPolicy)
    (phase : net'.sessionPhase = net.sessionPhase)
    (config : net'.configUpdatePending = net.configUpdatePending) :
    KeepsDebts net net' :=
  .of_policy wellFormed (policy ▸ .refl _) phase config

theorem resetVideo_keepsDebts {net : NetState}
    (wellFormed : net.streamPolicy.WellFormed) (resize : Bool) :
    KeepsDebts net (net.resetVideo resize) := by
  have phase := (net.resetVideo_rest resize).1
  have config : (net.resetVideo resize).configUpdatePending =
      net.configUpdatePending := by
    unfold resetVideo
    dsimp only
    split_ifs <;> rfl
  cases connected : net.clientConnected with
  | false =>
      refine .of_offline (StreamPolicy.resetVideo_wellFormed wellFormed _ _) ?_
      rw [clientConnected, phase]
      exact connected
  | true =>
      refine .of_policy wellFormed ?_ phase config
      change net.streamPolicy.KeepsDebt
        (net.streamPolicy.resetVideo net.clientConnected resize)
      rw [connected]
      exact StreamPolicy.resetVideo_keepsDebt wellFormed resize

/-- The tick does not resume video while the client is owed a refresh. -/
def TickRemembers (net : NetState) (stats : TickStats) : Prop :=
  ¬ (net.streamPolicy.ResumesPlanned stats net.videoRuntime ∧
    net.streamPolicy.Indebted)

instance (net : NetState) (stats : TickStats) :
    Decidable (net.TickRemembers stats) := by
  unfold TickRemembers
  infer_instance

theorem tick_keepsDebts {net : NetState} {stats : TickStats}
    (wellFormed : net.streamPolicy.WellFormed)
    (remembers : net.TickRemembers stats) :
    KeepsDebts net (net.tick stats) := by
  have ticked := StreamPolicy.tick_keepsDebt wellFormed remembers
  have noted : StreamPolicy.SameDebt
      (net.streamPolicy.tick stats net.videoRuntime)
      (net.tick stats).streamPolicy := by
    unfold tick noteOwnerChange
    split_ifs <;> exact ⟨rfl, rfl, rfl⟩
  refine .of_policy wellFormed (ticked.trans noted.keepsDebt)
    (net.tick_rest stats).1 ?_
  unfold tick noteOwnerChange
  split_ifs <;> rfl

end NetState

/-! ## What remembers a change -/

namespace ServerState

/-- All tiles are to be drawn, or a frame has yet to be compared. -/
def Redraws (s : ServerState) : Prop :=
  s.capture.damage.allTiles = true ∨ s.worker.holdsFrame = true

/-- Something outside the worker will make the server look at the tile again;
strictly, an invalid shadow does where a comparison is to come. -/
inductive Secured (s : ServerState) (strict : Prop) (tileId : Nat) : Prop
  | dirty (queued : (s.net.tiles tileId).dirtyQueued = true)
  | pending (pending : s.net.streamPolicy.tileRefreshPending = true)
  | deferred (deferred : s.net.streamPolicy.tileRecoveryLiveDamageDeferred = true)
  | requested (requested : s.fullRefreshRequested = true)
  | shadowInvalid (invalid : s.capture.shadowValid = false)
      (redraws : strict → s.Redraws)
  | videoOwns (owns : s.net.videoOwnsDisplay = true)
  | offline (offline : s.net.clientConnected = false)
  | reconfiguring (pending : s.net.configUpdatePending = true)

variable {strict : Prop}

theorem Secured.congr {s s' : ServerState} {tileId : Nat}
    (secured : s.Secured strict tileId)
    (dirty : (s.net.tiles tileId).dirtyQueued = true →
      (s'.net.tiles tileId).dirtyQueued = true)
    (policy : s'.net.streamPolicy = s.net.streamPolicy)
    (phase : s'.net.sessionPhase = s.net.sessionPhase)
    (config : s'.net.configUpdatePending = s.net.configUpdatePending)
    (requested : s.fullRefreshRequested = true → s'.fullRefreshRequested = true)
    (shadow : s.capture.shadowValid = false →
      s'.capture.shadowValid = false ∧ (strict → s.Redraws → s'.Redraws)) :
    s'.Secured strict tileId := by
  cases secured with
  | dirty queued => exact .dirty (dirty queued)
  | pending pending => exact .pending (policy ▸ pending)
  | deferred deferred => exact .deferred (policy ▸ deferred)
  | requested before => exact .requested (requested before)
  | shadowInvalid invalid redraws =>
      obtain ⟨invalid', later⟩ := shadow invalid
      exact .shadowInvalid invalid' fun strictly =>
        later strictly (redraws strictly)
  | videoOwns owns =>
      refine .videoOwns ?_
      rw [NetState.videoOwnsDisplay, policy]
      exact owns
  | offline offline =>
      refine .offline ?_
      rw [NetState.clientConnected, phase]
      exact offline
  | reconfiguring pending => exact .reconfiguring (config.trans pending)

structure Obliged (s : ServerState) (strict : Prop) : Prop where
  wellFormed : s.net.streamPolicy.WellFormed
  owed : s.trace.owed = true →
    s.net.clientConnected = true ∧ s.net.streamPolicy.Indebted
  full : FrameAnalysis.isFull s.worker.analysis = true →
    ∀ tileId < s.geometry.totalTiles,
      FrameAnalysis.changes s.worker.analysis tileId = true
  covered : ∀ tileId < s.geometry.totalTiles, s.trace.unsent tileId = true →
    s.Secured strict tileId ∨
      FrameAnalysis.changes s.worker.analysis tileId = true

structure Honours (s s' : ServerState) : Prop where
  net : s.net.KeepsDebts s'.net
  stays : s'.trace.owed = true → s.net.clientConnected = true →
    s'.net.clientConnected = true
  owed : s'.trace.owed = true → s.trace.owed = true
  unsent : ∀ tileId, s'.trace.unsent tileId = true →
    s.trace.unsent tileId = true
  dirty : ∀ tileId, s'.trace.unsent tileId = true →
    (s.net.tiles tileId).dirtyQueued = true →
      (s'.net.tiles tileId).dirtyQueued = true
  geometry : s'.geometry = s.geometry
  requested : s.fullRefreshRequested = true → s'.fullRefreshRequested = true
  shadow : s'.capture.shadowValid = s.capture.shadowValid
  damage : s.capture.damage.allTiles = true →
    s'.capture.damage.allTiles = true
  worker : s'.worker = s.worker

theorem Honours.secured {s s' : ServerState} (honours : Honours s s')
    {tileId : Nat} (unsent : s'.trace.unsent tileId = true)
    (secured : s.Secured strict tileId) : s'.Secured strict tileId := by
  cases online : s'.net.clientConnected with
  | false => exact .offline online
  | true =>
      have policy := honours.net.policy online
      cases secured with
      | dirty queued => exact .dirty (honours.dirty tileId unsent queued)
      | pending pending => exact .pending (policy.pending pending)
      | deferred deferred =>
          rcases policy.deferred deferred with deferred' | pending
          · exact .deferred deferred'
          · exact .pending pending
      | requested requested => exact .requested (honours.requested requested)
      | shadowInvalid invalid redraws =>
          refine .shadowInvalid (honours.shadow.trans invalid) fun strictly => ?_
          rw [Redraws, honours.worker]
          exact (redraws strictly).imp_left honours.damage
      | videoOwns owns =>
          cases owns' : s'.net.videoOwnsDisplay with
          | true => exact .videoOwns owns'
          | false => exact .pending (policy.handback owns owns')
      | offline offline =>
          have online' := honours.net.connected online
          exact absurd (online'.symm.trans offline) (by simp)
      | reconfiguring pending =>
          exact .reconfiguring (honours.net.config online pending)

theorem Honours.indebted {s s' : ServerState} (honours : Honours s s')
    (online : s'.net.clientConnected = true)
    (indebted : s.net.streamPolicy.Indebted) :
    s'.net.streamPolicy.Indebted := by
  have policy := honours.net.policy online
  rcases indebted with pending | deferred
  · exact Or.inl (policy.pending pending)
  · exact (policy.deferred deferred).symm

theorem Honours.obliged {s s' : ServerState} (honours : Honours s s')
    (obliged : s.Obliged strict) : s'.Obliged strict where
  wellFormed := honours.net.wellFormed
  owed := by
    intro owed
    obtain ⟨online, indebted⟩ := obliged.owed (honours.owed owed)
    have online' := honours.stays owed online
    exact ⟨online', honours.indebted online' indebted⟩
  full := by
    rw [honours.worker, honours.geometry]
    exact obliged.full
  covered := by
    intro tileId valid unsent
    rw [honours.worker]
    rw [honours.geometry] at valid
    rcases obliged.covered tileId valid (honours.unsent tileId unsent) with
      secured | changes
    · exact Or.inl (honours.secured unsent secured)
    · exact Or.inr changes

variable {s : ServerState}

theorem Honours.refl (wellFormed : s.net.streamPolicy.WellFormed) :
    Honours s s :=
  ⟨.refl wellFormed, fun _ => id, id, fun _ => id, fun _ _ => id, rfl, id, rfl,
    id, rfl⟩

theorem Honours.of_sameFrames {s s' : ServerState} (same : SameFrames s s')
    (net : s.net.KeepsDebts s'.net)
    (stays : s.net.clientConnected = true → s'.net.clientConnected = true)
    (trace : s'.trace.owed = s.trace.owed ∧ s'.trace.unsent = s.trace.unsent)
    (dirty : ∀ tileId, (s.net.tiles tileId).dirtyQueued = true →
      (s'.net.tiles tileId).dirtyQueued = true)
    (requested : s'.fullRefreshRequested = s.fullRefreshRequested) :
    Honours s s' where
  net := net
  stays := fun _ => stays
  owed := fun owed => trace.1 ▸ owed
  unsent := fun _ unsent => trace.2 ▸ unsent
  dirty := fun tileId _ => dirty tileId
  geometry := same.geometry
  requested := fun before => requested.trans before
  shadow := congrArg Capture.shadowValid same.capture
  damage := fun all => same.capture.symm ▸ all
  worker := same.worker

/-! ## The network thread, the video worker and the controller -/

theorem withNet_honours {s : ServerState} {net : NetState}
    (debts : s.net.KeepsDebts net)
    (phase : net.sessionPhase = s.net.sessionPhase)
    (dirty : ∀ tileId, (s.net.tiles tileId).dirtyQueued = true →
      (net.tiles tileId).dirtyQueued = true) : Honours s (s.withNet net) :=
  .of_sameFrames ⟨rfl, rfl, rfl⟩ debts (fun online => by
    rw [withNet, NetState.clientConnected, phase]
    exact online) ⟨rfl, rfl⟩ dirty rfl

theorem Honours.trans {s s' s'' : ServerState} (first : Honours s s')
    (second : Honours s' s'') : Honours s s'' where
  net := ⟨second.net.wellFormed, fun online =>
    first.net.connected (second.net.connected online), fun online =>
    (first.net.policy (second.net.connected online)).trans
      (second.net.policy online), fun online pending =>
    second.net.config online (first.net.config (second.net.connected online)
      pending)⟩
  stays := fun owed online => second.stays owed
    (first.stays (second.owed owed) online)
  owed := fun owed => first.owed (second.owed owed)
  unsent := fun tileId unsent => first.unsent tileId
    (second.unsent tileId unsent)
  dirty := fun tileId unsent queued => second.dirty tileId unsent
    (first.dirty tileId (second.unsent tileId unsent) queued)
  geometry := second.geometry.trans first.geometry
  requested := fun requested => second.requested (first.requested requested)
  shadow := second.shadow.trans first.shadow
  damage := fun all => second.damage (first.damage all)
  worker := second.worker.trans first.worker

theorem Retiled.honours {s' : ServerState} (retiled : Retiled s s')
    (wellFormed : s.net.streamPolicy.WellFormed) : Honours s s' := by
  obtain ⟨tiles, deliveries, requeued⟩ := retiled
  exact withNet_honours (.of_same wellFormed rfl rfl rfl) rfl fun tileId =>
    (requeued tileId).dirty

theorem resetVideo_honours (wellFormed : s.net.streamPolicy.WellFormed)
    (resize : Bool) :
    Honours s (s.withNet (s.net.resetVideo resize)) :=
  withNet_honours (NetState.resetVideo_keepsDebts wellFormed resize)
    (s.net.resetVideo_rest resize).1 fun _ queued =>
      (s.net.resetVideo_tiles resize).symm ▸ queued

theorem offline_honours {net : NetState}
    (wellFormed : net.streamPolicy.WellFormed)
    (offline : s.net.clientConnected = false)
    (offline' : net.clientConnected = false) (tiles : net.tiles = s.net.tiles) :
    Honours s (s.withNet net) :=
  .of_sameFrames ⟨rfl, rfl, rfl⟩ (.of_offline wellFormed offline')
    (fun online => absurd (online.symm.trans offline) (by simp)) ⟨rfl, rfl⟩
    (fun _ queued => tiles ▸ queued) rfl

theorem beginSession_wellFormed {policy : StreamPolicy}
    (wellFormed : policy.WellFormed) (hello : ClientHello) (epoch : Nat) :
    (policy.beginSession hello epoch).WellFormed := by
  unfold StreamPolicy.beginSession
  split_ifs
  · exact wellFormed
  · intro deferred
    cases deferred

theorem disconnectClient_honours (wellFormed : s.net.streamPolicy.WellFormed) :
    Honours s s.disconnectClient := by
  unfold disconnectClient
  split_ifs
  · have offline : s.net.disconnect.clientConnected = false := by
      have phase := (s.net.closeSession.resetVideo_rest false).1
      have closed : s.net.disconnect.sessionPhase = .closed := phase
      simp [NetState.clientConnected, closed]
    have kept : s.net.disconnect.streamPolicy.WellFormed :=
      StreamPolicy.resetVideo_wellFormed wellFormed _ _
    refine ⟨.of_offline kept offline, fun owed => ?_, fun owed => ?_,
      fun _ => id, fun _ _ queued => ?_, rfl, id, rfl, id, rfl⟩
    · cases owed
    · cases owed
    · exact (s.net.closeSession.resetVideo_tiles false).symm ▸ queued
  · exact .refl wellFormed

theorem failVideoTransport_honours (wellFormed : s.net.streamPolicy.WellFormed) :
    Honours s s.failVideoTransport := by
  unfold failVideoTransport
  split_ifs
  · exact .refl wellFormed
  · have reset := resetVideo_honours wellFormed false
    exact ⟨reset.net, reset.stays, reset.owed, reset.unsent, reset.dirty, rfl,
      fun _ => rfl, rfl, fun _ => rfl, rfl⟩

theorem closeVideoChannel_honours (wellFormed : s.net.streamPolicy.WellFormed) :
    Honours s (s.withNet s.net.closeVideoChannel) := by
  unfold NetState.closeVideoChannel
  split_ifs
  · have closed : Honours s (s.withNet s.net.dropVideoChannel) :=
      withNet_honours (.of_same wellFormed rfl rfl rfl) rfl fun _ => id
    exact closed.trans (resetVideo_honours closed.net.wellFormed false)
  · exact .refl wellFormed

theorem commitVideo_obliged (obliged : s.Obliged strict) (job : VideoWorkerJob)
    (frameId : Nat) (keyframe : Bool) :
    (s.commitVideo job frameId keyframe).Obliged strict where
  wellFormed := StreamPolicy.setMode_wellFormed obliged.wellFormed _ _
  owed := fun owed => by cases owed
  full := obliged.full
  covered := fun _ _ _ => Or.inl (.videoOwns (congrArg
    StreamMode.videoOwnsDisplay (StreamPolicy.setMode_streamMode _ _ _)))

theorem recordVideoFrame_honours (wellFormed : s.net.streamPolicy.WellFormed)
    (job : VideoWorkerJob) (frameId : Nat) (keyframe : Bool) :
    Honours s (s.recordVideoFrame job frameId keyframe) := by
  have tracked := StreamPolicy.trackKeyframe_sameDebt s.net.streamPolicy frameId
    keyframe
  exact .of_sameFrames ⟨rfl, rfl, rfl⟩ (.of_policy wellFormed tracked.keepsDebt
    rfl rfl) id ⟨rfl, rfl⟩ (fun _ => id) rfl

theorem completeVideoJob_obliged (obliged : s.Obliged strict)
    (outcome : VideoEncodeOutcome) :
    (s.completeVideoJob outcome).Obliged strict := by
  have released : s.releaseJob.Obliged strict :=
    (withNet_honours (.of_same obliged.wellFormed rfl rfl rfl) rfl
      fun _ => id : Honours s s.releaseJob).obliged obliged
  unfold completeVideoJob
  split
  · exact obliged
  · change (s.releaseJob.finishVideoJob _ outcome).Obliged strict
    unfold finishVideoJob
    split
    · exact released
    · split_ifs
      · exact released
      · unfold queueVideoFrame
        split_ifs
        · exact (resetVideo_honours released.wellFormed false).obliged released
        · exact commitVideo_obliged released _ _ _
        · exact (recordVideoFrame_honours released.wellFormed _ _ _).obliged
            released

end ServerState

/-- No tick resumes video while the client is owed a refresh. -/
def ServerState.TickRemembers (s : ServerState) : ServerEvent → Prop
  | .controllerTick stats => s.net.TickRemembers stats
  | _ => True

instance (s : ServerState) (event : ServerEvent) :
    Decidable (s.TickRemembers event) := by
  unfold ServerState.TickRemembers
  split <;> infer_instance

namespace ServerState

variable {s : ServerState}

theorem establishSession_obliged (obliged : s.Obliged strict) (fd : Option Nat) :
    (s.establishSession fd).Obliged strict := by
  unfold establishSession
  split_ifs with phase
  · refine ⟨obliged.wellFormed, fun owed => ?_, obliged.full,
      fun _ _ _ => Or.inl (.requested rfl)⟩
    have online := (obliged.owed owed).1
    simp [NetState.clientConnected, phase] at online
  · exact obliged

theorem applyConfig_obliged (obliged : s.Obliged strict) (epoch : Nat) :
    (s.applyConfig epoch).Obliged strict := by
  unfold applyConfig
  split_ifs
  · exact ⟨obliged.wellFormed, obliged.owed, obliged.full,
      fun _ _ _ => Or.inl (.requested rfl)⟩
  · exact obliged

theorem networkStep_obliged {event : ServerEvent} (obliged : s.Obliged strict)
    (remembers : s.TickRemembers event) (network : event.isNetwork = true) :
    (s.step event).Obliged strict := by
  have wellFormed := obliged.wellFormed
  have honoured {s' : ServerState} (honours : Honours s s') : s'.Obliged strict :=
    honours.obliged obliged
  cases event with
  | completePacket index success =>
      exact honoured ((s.completePacket_retiled index success).honours wellFormed)
  | controllerTick stats =>
      refine honoured (withNet_honours
        (NetState.tick_keepsDebts wellFormed remembers)
        (s.net.tick_rest stats).1 fun tileId queued => ?_)
      unfold NetState.tick NetState.noteOwnerChange
      split_ifs <;> exact queued
  | takeVideoJob =>
      refine honoured (withNet_honours (.of_same wellFormed ?_ ?_ ?_) ?_ ?_) <;>
        unfold NetState.takeVideoJob <;> split <;> first | rfl | exact fun _ => id
  | completeVideoJob outcome => exact completeVideoJob_obliged obliged outcome
  | identifySession token =>
      change (s.identifySession token).Obliged strict
      unfold identifySession
      split_ifs with phase
      · exact honoured (offline_honours wellFormed (by
          simp [NetState.clientConnected, phase]) rfl rfl)
      · exact obliged
  | configureSession negotiation =>
      change (s.configureSession negotiation).Obliged strict
      unfold configureSession
      split_ifs with phase
      · exact honoured (offline_honours (beginSession_wellFormed wellFormed _ _)
          (by simp [NetState.clientConnected, phase]) rfl rfl)
      · exact obliged
  | establishSession fd => exact establishSession_obliged obliged fd
  | rollbackSession =>
      change s.rollbackSession.Obliged strict
      unfold rollbackSession
      split_ifs with phase
      · exact obliged
      · refine honoured (offline_honours (fun deferred => ?_)
          (by simp [NetState.clientConnected, phase]) rfl rfl)
        cases deferred
  | disconnectClient => exact honoured (disconnectClient_honours wellFormed)
  | applyConfig epoch => exact applyConfig_obliged obliged epoch
  | requestRepairs epoch entries =>
      exact honoured ((s.requestRepairs_retiled epoch entries).honours wellFormed)
  | receiveVideoFeedback epoch sequence flags =>
      change (s.withNet (s.net.receiveVideoFeedback epoch sequence
        flags)).Obliged strict
      unfold NetState.receiveVideoFeedback
      split_ifs
      · have noted : StreamPolicy.SameDebt s.net.streamPolicy
            (s.net.streamPolicy.noteFeedback sequence flags) := ⟨rfl, rfl, rfl⟩
        exact honoured (withNet_honours (.of_policy wellFormed noted.keepsDebt
          rfl rfl) rfl fun _ => id)
      · exact obliged
  | acceptVideoChannel fd =>
      change (s.withNet (s.net.acceptVideoChannel fd)).Obliged strict
      unfold NetState.acceptVideoChannel
      split_ifs
      · exact honoured (withNet_honours (.of_same wellFormed rfl rfl rfl) rfl
          fun _ => id)
      · exact obliged
  | closeVideoChannel => exact honoured (closeVideoChannel_honours wellFormed)
  | _ => cases network

/-! ## The compositor and the analysis -/

theorem Obliged.of_frames {s s' : ServerState} (obliged : s.Obliged strict)
    (net : s'.net = s.net) (trace : s'.trace = s.trace)
    (geometry : s'.geometry = s.geometry)
    (requested : s'.fullRefreshRequested = s.fullRefreshRequested)
    (shadow : s'.capture.shadowValid = s.capture.shadowValid)
    (analysis : s'.worker.analysis = s.worker.analysis)
    (redraws : strict → s.Redraws → s'.Redraws) : s'.Obliged strict where
  wellFormed := net ▸ obliged.wellFormed
  owed := by
    rw [trace, net]
    exact obliged.owed
  full := by
    rw [analysis, geometry]
    exact obliged.full
  covered := by
    intro tileId inside unsent
    rw [geometry] at inside
    rw [trace] at unsent
    rw [analysis]
    refine (obliged.covered tileId inside unsent).imp_left fun secured => ?_
    exact secured.congr (fun queued => net ▸ queued) (by rw [net]) (by rw [net])
      (by rw [net]) (fun before => requested.trans before)
      fun invalid => ⟨shadow.trans invalid, redraws⟩

theorem Obliged.withWorker (obliged : s.Obliged strict) {phase : WorkerPhase}
    (before : s.worker.Settled) (after : phase.Settled) :
    (s.withWorker phase).Obliged strict :=
  obliged.of_frames rfl rfl rfl rfl rfl (after.1.trans before.1.symm)
    fun _ redraws => .inl (redraws.resolve_right (by simp [before.2]))

theorem settled_of_isIdle {phase : WorkerPhase} (idle : phase.isIdle = true) :
    phase.Settled := by
  cases phase with
  | idle => exact ⟨rfl, rfl⟩
  | _ => cases idle

theorem captureFrame_shadowValid (s : ServerState) (rendered : RenderedFrame) :
    (s.captureFrame rendered).shadowValid = s.capture.shadowValid := by
  unfold captureFrame
  dsimp only
  split_ifs <;> rfl

/-- A scene of which all is damaged is drawn to a buffer. -/
def DrawsDamage (s : ServerState) : ServerEvent → Prop
  | .render .noBuffer => s.mayRender = true → s.capture.damage.allTiles = false
  | _ => True

theorem render_obliged (obliged : s.Obliged strict) {outcome : RenderOutcome}
    (draws : strict → s.DrawsDamage (.render outcome)) :
    (s.render outcome).Obliged strict := by
  unfold render
  split_ifs with may
  · have settled := settled_of_isIdle (isIdle_of_mayRender may)
    have damaged (redraws : s.Redraws) : s.capture.damage.allTiles = true :=
      redraws.resolve_right (by simp [settled.2])
    cases outcome with
    | notBuilt => exact obliged
    | noBuffer =>
        refine obliged.of_frames rfl rfl rfl rfl rfl rfl fun strictly redraws => ?_
        exact absurd ((draws strictly may).symm.trans (damaged redraws)) (by simp)
    | notCaptured damage =>
        exact obliged.of_frames rfl rfl rfl rfl rfl rfl fun _ redraws =>
          .inl (SceneDamage.merge_allTiles (damaged redraws))
    | frame rendered =>
        exact obliged.of_frames rfl rfl rfl rfl
          (s.captureFrame_shadowValid rendered) settled.1.symm
          fun _ _ => .inr rfl
  · exact obliged

theorem applyPendingCompositorRequests_obliged (obliged : s.Obliged strict) :
    s.applyPendingCompositorRequests.Obliged strict := by
  unfold applyPendingCompositorRequests
  split_ifs
  · exact obliged
  · exact ⟨obliged.wellFormed, obliged.owed, obliged.full,
      fun _ _ _ => Or.inl (.shadowInvalid rfl fun _ => .inl rfl)⟩

theorem requestService_obliged (obliged : s.Obliged strict) :
    s.requestService.Obliged strict := by
  unfold requestService
  split_ifs with idle
  · exact obliged.withWorker (settled_of_isIdle idle) ⟨rfl, rfl⟩
  · exact obliged

theorem readForce_obliged (obliged : s.Obliged strict) :
    s.readForce.Obliged strict := by
  unfold readForce
  split
  · next frame phase =>
    exact obliged.of_frames rfl rfl rfl rfl rfl
      (congrArg WorkerPhase.analysis phase).symm fun _ _ => .inr rfl
  · exact obliged

theorem checkShadow_obliged (obliged : s.Obliged strict) :
    s.checkShadow.Obliged strict := by
  unfold checkShadow
  split
  · next frame force phase =>
    split_ifs with skips
    · have owns : s.net.videoOwnsDisplay = true := by
        simp only [skipsShadow, Bool.and_eq_true] at skips
        exact skips.1.1.1
      refine ⟨obliged.wellFormed, obliged.owed, fun full => ?_,
        fun _ _ _ => Or.inl (.videoOwns owns)⟩
      cases full
    · refine ⟨obliged.wellFormed, obliged.owed, fun full => ?_,
        fun _ _ _ => Or.inl (.requested rfl)⟩
      cases full
    · exact obliged.of_frames rfl rfl rfl rfl rfl
        (congrArg WorkerPhase.analysis phase).symm fun _ _ => .inr rfl
  · exact obliged

theorem changedBaseTile_of_invalid {capture : Capture} {geometry : Geometry}
    {damage : SceneDamage} {tileId : Nat} (valid : tileId < geometry.totalTiles) :
    capture.changedBaseTile geometry damage false tileId = true := by
  simp [Capture.changedBaseTile, valid]

theorem diffFrame_obliged (obliged : s.Obliged strict) :
    s.diffFrame.Obliged strict := by
  unfold diffFrame
  split
  · next frame force phase =>
    have none : s.worker.analysis = none := congrArg WorkerPhase.analysis phase
    dsimp only
    generalize valid : (s.capture.shadowValid && !force) = shadowValid
    have all (invalid : shadowValid = false) (tileId : Nat)
        (inside : tileId < s.geometry.totalTiles) :
        Capture.changedTiles s.geometry (s.capture.changedBaseTile s.geometry
          frame.damage shadowValid) tileId = true := by
      rw [Capture.changedTiles_eq inside, invalid]
      exact changedBaseTile_of_invalid inside
    refine ⟨obliged.wellFormed, obliged.owed, fun full tileId inside => ?_,
      fun tileId inside unsent => ?_⟩
    · exact all (by simpa [WorkerPhase.analysis, FrameAnalysis.isFull] using full)
        tileId inside
    · by_cases invalid : shadowValid = false
      · exact Or.inr (all invalid tileId inside)
      · have trusted : s.capture.shadowValid = true := by
          rw [Bool.not_eq_false] at invalid
          rw [invalid, Bool.and_eq_true] at valid
          exact valid.1
        rcases Bool.or_eq_true_iff.mp unsent with before | changed
        · have secured := (obliged.covered tileId inside before).resolve_right
            (by rw [none]; exact Bool.false_ne_true)
          exact Or.inl (secured.congr id rfl rfl rfl id fun invalid =>
            absurd (trusted.symm.trans invalid) (by simp))
        · exact Or.inr ((Capture.changedTiles_eq inside).trans changed)
  · exact obliged

/-! ## Opening a pass -/

structure Serves (s : ServerState) (strict : Prop)
    (analysis : Option FrameAnalysis) : Prop where
  wellFormed : s.net.streamPolicy.WellFormed
  connected : s.net.clientConnected = true
  owed : s.trace.owed = true → s.net.streamPolicy.Indebted
  settled : s.worker.holdsFrame = false
  covered : ∀ tileId < s.geometry.totalTiles, s.trace.unsent tileId = true →
    s.Secured strict tileId ∨ FrameAnalysis.changes analysis tileId = true

theorem Serves.obliged {s s' : ServerState} {analysis : Option FrameAnalysis}
    (serves : Serves s strict analysis)
    (policy : s'.net.streamPolicy = s.net.streamPolicy)
    (phase : s'.net.sessionPhase = s.net.sessionPhase)
    (trace : s'.trace = s.trace) (done : s'.worker.analysis = none)
    (secured : ∀ tileId < s'.geometry.totalTiles,
      s'.trace.unsent tileId = true → s'.Secured strict tileId) :
    s'.Obliged strict where
  wellFormed := policy ▸ serves.wellFormed
  owed := fun owed => by
    rw [NetState.clientConnected, phase, policy]
    exact ⟨serves.connected, serves.owed (trace ▸ owed)⟩
  full := fun full => by
    rw [done] at full
    cases full
  covered := fun tileId inside unsent => Or.inl (secured tileId inside unsent)

variable {analysis : Option FrameAnalysis}

theorem Serves.redraws {s s' : ServerState} (serves : Serves s strict analysis)
    (capture : s'.capture = s.capture) (redraws : s.Redraws) : s'.Redraws :=
  .inl (capture.symm ▸ redraws.resolve_right (by simp [serves.settled]))

theorem serveVideo_obliged (serves : Serves s strict analysis)
    (owns : s.net.videoOwnsDisplay = true) (input : PassInput) :
    (s.serveVideo analysis input).Obliged strict := by
  obtain ⟨policy, phase, -, -⟩ :=
    s.net.publishVideoSnapshot_rest input.snapshotReady input.sendPending
  unfold serveVideo
  split_ifs
  · exact serves.obliged rfl rfl rfl rfl fun _ _ _ => .videoOwns owns
  · refine serves.obliged policy phase rfl rfl fun _ _ _ => .videoOwns ?_
    change StreamMode.videoOwnsDisplay (NetState.streamPolicy _).streamMode = true
    exact (congrArg (fun policy : StreamPolicy =>
      policy.streamMode.videoOwnsDisplay) policy).trans owns

theorem deferDamage_obliged (serves : Serves s strict analysis)
    (behind : s.net.streamPolicy.behindBarrier = true) (input : PassInput) :
    (s.deferDamage.openSending input).Obliged strict where
  wellFormed := fun _ => by
    simp only [StreamPolicy.behindBarrier, Bool.and_eq_true, beq_iff_eq] at behind
    exact behind.1
  owed := fun _ => ⟨serves.connected, Or.inr rfl⟩
  full := fun full => by cases full
  covered := fun _ _ _ => Or.inl (.deferred rfl)

theorem applyAnalysis_obliged {analysis : FrameAnalysis}
    (serves : Serves s strict (some analysis)) (input : PassInput) :
    ((s.applyAnalysis analysis input).openSending input).Obliged strict := by
  obtain ⟨policy, phase, config, tiles⟩ := NetState.publishVideoSnapshot_rest
    (s.net.applyFrameAnalysis s.geometry (analysis.changedTiles.getD fun _ =>
      false)) input.snapshotReady input.sendPending
  have marked : ((s.applyAnalysis analysis input).openSending input).net.tiles =
      (s.net.applyFrameAnalysis s.geometry (analysis.changedTiles.getD fun _ =>
        false)).tiles := tiles
  refine serves.obliged policy phase rfl rfl fun tileId inside unsent => ?_
  rcases serves.covered tileId inside unsent with secured | changes
  · refine secured.congr (fun queued => ?_) policy phase config id
      fun invalid => ⟨invalid, fun _ => serves.redraws rfl⟩
    rw [marked]
    exact (markDirtyTiles_requeued (fun tileId =>
      decide (tileId < s.geometry.totalTiles) &&
        analysis.changedTiles.getD (fun _ => false) tileId) tileId _).dirty queued
  · refine .dirty ?_
    rw [marked]
    have changes' : (decide (tileId < s.geometry.totalTiles) &&
        analysis.changedTiles.getD (fun _ => false) tileId) = true :=
      Bool.and_eq_true_iff.mpr ⟨decide_eq_true inside, changes⟩
    simp only [NetState.applyFrameAnalysis, NetState.markDirtyTiles,
      NetState.mapTiles, changes', if_true, TileState.markDirty]
    split_ifs <;> first | rfl | assumption

theorem serve_obliged (serves : Serves s strict analysis) (input : PassInput)
    (refreshStarted : Bool) :
    (s.serve analysis input refreshStarted).Obliged strict := by
  unfold serve
  by_cases owns : s.net.videoOwnsDisplay = true
  · rw [if_pos owns]
    exact serveVideo_obliged serves owns input
  · rw [if_neg owns]
    unfold serveTiles
    cases analysis with
    | none =>
        refine serves.obliged rfl rfl rfl rfl fun tileId inside unsent => ?_
        have secured := (serves.covered tileId inside unsent).resolve_right
          Bool.false_ne_true
        exact secured.congr id rfl rfl rfl id
          fun invalid => ⟨invalid, fun _ => serves.redraws rfl⟩
    | some analysis =>
        dsimp only
        split_ifs with behind
        · rw [Bool.and_eq_true] at behind
          exact deferDamage_obliged serves behind.1 input
        · exact applyAnalysis_obliged serves input

theorem startRefresh_serves (obliged : s.Obliged strict)
    (connected : s.net.clientConnected = true)
    (settled : s.worker.holdsFrame = false)
    (full : FrameAnalysis.isFull s.worker.analysis = true) :
    Serves s.startRefresh strict s.worker.analysis where
  wellFormed := StreamPolicy.startRefresh_wellFormed obliged.wellFormed _ _
  connected := connected
  owed := fun owed => by cases owed
  settled := settled
  covered := fun tileId inside _ => Or.inr (obliged.full full tileId inside)

theorem openPass_obliged (obliged : s.Obliged strict)
    (settled : s.worker.holdsFrame = false) (input : PassInput) :
    (s.openPass s.worker.analysis input).Obliged strict := by
  have idle {s' : ServerState} (wellFormed : s'.net.streamPolicy.WellFormed)
      (owed : s'.trace.owed = true → s'.net.clientConnected = true ∧
        s'.net.streamPolicy.Indebted)
      (secured : ∀ tileId, (s'.withWorker .idle).Secured strict tileId) :
      (s'.withWorker .idle).Obliged strict :=
    ⟨wellFormed, owed, fun full => (Bool.false_ne_true full).elim,
      fun tileId _ _ => Or.inl (secured tileId)⟩
  unfold openPass
  split_ifs with away lacks needed full
  · refine idle obliged.wellFormed obliged.owed fun _ => ?_
    rcases Bool.or_eq_true_iff.mp away with offline | pending
    · have offline' : s.net.clientConnected = false := by simpa using offline
      exact .offline offline'
    · exact .reconfiguring pending
  · exact idle obliged.wellFormed obliged.owed fun _ => .requested rfl
  · simp only [Bool.or_eq_true, Bool.not_eq_true', not_or,
      Bool.not_eq_false] at away
    exact serve_obliged (startRefresh_serves obliged away.1 settled full) input
      true
  · exact idle obliged.wellFormed obliged.owed fun _ => .requested rfl
  · simp only [Bool.or_eq_true, Bool.not_eq_true', not_or,
      Bool.not_eq_false] at away
    exact serve_obliged ⟨obliged.wellFormed, away.1,
      fun owed => (obliged.owed owed).2, settled, obliged.covered⟩ input false

theorem beginPass_obliged (obliged : s.Obliged strict) (input : PassInput) :
    (s.beginPass input).Obliged strict := by
  have opened (settled : s.worker.holdsFrame = false) :=
    openPass_obliged obliged settled input
  unfold beginPass
  split
  · next phase =>
    rw [phase] at opened
    exact opened rfl
  · next phase =>
    rw [phase] at opened
    exact opened rfl
  · exact obliged

/-! ## Inside a pass -/

theorem beginBatch_obliged (obliged : s.Obliged strict) (regions : List Nat) :
    (s.beginBatch regions).Obliged strict := by
  have repairs (source : EncodeSource) :
      Honours s (s.supersedeRepairs source) := by
    cases source with
    | fresh => exact .refl obliged.wellFormed
    | retransmit =>
        refine withNet_honours (.of_same obliged.wellFormed rfl rfl rfl) rfl
          fun tileId queued => ?_
        simp only [NetState.mapTiles, queued, if_true,
          TileState.clearRetransmitRequest]
        split_ifs
        · rfl
        · exact queued
  unfold beginBatch startBatch
  split
  · next phase =>
    split
    · next source _ =>
      have sending : (s.supersedeRepairs source).worker.Settled := by
        rw [(repairs source).worker, phase]
        exact ⟨rfl, rfl⟩
      have obliged' := (repairs source).obliged obliged
      split
      · exact obliged'.withWorker sending ⟨rfl, rfl⟩
      · exact obliged'.withWorker sending ⟨rfl, rfl⟩
    · exact obliged
  · exact obliged

theorem advancePass_obliged (obliged : s.Obliged strict) :
    s.advancePass.Obliged strict := by
  unfold advancePass
  split
  · next phase =>
    exact obliged.withWorker (by rw [phase]; exact ⟨rfl, rfl⟩) ⟨rfl, rfl⟩
  · exact obliged

theorem endBatch_obliged (obliged : s.Obliged strict) :
    s.endBatch.Obliged strict := by
  unfold endBatch
  split
  · next phase =>
    have sending : s.worker.Settled := by rw [phase]; exact ⟨rfl, rfl⟩
    split_ifs
    · exact obliged
    · exact obliged.withWorker sending ⟨rfl, rfl⟩
    · exact obliged.withWorker sending ⟨rfl, rfl⟩
  · exact obliged

theorem closePass_honours (wellFormed : s.net.streamPolicy.WellFormed)
    (queuesEmpty : Bool) :
    Honours s (s.closePass queuesEmpty) := by
  have noted (policy : StreamPolicy) :=
    (policy.noteBootstrapSent_sameDebt queuesEmpty).keepsDebt
  have sent : s.net.streamPolicy.KeepsDebt
      s.net.streamPolicy.noteRecoverySent :=
    StreamPolicy.SameDebt.keepsDebt ⟨rfl, rfl, rfl⟩
  have closes {policy : StreamPolicy}
      (keeps : s.net.streamPolicy.KeepsDebt policy) :
      Honours s (s.withNet (s.net.withPolicy policy)) :=
    withNet_honours (.of_policy wellFormed keeps rfl rfl) rfl fun _ => id
  unfold closePass
  dsimp only
  split
  · exact closes (noted _)
  · have restarted := closes
      ((s.net.streamPolicy.restartRecovery_keepsDebt).trans (noted _))
    exact ⟨restarted.net, restarted.stays, restarted.owed, restarted.unsent,
      restarted.dirty, rfl, fun _ => rfl, rfl, id, rfl⟩
  · exact closes (sent.trans (noted _))

theorem endPass_obliged (obliged : s.Obliged strict) (regionsIdle : Bool) :
    (s.endPass regionsIdle).Obliged strict := by
  unfold endPass
  split
  · next phase =>
    have closes := closePass_honours obliged.wellFormed
      (s.net.dirtyQueueEmpty s.geometry && regionsIdle &&
        s.net.retransmitQueueEmpty s.geometry)
    refine (closes.obliged obliged).withWorker ?_ ⟨rfl, rfl⟩
    rw [closes.worker, phase]
    exact ⟨rfl, rfl⟩
  · exact obliged

theorem sendEncoded_honours (wellFormed : s.net.streamPolicy.WellFormed)
    (ids : List Nat) (encodedTile : EncodedTile) :
    Honours s (s.sendEncoded ids encodedTile).1 := by
  have emitted (packets : List TilePacket) : Honours s (s.emit packets) :=
    .of_sameFrames ⟨rfl, rfl, rfl⟩ (.refl wellFormed) id ⟨rfl, rfl⟩
      (fun _ => id) rfl
  have sent (packets : List TilePacket) (generation count : Nat)
      (failed : Bool) := (emitted packets).trans ((trackDelivery_retiled _ ids
        generation count failed).honours (emitted packets).net.wellFormed)
  unfold sendEncoded sendTilePayload
  dsimp only
  split_ifs
  · exact .refl wellFormed
  · exact (s.trackDelivery_retiled ids _ 0 true).honours wellFormed
  · exact sent _ _ _ _
  · exact sent _ _ _ _
  · exact sent _ _ _ _

theorem commitResult_honours (wellFormed : s.net.streamPolicy.WellFormed)
    (batch : EncodeBatch) (ids : List Nat) (generation : Nat) :
    Honours s (s.commitResult batch ids generation) := by
  refine ⟨.of_same wellFormed rfl rfl rfl, fun _ => id, id, fun tileId unsent =>
    ?_, fun tileId unsent queued => ?_, rfl, id, rfl, id, rfl⟩
  · exact (Bool.and_eq_true_iff.mp unsent).1
  · have elsewhere : tileId ∉ ids := by
      simpa using (Bool.and_eq_true_iff.mp unsent).2
    simp only [commitResult, NetState.mapTiles, if_neg elsewhere]
    exact queued

theorem completeJob_obliged (obliged : s.Obliged strict) (region : Nat)
    (results : List EncodeResult) :
    (s.completeJob region results).Obliged strict := by
  rcases s.completeJob_eq region results with
    same | ⟨stage, batch, batch', phase, same | processed⟩
  · exact same.symm ▸ obliged
  · rw [same]
    exact obliged.withWorker (by rw [phase]; exact ⟨rfl, rfl⟩) ⟨rfl, rfl⟩
  · have sent : Honours s (processResults batch region s results).1 := by
      refine processResults_invariant (fun s' encodedTile ids sent _ _ _ => ?_)
        (.refl obliged.wellFormed)
      have encoded := sent.trans
        (sendEncoded_honours sent.net.wellFormed ids encodedTile)
      rw [sendResult_fst]
      split_ifs
      · exact encoded.trans (commitResult_honours encoded.net.wellFormed _ _ _)
      · exact encoded
    rw [processed]
    refine (sent.obliged obliged).withWorker ?_ ⟨rfl, rfl⟩
    rw [sent.worker, phase]
    exact ⟨rfl, rfl⟩

/-! ## Runs -/

theorem applyDisplaySize_obliged (obliged : s.Obliged strict)
    (geometry : Geometry) :
    (s.applyDisplaySize geometry).Obliged strict := by
  unfold applyDisplaySize
  split_ifs with busy
  · exact obliged
  · have reset : s.net.KeepsDebts (s.net.resize.resetVideo true) := by
      have kept := NetState.resetVideo_keepsDebts
        (obliged.wellFormed : s.net.resize.streamPolicy.WellFormed) true
      exact ⟨kept.wellFormed, kept.connected, kept.policy, kept.config⟩
    simp only [Bool.or_eq_true, Bool.not_eq_true', not_or,
      Bool.not_eq_false] at busy
    refine ⟨reset.wellFormed, fun owed => ?_, fun full => ?_,
      fun _ _ unsent => by cases unsent⟩
    · obtain ⟨online, indebted⟩ := obliged.owed owed
      have online' : (s.net.resize.resetVideo true).clientConnected = true := by
        rw [NetState.clientConnected, (s.net.resize.resetVideo_rest true).1]
        exact online
      refine ⟨online', ?_⟩
      have policy := reset.policy online'
      rcases indebted with pending | deferred
      · exact Or.inl (policy.pending pending)
      · exact (policy.deferred deferred).symm
    · rw [show (s.replaceDisplay geometry).worker.analysis = none from
        (settled_of_isIdle busy.1).1] at full
      cases full

theorem step_obliged {event : ServerEvent} (obliged : s.Obliged strict)
    (remembers : s.TickRemembers event)
    (draws : strict → s.DrawsDamage event) :
    (s.step event).Obliged strict := by
  cases network : event.isNetwork with
  | true => exact networkStep_obliged obliged remembers network
  | false =>
      cases event with
      | render outcome => exact render_obliged obliged draws
      | applyPendingCompositorRequests =>
          exact applyPendingCompositorRequests_obliged obliged
      | requestService => exact requestService_obliged obliged
      | readForce => exact readForce_obliged obliged
      | checkShadow => exact checkShadow_obliged obliged
      | diffFrame => exact diffFrame_obliged obliged
      | beginPass input => exact beginPass_obliged obliged input
      | beginBatch regions => exact beginBatch_obliged obliged regions
      | completeJob region results =>
          exact completeJob_obliged obliged region results
      | endBatch => exact endBatch_obliged obliged
      | advancePass => exact advancePass_obliged obliged
      | endPass regionsIdle => exact endPass_obliged obliged regionsIdle
      | failVideoTransport =>
          exact (failVideoTransport_honours obliged.wellFormed).obliged obliged
      | applyDisplaySize geometry => exact applyDisplaySize_obliged obliged geometry
      | _ => cases network

theorem initial_obliged (geometry : Geometry) (videoWorker : Bool)
    (strict : Prop) :
    (initial geometry videoWorker).Obliged strict where
  wellFormed := fun deferred => by cases deferred
  owed := fun owed => by cases owed
  full := fun full => by cases full
  covered := fun _ _ unsent => by cases unsent

theorem run_obliged {geometry : Geometry} {videoWorker : Bool}
    {events : List ServerEvent}
    (remembers : Along step TickRemembers (initial geometry videoWorker) events)
    (draws : strict →
      Along step DrawsDamage (initial geometry videoWorker) events) :
    (serverRun geometry videoWorker events).Obliged strict := by
  have preserved (s : ServerState) (event : ServerEvent)
      (obliged : s.Obliged strict)
      (meets : s.TickRemembers event ∧ (strict → s.DrawsDamage event)) :
      (s.step event).Obliged strict :=
    step_obliged obliged meets.1 meets.2
  exact invariant_runFrom preserved (initial_obliged geometry videoWorker strict)
    (along_and_of_imp remembers draws)

/-! ## Deferred damage -/

/-- Deferred damage is a pending refresh, or waits for its recovery to end. -/
def DebtRemembered (s : ServerState) : Prop :=
  s.net.clientConnected = true → s.trace.owed = true →
    s.net.streamPolicy.tileRefreshPending = true ∨
      s.net.streamPolicy.streamMode = .tileRecovery ∧
        s.net.streamPolicy.tileRecoveryLiveDamageDeferred = true

instance (s : ServerState) : Decidable s.DebtRemembered := by
  unfold DebtRemembered
  infer_instance

theorem Obliged.debtRemembered (obliged : s.Obliged strict) :
    s.DebtRemembered := by
  intro _ owed
  rcases (obliged.owed owed).2 with pending | deferred
  · exact Or.inl pending
  · exact Or.inr ⟨obliged.wellFormed deferred, deferred⟩

end ServerState

/-- The display is resized, refreshed, and damaged behind the refresh. -/
def damageBehindRecovery : List ServerEvent :=
  Script.toReady ++
    [.applyDisplaySize Script.resizedDisplay, .applyConfig 2] ++
    Script.fullPass 1 ++ [Script.frame (Script.oneTile 0) 2 false] ++
    Script.analyze ++
    [Script.beginPass, .advancePass, .advancePass, .endPass true]

def resumeBeforeRefresh : List ServerEvent :=
  damageBehindRecovery ++ [Script.tick 2 Script.quietHealth]

/--
In every run in which no tick resumes video while a refresh is owed, deferred
damage stays pending until a refresh starts or a keyframe takes the display.
-/
theorem debtRemembered_of_tickRemembers {geometry : Geometry}
    {videoWorker : Bool} {events : List ServerEvent}
    (remembers : Along ServerState.step ServerState.TickRemembers
      (.initial geometry videoWorker) events) :
    (serverRun geometry videoWorker events).DebtRemembered :=
  (ServerState.run_obliged remembers False.elim).debtRemembered

theorem damageBehindRecovery_debtRemembered :
    (serverRun Script.display true damageBehindRecovery).DebtRemembered ∧
      (serverRun Script.display true damageBehindRecovery).trace.owed = true :=
  ⟨debtRemembered_of_tickRemembers (by decide +kernel), by decide +kernel⟩

theorem resumeBeforeRefresh_forgets_debt :
    ¬ (serverRun Script.display true resumeBeforeRefresh).DebtRemembered := by
  decide +kernel

/-! ## Changes of the shadow -/

namespace ServerState

/-- Between two passes, while tiles own the display of a connected client and no
damage is deferred, each change that has not been sent is queued, or a refresh of
everything is pending, requested, or taken up. -/
def ChangesSecuredBy (s : ServerState) (takenUp : Prop) : Prop :=
  s.worker.isIdle = true → s.net.clientConnected = true →
    s.net.configUpdatePending = false → s.net.videoOwnsDisplay = false →
    s.net.streamPolicy.tileRecoveryLiveDamageDeferred = false →
    ∀ tileId < s.geometry.totalTiles, s.trace.unsent tileId = true →
      (s.net.tiles tileId).dirtyQueued = true ∨
        s.net.streamPolicy.tileRefreshPending = true ∨
        s.fullRefreshRequested = true ∨ takenUp

/-- A request that the compositor has taken up shows in the shadow, which stays
invalid until the next analysis. -/
def ChangesSecured (s : ServerState) : Prop :=
  s.ChangesSecuredBy (s.capture.shadowValid = false)

/-- A request that has been taken up also damages the whole scene. -/
def ChangesRedrawn (s : ServerState) : Prop :=
  s.ChangesSecuredBy
    (s.capture.shadowValid = false ∧ s.capture.damage.allTiles = true)

instance (s : ServerState) : Decidable s.ChangesSecured := by
  unfold ChangesSecured ChangesSecuredBy
  infer_instance

theorem Obliged.changesSecuredBy {s : ServerState} (obliged : s.Obliged strict) :
    s.ChangesSecuredBy (s.capture.shadowValid = false ∧
      (strict → s.capture.damage.allTiles = true)) := by
  intro idle online settled notOwns undeferred tileId inside unsent
  have rests := settled_of_isIdle idle
  have secured := (obliged.covered tileId inside unsent).resolve_right (by
    rw [rests.1]
    exact Bool.false_ne_true)
  cases secured with
  | dirty queued => exact Or.inl queued
  | pending pending => exact Or.inr (Or.inl pending)
  | deferred deferred => exact absurd (deferred.symm.trans undeferred) (by simp)
  | requested requested => exact Or.inr (Or.inr (Or.inl requested))
  | shadowInvalid invalid redraws =>
      refine Or.inr (Or.inr (Or.inr ⟨invalid, fun strictly => ?_⟩))
      exact (redraws strictly).resolve_right (by simp [rests.2])
  | videoOwns owns => exact absurd (owns.symm.trans notOwns) (by simp)
  | offline offline => exact absurd (online.symm.trans offline) (by simp)
  | reconfiguring pending => exact absurd (pending.symm.trans settled) (by simp)

theorem ChangesSecuredBy.imp {s : ServerState} {takenUp takenUp' : Prop}
    (secured : s.ChangesSecuredBy takenUp) (implies : takenUp → takenUp') :
    s.ChangesSecuredBy takenUp' :=
  fun idle online settled notOwns undeferred tileId inside unsent =>
    (secured idle online settled notOwns undeferred tileId inside unsent).imp_right
      (Or.imp_right (Or.imp_right implies))

instance (s : ServerState) (event : ServerEvent) :
    Decidable (s.DrawsDamage event) := by
  unfold DrawsDamage
  split <;> infer_instance

end ServerState

def unsentRefresh : List ServerEvent :=
  Script.connect ++
    [.applyPendingCompositorRequests, Script.frame .all 1 false] ++
    Script.analyze ++
    [Script.beginPass, .advancePass, .advancePass, .endPass true]

/--
In every run in which no tick resumes video while a refresh is owed, no change
of the shadow is forgotten between two passes; and where a wholly damaged scene
is always drawn, a refresh that was taken up is drawn.
-/
theorem changesSecured_of_tickRemembers {geometry : Geometry}
    {videoWorker : Bool} {events : List ServerEvent}
    (remembers : Along ServerState.step ServerState.TickRemembers
      (.initial geometry videoWorker) events) :
    (serverRun geometry videoWorker events).ChangesSecured ∧
      (Along ServerState.step ServerState.DrawsDamage
          (.initial geometry videoWorker) events →
        (serverRun geometry videoWorker events).ChangesRedrawn) := by
  have secured := (ServerState.run_obliged remembers
    False.elim).changesSecuredBy
  refine ⟨secured.imp And.left, fun draws => ?_⟩
  have obliged : (serverRun geometry videoWorker events).Obliged True :=
    ServerState.run_obliged remembers fun _ => draws
  exact obliged.changesSecuredBy.imp fun ⟨invalid, damaged⟩ =>
    ⟨invalid, damaged trivial⟩

theorem unsentRefresh_changesSecured :
    (serverRun Script.display true unsentRefresh).ChangesSecured ∧
      (serverRun Script.display true unsentRefresh).ChangesRedrawn ∧
      (serverRun Script.display true unsentRefresh).trace.unsent 0 = true ∧
      (serverRun Script.display true unsentRefresh).worker.isIdle = true := by
  obtain ⟨secured, redrawn⟩ := @changesSecured_of_tickRemembers Script.display
    true unsentRefresh (by decide +kernel)
  exact ⟨secured, redrawn (by decide +kernel), by decide +kernel,
    by decide +kernel⟩

theorem resumeBeforeRefresh_forgets_change :
    ¬ (serverRun Script.display true resumeBeforeRefresh).ChangesSecured := by
  decide +kernel

end WayDisplay.Server
