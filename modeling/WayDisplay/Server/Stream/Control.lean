import WayDisplay.Server.Stream.Ownership

/-!
What each event does to the mode machine.

The mode machine is governed by five things: the session's phase, the content
epoch, the framebuffer generation, the policy and the frames that were queued
for video.  Most events leave all five alone; the others are listed here once,
with their guards, and the later modules argue over this list.
-/

namespace WayDisplay.Server

open Common Foundation

def ServerEvent.isTick : ServerEvent → Bool
  | .controllerTick _ => true
  | _ => false

structure Control where
  phase : SessionPhase
  contentEpoch : Nat
  framebufferGeneration : Nat
  policy : StreamPolicy
  videoFrames : List VideoFrame

namespace ServerState

def control (s : ServerState) : Control where
  phase := s.net.sessionPhase
  contentEpoch := s.net.contentEpoch
  framebufferGeneration := s.framebufferGeneration
  policy := s.net.streamPolicy
  videoFrames := s.trace.videoFrames

def queuesEmpty (s : ServerState) (regionsIdle : Bool) : Bool :=
  s.net.dirtyQueueEmpty s.geometry && regionsIdle &&
    s.net.retransmitQueueEmpty s.geometry

/-! ## Sections that open an epoch of their own -/

def startsSession (s : ServerState) : ServerEvent → Bool
  | .identifySession _ => s.net.sessionPhase == .closed
  | _ => false

def endsSession (s : ServerState) : ServerEvent → Bool
  | .disconnectClient => s.net.sessionPhase == .established
  | _ => false

def resizes (s : ServerState) : ServerEvent → Bool
  | .applyDisplaySize geometry => s.worker.isIdle && geometry != s.geometry
  | _ => false

def configuresSession (s : ServerState) : ServerEvent → Bool
  | .configureSession _ => s.net.sessionPhase == .identified
  | _ => false

structure Plain (s : ServerState) (event : ServerEvent) : Prop where
  unticked : event.isTick = false
  starts : s.startsSession event = false
  configures : s.configuresSession event = false
  ends : s.endsSession event = false
  resizes : s.resizes event = false

def refusesFrame (s : ServerState) : VideoEncodeOutcome → Bool
  | .noFrame => false
  | .encoded _ keyframe sendPending queued =>
      s.net.activeJob.any fun job =>
        s.net.videoJobCurrent job && !sendPending &&
          !(job.requestKeyframe && !keyframe) && !queued

def resetsVideo (s : ServerState) : ServerEvent → Bool
  | .completeVideoJob outcome => s.refusesFrame outcome
  | .failVideoTransport => s.net.videoTcpFd.isSome
  | .closeVideoChannel => s.net.clientConnected && s.net.videoTcpFd.isSome
  | .disconnectClient => s.net.sessionPhase == .established
  | .applyDisplaySize geometry => s.worker.isIdle && geometry != s.geometry
  | _ => false

end ServerState

/-- The policy, epoch and frames after an event, with the event's guards. -/
inductive Governs (s : ServerState) : ServerEvent → Control → Prop
  | kept {event : ServerEvent} (plain : s.Plain event) :
      Governs s event s.control
  | ticked (stats : TickStats) :
      Governs s (.controllerTick stats)
        { s.control with
          contentEpoch := (s.net.tick stats).contentEpoch
          policy := (s.net.tick stats).streamPolicy }
  | refreshed (input : PassInput) (connected : s.net.clientConnected = true)
      (needed : s.net.refreshNeeded = true) :
      Governs s (.beginPass input)
        { s.control with
          policy := s.net.streamPolicy.startRefresh s.net.contentEpoch
            s.framebufferGeneration }
  | deferred (input : PassInput)
      (behind : s.net.streamPolicy.behindBarrier = true) :
      Governs s (.beginPass input)
        { s.control with policy := s.net.streamPolicy.deferLiveDamage }
  | closed (regionsIdle : Bool) :
      Governs s (.endPass regionsIdle)
        { s.control with
          policy := s.net.streamPolicy.closePass s.framebufferGeneration
            (s.queuesEmpty regionsIdle) }
  | reset {event : ServerEvent} (resets : s.resetsVideo event = true)
      (plain : s.Plain event) :
      Governs s event
        { s.control with
          contentEpoch := if s.net.videoOwnsDisplay then s.net.contentEpoch + 1
            else s.net.contentEpoch
          policy := s.net.streamPolicy.resetVideo s.net.clientConnected false }
  | tracked (outcome : VideoEncodeOutcome) (frame : VideoFrame) :
      Governs s (.completeVideoJob outcome)
        { s.control with
          policy := s.net.streamPolicy.trackKeyframe frame.frameId frame.keyframe
          videoFrames := frame :: s.trace.videoFrames }
  | committed (outcome : VideoEncodeOutcome) (frame : VideoFrame)
      (ready : s.net.streamPolicy.streamMode = .videoReady) :
      Governs s (.completeVideoJob outcome)
        { s.control with
          contentEpoch := s.net.contentEpoch + 1
          policy := s.net.streamPolicy.setMode .videoActive .none
          videoFrames := frame :: s.trace.videoFrames }
  | fedBack (contentEpoch sequence : Nat) (flags : VideoFeedbackFlags) :
      Governs s (.receiveVideoFeedback contentEpoch sequence flags)
        { s.control with
          policy := s.net.streamPolicy.noteFeedback sequence flags }
  | identified (token : Nat) (phase : s.net.sessionPhase = .closed) :
      Governs s (.identifySession token)
        { s.control with
          phase := .identified
          contentEpoch := s.net.contentEpoch + 1 }
  | configured (negotiation : Negotiation)
      (phase : s.net.sessionPhase = .identified) :
      Governs s (.configureSession negotiation)
        { s.control with
          phase := .configured
          policy := s.net.streamPolicy.beginSession negotiation.hello
            s.net.contentEpoch }
  | established (fd : Option Nat) (phase : s.net.sessionPhase = .configured) :
      Governs s (.establishSession fd) { s.control with phase := .established }
  | rolledBack (phase : s.net.sessionPhase ≠ .established) :
      Governs s .rollbackSession
        { s.control with phase := .closed, policy := .defaults }
  | disconnected (phase : s.net.sessionPhase = .established) :
      Governs s .disconnectClient
        { s.control with
          phase := .closed
          contentEpoch := if s.net.videoOwnsDisplay then s.net.contentEpoch + 2
            else s.net.contentEpoch + 1
          policy := s.net.streamPolicy.resetVideo false false }
  | resized (geometry : Geometry) (idle : s.worker.isIdle = true)
      (differs : geometry ≠ s.geometry) :
      Governs s (.applyDisplaySize geometry)
        { s.control with
          contentEpoch := s.net.contentEpoch + 1
          framebufferGeneration := s.framebufferGeneration + 1
          policy := s.net.streamPolicy.resetVideo s.net.clientConnected true }

namespace ServerState

/-! ## Sections that leave the mode machine alone -/

def governs : ServerEvent → Bool
  | .beginPass _ | .endPass _ | .controllerTick _ | .completeVideoJob _
  | .failVideoTransport | .identifySession _ | .configureSession _
  | .establishSession _ | .rollbackSession | .disconnectClient
  | .receiveVideoFeedback _ _ _ | .closeVideoChannel
  | .applyDisplaySize _ => true
  | _ => false

theorem Retiled.control {s s' : ServerState} (retiled : Retiled s s') :
    s'.control = s.control := by
  obtain ⟨tiles, deliveries, -⟩ := retiled
  rfl

theorem startBatch_control (s : ServerState) (stage : SendStage)
    (source : EncodeSource) (regions : List Nat) :
    (s.startBatch stage source regions).control = s.control := by
  unfold startBatch
  split <;> rfl

theorem beginBatch_control (s : ServerState) (regions : List Nat) :
    (s.beginBatch regions).control = s.control := by
  unfold beginBatch
  split
  · split
    · rw [startBatch_control, (s.supersedeRepairs_retiled _).control]
    · rfl
  · rfl

theorem sendEncoded_control (s : ServerState) (ids : List Nat)
    (encodedTile : EncodedTile) :
    (s.sendEncoded ids encodedTile).1.control = s.control := by
  unfold sendEncoded sendTilePayload
  dsimp only
  split_ifs
  · rfl
  all_goals exact (trackDelivery_retiled _ _ _ _ _).control

theorem completeJob_control (s : ServerState) (region : Nat)
    (results : List EncodeResult) :
    (s.completeJob region results).control = s.control := by
  rcases s.completeJob_eq region results with
    same | ⟨stage, batch, batch', -, skipped | processed⟩
  · rw [same]
  · rw [skipped]
    rfl
  · rw [processed]
    change (processResults batch region s results).1.control = s.control
    refine @processResults_invariant (fun s' => s'.control = s.control) _ _ _
      ?_ _ rfl
    intro s' encodedTile ids same _ _ _
    rw [sendResult_fst]
    split_ifs
    · exact (sendEncoded_control s' ids encodedTile).trans same
    · exact (sendEncoded_control s' ids encodedTile).trans same

theorem SameStream.control {s s' : ServerState} (same : SameStream s s') :
    s'.control = s.control := by
  rw [ServerState.control, same.net, same.framebufferGeneration, same.frames]
  rfl

theorem step_control (s : ServerState) {event : ServerEvent}
    (ungoverned : governs event = false) :
    (s.step event).control = s.control := by
  cases event with
  | render | applyPendingCompositorRequests | requestService | readForce
  | checkShadow | diffFrame | endBatch | advancePass =>
      exact (step_sameStream rfl s).control
  | beginBatch regions => exact beginBatch_control s regions
  | completeJob region results => exact completeJob_control s region results
  | completePacket index success =>
      exact (s.completePacket_retiled index success).control
  | takeVideoJob =>
      dsimp only [step, NetState.takeVideoJob]
      split <;> rfl
  | applyConfig configEpoch =>
      dsimp only [step, applyConfig]
      split_ifs <;> rfl
  | requestRepairs contentEpoch entries =>
      exact (s.requestRepairs_retiled contentEpoch entries).control
  | acceptVideoChannel fd =>
      dsimp only [step, NetState.acceptVideoChannel]
      split_ifs <;> rfl
  | _ => cases ungoverned

/-! ## Passes -/

theorem publishVideoSnapshot_control (s : ServerState)
    (snapshotReady sendPending : Bool) :
    (s.withNet (s.net.publishVideoSnapshot snapshotReady sendPending)).control =
      s.control := by
  unfold NetState.publishVideoSnapshot
  split
  · rfl
  · split_ifs <;> rfl

theorem serve_control (s : ServerState) (analysis : Option FrameAnalysis)
    (input : PassInput) (refreshStarted : Bool) :
    (s.serve analysis input refreshStarted).control = s.control ∨
      refreshStarted = false ∧ s.net.streamPolicy.behindBarrier = true ∧
        (s.serve analysis input refreshStarted).control =
          { s.control with policy := s.net.streamPolicy.deferLiveDamage } := by
  unfold serve
  split_ifs
  · left
    unfold serveVideo
    split_ifs
    · rfl
    · exact publishVideoSnapshot_control s _ _
  · unfold serveTiles
    split
    · exact Or.inl rfl
    · next analysis =>
      split_ifs with deferring
      · simp only [Bool.and_eq_true, Bool.not_eq_true'] at deferring
        exact Or.inr ⟨deferring.2, deferring.1, rfl⟩
      · left
        exact publishVideoSnapshot_control (s.withNet (s.net.applyFrameAnalysis
          s.geometry (analysis.changedTiles.getD fun _ => false))) _ _

theorem openPass_governs (s : ServerState) (analysis : Option FrameAnalysis)
    (input : PassInput) :
    Governs s (.beginPass input) (s.openPass analysis input).control := by
  have kept : Governs s (.beginPass input) s.control := .kept ⟨rfl, rfl, rfl, rfl, rfl⟩
  unfold openPass
  split_ifs with offline lacking needed full
  · exact kept
  · exact kept
  · simp only [Bool.or_eq_true, Bool.not_eq_true', not_or,
      Bool.not_eq_false] at offline
    rcases s.startRefresh.serve_control analysis input true with
      same | ⟨absurdity, -, -⟩
    · rw [same]
      exact .refreshed input offline.1 needed
    · cases absurdity
  · exact kept
  · rcases s.serve_control analysis input false with same | ⟨-, behind, deferred⟩
    · rw [same]
      exact kept
    · rw [deferred]
      exact .deferred input behind

theorem beginPass_governs (s : ServerState) (input : PassInput) :
    Governs s (.beginPass input) (s.beginPass input).control := by
  unfold beginPass
  split
  · exact openPass_governs s none input
  · exact openPass_governs s _ input
  · exact .kept ⟨rfl, rfl, rfl, rfl, rfl⟩

theorem endPass_governs (s : ServerState) (regionsIdle : Bool) :
    Governs s (.endPass regionsIdle) (s.endPass regionsIdle).control := by
  unfold endPass
  split
  · obtain ⟨_, closes⟩ := s.closePass_eq (s.queuesEmpty regionsIdle)
    exact closes ▸ .closed regionsIdle
  · exact .kept ⟨rfl, rfl, rfl, rfl, rfl⟩

/-! ## Video and sessions -/

theorem resetVideo_control (s : ServerState) (resize : Bool) :
    (s.withNet (s.net.resetVideo resize)).control =
      { s.control with
        contentEpoch := if resize || s.net.videoOwnsDisplay then
          s.net.contentEpoch + 1 else s.net.contentEpoch
        policy := s.net.streamPolicy.resetVideo s.net.clientConnected resize } := by
  unfold NetState.resetVideo
  dsimp only
  split_ifs <;> rfl

theorem completeVideoJob_governs {s : ServerState} (sound : s.OwnerSound)
    (outcome : VideoEncodeOutcome) :
    Governs s (.completeVideoJob outcome)
      (s.completeVideoJob outcome).control := by
  have kept : Governs s (.completeVideoJob outcome) s.control :=
    .kept ⟨rfl, rfl, rfl, rfl, rfl⟩
  unfold completeVideoJob
  cases active : s.net.activeJob with
  | none => exact kept
  | some job =>
      cases outcome with
      | noFrame => exact kept
      | encoded frameId keyframe sendPending queued =>
          dsimp only [finishVideoJob]
          split_ifs with dropped
          · exact kept
          · simp only [Bool.or_eq_true, Bool.not_eq_true', not_or,
              Bool.not_eq_false, Bool.not_eq_true] at dropped
            obtain ⟨⟨current, free⟩, requested⟩ := dropped
            replace current : s.net.videoJobCurrent job = true := current
            unfold queueVideoFrame
            split_ifs with refused commits
            · rw [resetVideo_control]
              refine .reset ?_ ⟨rfl, rfl, rfl, rfl, rfl⟩
              replace refused : queued = false := by simpa using refused
              dsimp only [resetsVideo, refusesFrame]
              rw [active, Option.any_some, current, free, requested, refused]
              rfl
            · obtain ⟨ready, rfl⟩ := commitsVideo_spec commits
              have fits := sound.jobs.active job active
              have epoch := (queueVideoFrame_entry (s := s) fits
                (videoJobCurrent_spec current).1 ready frameId).2
              have commits : (s.releaseJob.commitVideo job frameId true).control =
                  { s.control with
                    contentEpoch := s.net.contentEpoch + 1
                    policy := s.net.streamPolicy.setMode .videoActive .none
                    videoFrames :=
                      job.frame frameId true :: s.trace.videoFrames } := by
                rw [← epoch]
                rfl
              exact commits ▸ .committed _ _ ready
            · exact .tracked _ (job.frame frameId keyframe)

theorem closeVideoChannel_governs (s : ServerState) :
    Governs s .closeVideoChannel
      (s.withNet s.net.closeVideoChannel).control := by
  unfold NetState.closeVideoChannel
  split_ifs with opened
  · have resets : (s.withNet (s.net.dropVideoChannel.resetVideo false)).control =
        { s.control with
          contentEpoch := if s.net.videoOwnsDisplay then s.net.contentEpoch + 1
            else s.net.contentEpoch
          policy := s.net.streamPolicy.resetVideo s.net.clientConnected false } :=
      resetVideo_control (s.withNet s.net.dropVideoChannel) false
    exact resets ▸ .reset opened ⟨rfl, rfl, rfl, rfl, rfl⟩
  · exact .kept ⟨rfl, rfl, rfl, rfl, rfl⟩

theorem failVideoTransport_governs (s : ServerState) :
    Governs s .failVideoTransport s.failVideoTransport.control := by
  unfold failVideoTransport
  split_ifs with absent
  · exact .kept ⟨rfl, rfl, rfl, rfl, rfl⟩
  · have channel : s.net.videoTcpFd.isSome = true := by
      cases fd : s.net.videoTcpFd with
      | none => simp [fd] at absent
      | some _ => rfl
    have resets := resetVideo_control s false
    exact resets ▸ .reset channel ⟨rfl, rfl, rfl, rfl, rfl⟩

theorem disconnectClient_governs (s : ServerState) :
    Governs s .disconnectClient s.disconnectClient.control := by
  unfold disconnectClient
  split_ifs with phase
  · have closes := resetVideo_control (s.withNet s.net.closeSession) false
    have ends : ServerState.control { s with
          net := s.net.disconnect, trace := s.trace.settle } =
        { s.control with
          phase := .closed
          contentEpoch := if s.net.videoOwnsDisplay then s.net.contentEpoch + 2
            else s.net.contentEpoch + 1
          policy := s.net.streamPolicy.resetVideo false false } := closes
    exact ends ▸ .disconnected phase
  · exact .kept ⟨rfl, rfl, rfl, by simpa [endsSession] using phase, rfl⟩

theorem applyDisplaySize_governs (s : ServerState) (geometry : Geometry) :
    Governs s (.applyDisplaySize geometry)
      (s.applyDisplaySize geometry).control := by
  unfold applyDisplaySize
  split_ifs with refused
  · refine .kept ⟨rfl, rfl, rfl, rfl, ?_⟩
    simp only [resizes]
    cases idle : s.worker.isIdle with
    | false => rfl
    | true => simpa [idle] using refused
  · simp only [Bool.or_eq_true, Bool.not_eq_true', beq_iff_eq, not_or,
      Bool.not_eq_false] at refused
    have resets := resetVideo_control (s.withNet s.net.resize) true
    have replaces : (s.replaceDisplay geometry).control =
        { s.control with
          contentEpoch := s.net.contentEpoch + 1
          framebufferGeneration := s.framebufferGeneration + 1
          policy := s.net.streamPolicy.resetVideo s.net.clientConnected true } :=
      congrArg (fun control : Control => { control with
        framebufferGeneration := s.framebufferGeneration + 1 }) resets
    exact replaces ▸ .resized geometry refused.1 refused.2

theorem step_governs {s : ServerState} (sound : s.OwnerSound)
    (event : ServerEvent) : Governs s event (s.step event).control := by
  cases event with
  | beginPass input => exact beginPass_governs s input
  | endPass regionsIdle => exact endPass_governs s regionsIdle
  | controllerTick stats =>
      have ticks : (s.withNet (s.net.tick stats)).control =
          { s.control with
            contentEpoch := (s.net.tick stats).contentEpoch
            policy := (s.net.tick stats).streamPolicy } := by
        have phase := (s.net.tick_rest stats).1
        rw [control, control]
        exact congrArg (fun phase => Control.mk phase _ _ _ _) phase
      exact ticks ▸ .ticked stats
  | completeVideoJob outcome => exact completeVideoJob_governs sound outcome
  | failVideoTransport => exact failVideoTransport_governs s
  | identifySession token =>
      dsimp only [step, identifySession]
      split_ifs with phase
      · exact .identified token phase
      · exact .kept ⟨rfl, by simpa [startsSession] using phase, rfl, rfl, rfl⟩
  | configureSession negotiation =>
      dsimp only [step, configureSession]
      split_ifs with phase
      · exact .configured negotiation phase
      · exact .kept ⟨rfl, rfl, by simpa [configuresSession] using phase, rfl, rfl⟩
  | establishSession fd =>
      dsimp only [step, establishSession]
      split_ifs with phase
      · exact .established fd phase
      · exact .kept ⟨rfl, rfl, rfl, rfl, rfl⟩
  | rollbackSession =>
      dsimp only [step, rollbackSession]
      split_ifs with phase
      · exact .kept ⟨rfl, rfl, rfl, rfl, rfl⟩
      · exact .rolledBack phase
  | disconnectClient => exact disconnectClient_governs s
  | receiveVideoFeedback contentEpoch sequence flags =>
      dsimp only [step, NetState.receiveVideoFeedback]
      split_ifs
      · exact .fedBack contentEpoch sequence flags
      · exact .kept ⟨rfl, rfl, rfl, rfl, rfl⟩
  | closeVideoChannel => exact closeVideoChannel_governs s
  | applyDisplaySize geometry => exact applyDisplaySize_governs s geometry
  | _ =>
      rw [step_control s rfl]
      exact .kept ⟨rfl, rfl, rfl, rfl, rfl⟩

end ServerState

/-! ## Epochs and generations are numbered from one -/

/-- A session has an epoch, and the framebuffer a generation, above zero. -/
structure Control.Numbered (control : Control) : Prop where
  epoch : control.phase ≠ .closed → 0 < control.contentEpoch
  generation : 0 < control.framebufferGeneration

theorem Governs.numbered {s : ServerState} {event : ServerEvent}
    {control : Control} (governs : Governs s event control)
    (later : s.net.contentEpoch ≤ control.contentEpoch)
    (numbered : s.control.Numbered) : control.Numbered := by
  have opened (phase : s.net.sessionPhase ≠ .closed) :
      0 < control.contentEpoch := lt_of_lt_of_le (numbered.epoch phase) later
  cases governs with
  | identified token phase => exact ⟨fun _ => Nat.succ_pos _, numbered.generation⟩
  | configured negotiation phase =>
      exact ⟨fun _ => opened (by simp [phase]), numbered.generation⟩
  | established fd phase =>
      exact ⟨fun _ => opened (by simp [phase]), numbered.generation⟩
  | rolledBack phase =>
      exact ⟨fun notClosed => absurd rfl notClosed, numbered.generation⟩
  | disconnected phase =>
      exact ⟨fun notClosed => absurd rfl notClosed, numbered.generation⟩
  | resized geometry idle differs => exact ⟨opened, Nat.succ_pos _⟩
  | _ => exact ⟨opened, numbered.generation⟩

namespace ServerState

structure ControlSound (s : ServerState) : Prop where
  owner : s.OwnerSound
  numbered : s.control.Numbered

theorem ControlSound.step {s : ServerState} (sound : s.ControlSound)
    (event : ServerEvent) : (s.step event).ControlSound := by
  have moved := (step_effect sound.owner.closed sound.owner.jobs event).advances
    sound.owner.closed
  exact ⟨step_ownerSound sound.owner event,
    (step_governs sound.owner event).numbered moved.later sound.numbered⟩

theorem initial_controlSound (geometry : Geometry) (videoWorker : Bool) :
    (initial geometry videoWorker).ControlSound :=
  ⟨initial_ownerSound geometry videoWorker, fun opened => absurd rfl opened,
    Nat.one_pos⟩

end ServerState

end WayDisplay.Server
