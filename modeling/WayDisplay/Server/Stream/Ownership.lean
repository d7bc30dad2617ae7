import WayDisplay.Server.Stream.Owner
import WayDisplay.Server.Stream.WorkerSteps

/-!
Epochs of tiles and epochs of video.

Every event of the server is a move of its ledger: most are quiet, a completed
encode job sends tile packets of the current epoch, and a completed video job
sends a frame, with or without taking the display.
-/

namespace WayDisplay.Server

open Common Foundation

namespace ServerState

/-! ## Tile packets -/

structure SendsTiles (s s' : ServerState) : Prop where
  net : s.net.SameOwner s'.net
  frames : s'.trace.videoFrames = s.trace.videoFrames
  packets : ∃ packets, s'.trace.tilePackets = packets ++ s.trace.tilePackets ∧
    ∀ packet ∈ packets, packet.contentEpoch = s.net.contentEpoch

variable {s s' : ServerState}

theorem SendsTiles.of_same (net : s.net.SameOwner s'.net)
    (frames : s'.trace.videoFrames = s.trace.videoFrames)
    (packets : s'.trace.tilePackets = s.trace.tilePackets) : SendsTiles s s' :=
  ⟨net, frames, [], packets, by simp⟩

theorem SendsTiles.refl (s : ServerState) : SendsTiles s s :=
  .of_same (.refl s.net) rfl rfl

theorem SendsTiles.trans {s s' s'' : ServerState} (first : SendsTiles s s')
    (second : SendsTiles s' s'') : SendsTiles s s'' := by
  obtain ⟨packets, sent, current⟩ := first.packets
  obtain ⟨packets', sent', current'⟩ := second.packets
  refine ⟨first.net.trans second.net, second.frames.trans first.frames,
    packets' ++ packets, by rw [sent', sent, List.append_assoc], ?_⟩
  intro packet member
  rcases List.mem_append.mp member with member | member
  · rw [current' packet member, first.net.epoch]
  · exact current packet member

theorem Retiled.sendsTiles {s s' : ServerState} (retiled : Retiled s s') :
    SendsTiles s s' :=
  .of_same retiled.sameOwner.1 (congrArg Trace.videoFrames retiled.sameOwner.2)
    (congrArg Trace.tilePackets retiled.sameOwner.2)

variable {s : ServerState}

theorem emit_sendsTiles {packets : List TilePacket}
    (current : ∀ packet ∈ packets, packet.contentEpoch = s.net.contentEpoch) :
    SendsTiles s (s.emit packets) :=
  ⟨.refl s.net, rfl, packets, rfl, current⟩

theorem packetsFor_contentEpoch (net : NetState) (tile : WireTile)
    (generation : Nat) (payload : TilePayload) (sent : Nat) :
    ∀ packet ∈ net.packetsFor tile generation payload sent,
      packet.contentEpoch = net.contentEpoch := by
  intro packet member
  obtain ⟨packetId, -, rfl⟩ := List.mem_map.mp member
  rfl

theorem sendTilePayload_sendsTiles (s : ServerState) (tile : WireTile)
    (ids : List Nat) (generation : Nat) (payload : TilePayload)
    (packetStatus : Nat → AsyncUdpSendStatus) :
    SendsTiles s (s.sendTilePayload tile ids generation payload
      packetStatus).1 := by
  have sent (count : Nat) (failed : Bool) := (emit_sendsTiles
    (packetsFor_contentEpoch s.net tile generation payload count)).trans
      (trackDelivery_retiled _ ids generation count failed).sendsTiles
  unfold sendTilePayload
  dsimp only
  split_ifs
  · exact .refl s
  · exact (s.trackDelivery_retiled ids generation 0 true).sendsTiles
  · exact sent _ _
  · exact sent _ _
  · exact sent _ _

theorem sendResult_sendsTiles (s : ServerState) (batch : EncodeBatch)
    (ids : List Nat) (encodedTile : EncodedTile) :
    SendsTiles s (s.sendResult batch ids encodedTile).1 := by
  have sent : SendsTiles s (s.sendEncoded ids encodedTile).1 :=
    s.sendTilePayload_sendsTiles _ _ _ _ _
  rw [sendResult_fst]
  split_ifs
  · exact sent.trans (.of_same (NetState.mapTiles_sameOwner _ _) rfl rfl)
  · exact sent

theorem completeJob_sendsTiles (s : ServerState) (region : Nat)
    (results : List EncodeResult) :
    SendsTiles s (s.completeJob region results) := by
  rcases s.completeJob_eq region results with
    same | ⟨stage, batch, batch', -, same | processed⟩
  · exact same.symm ▸ .refl s
  · exact same.symm ▸ .of_same (.refl s.net) rfl rfl
  · have sent : SendsTiles s (processResults batch region s results).1 :=
      processResults_invariant (fun s' encodedTile ids sent _ _ _ =>
        sent.trans (s'.sendResult_sendsTiles batch ids encodedTile)) (.refl s)
    rw [processed]
    exact ⟨sent.net, sent.frames, sent.packets⟩

/-! ## Video frames -/

structure SendsFrame (s s' : ServerState) : Prop where
  net : s.net.Advances s'.net
  epoch : s'.net.contentEpoch = s.net.contentEpoch
  owns : s.net.videoOwnsDisplay = true
  owns' : s'.net.videoOwnsDisplay = true
  packets : s'.trace.tilePackets = s.trace.tilePackets
  frames : ∃ frame, s'.trace.videoFrames = frame :: s.trace.videoFrames ∧
    frame.contentEpoch = s.net.contentEpoch

structure EntersVideo (s s' : ServerState) : Prop where
  net : s.net.Advances s'.net
  epoch : s'.net.contentEpoch = s.net.contentEpoch + 1
  owns : s.net.videoOwnsDisplay = false
  owns' : s'.net.videoOwnsDisplay = true
  packets : s'.trace.tilePackets = s.trace.tilePackets
  frames : ∃ frame, s'.trace.videoFrames = frame :: s.trace.videoFrames ∧
    frame.contentEpoch = s'.net.contentEpoch ∧ frame.keyframe = true

/-- A current entry keyframe has been encoded, and the sender takes it. -/
def queuesEntryKeyframe (s : ServerState) : VideoEncodeOutcome → Bool
  | .noFrame => false
  | .encoded _ keyframe sendPending queued =>
      s.net.activeJob.any fun job =>
        s.net.videoJobCurrent job && !sendPending &&
          !(job.requestKeyframe && !keyframe) && queued &&
          s.commitsVideo job keyframe

theorem advances_of_releaseJob {net : NetState}
    (advances : s.releaseJob.net.Advances net) : s.net.Advances net :=
  ⟨advances.later, advances.change, advances.pending, fun job present => by
    rcases advances.active job present with absent | pending
    · cases absent
    · exact Or.inr pending, advances.closed⟩

variable {job : VideoWorkerJob}

theorem entryPlan_entry (entry : job.firstVideoEntry = true)
    (requested : job.requestKeyframe = true) :
    job.entryPlan true =
      ⟨job.sourceContentEpoch, job.sourceContentEpoch + 1, true⟩ := by
  simp [VideoWorkerJob.entryPlan, videoEntryPlanMake, entry, requested]

theorem entryPlan_inside (inside : job.firstVideoEntry = false)
    (keyframe : Bool) :
    job.entryPlan keyframe =
      ⟨job.sourceContentEpoch, job.sourceContentEpoch, false⟩ := by
  simp [VideoWorkerJob.entryPlan, videoEntryPlanMake, inside]

theorem videoReady_of_uses {mode : StreamMode}
    (uses : mode.usesVideoFrames = true)
    (notOwns : mode.videoOwnsDisplay = false) : mode = .videoReady := by
  cases mode <;> simp_all [StreamMode.usesVideoFrames,
    StreamMode.videoOwnsDisplay]

theorem queueVideoFrame_inside (fits : job.Fits s.net)
    (current : job.sourceContentEpoch = s.net.contentEpoch)
    (owns : s.net.videoOwnsDisplay = true) (frameId : Nat) (keyframe : Bool) :
    s.commitsVideo job keyframe = false ∧
      (job.frame frameId keyframe).contentEpoch = s.net.contentEpoch := by
  have inside : job.firstVideoEntry = false := by
    simpa [owns] using fits.entry current
  simp [commitsVideo, VideoWorkerJob.frame, entryPlan_inside inside,
    VideoEntryPlan.canCommit, current]

theorem queueVideoFrame_entry (fits : job.Fits s.net)
    (current : job.sourceContentEpoch = s.net.contentEpoch)
    (ready : s.net.streamPolicy.streamMode = .videoReady) (frameId : Nat) :
    s.commitsVideo job true = true ∧
      (job.frame frameId true).contentEpoch = s.net.contentEpoch + 1 := by
  have entry : job.firstVideoEntry = true := by
    rw [fits.entry current, NetState.videoOwnsDisplay, ready]
    rfl
  simp [commitsVideo, VideoWorkerJob.frame, ready,
    entryPlan_entry entry (fits.keyframe entry), VideoEntryPlan.canCommit,
    current]

theorem videoJobCurrent_spec {net : NetState}
    (current : net.videoJobCurrent job = true) :
    job.sourceContentEpoch = net.contentEpoch ∧
      net.videoTcpFd = some job.videoTcpFd ∧
      net.streamPolicy.streamMode.usesVideoFrames = true := by
  simp only [NetState.videoJobCurrent, Bool.and_eq_true, beq_iff_eq] at current
  obtain ⟨⟨⟨⟨-, epoch⟩, fd⟩, -⟩, uses⟩ := current
  exact ⟨epoch.symm, fd, uses⟩

theorem connected_of_channel {net : NetState} (closed : net.Closed) {fd : Nat}
    (channel : net.videoTcpFd = some fd) : net.clientConnected = true := by
  by_contra disconnected
  have absent := (closed (by simpa using disconnected)).2
  rw [channel] at absent
  cases absent

theorem commitVideo_entersVideo (closed : s.net.Closed) (fits : job.Fits s.net)
    (current : s.net.videoJobCurrent job = true)
    (ready : s.net.streamPolicy.streamMode = .videoReady) (frameId : Nat) :
    EntersVideo s (s.commitVideo job frameId true) := by
  obtain ⟨source, fd, -⟩ := videoJobCurrent_spec current
  have connected := connected_of_channel closed fd
  have epoch : (s.commitVideo job frameId true).net.contentEpoch =
      s.net.contentEpoch + 1 := (queueVideoFrame_entry fits source ready frameId).2
  have owns' : (s.commitVideo job frameId true).net.videoOwnsDisplay = true :=
    congrArg StreamMode.videoOwnsDisplay
      (StreamPolicy.setMode_streamMode _ .videoActive .none)
  refine ⟨.of_lt (epoch ▸ Nat.lt_succ_self _) (fun _ => id) rfl ?_, epoch, ?_,
    owns', rfl, job.frame frameId true, rfl, rfl, rfl⟩
  · exact fun disconnected => absurd (connected.symm.trans disconnected) (by simp)
  · rw [NetState.videoOwnsDisplay, ready]
    rfl

theorem recordVideoFrame_sendsFrame (closed : s.net.Closed)
    (fits : job.Fits s.net)
    (source : job.sourceContentEpoch = s.net.contentEpoch)
    (owns : s.net.videoOwnsDisplay = true) (frameId : Nat) (keyframe : Bool) :
    SendsFrame s (s.recordVideoFrame job frameId keyframe) := by
  have same : s.net.SameOwner (s.recordVideoFrame job frameId keyframe).net := by
    refine NetState.withPolicy_sameOwner ?_
    unfold StreamPolicy.trackKeyframe
    split_ifs <;> rfl
  exact ⟨(same.withholds closed).toAdvances, same.epoch, owns,
    same.owner.trans owns, rfl,
    job.frame frameId keyframe, rfl,
    (queueVideoFrame_inside fits source owns frameId keyframe).2⟩

theorem commitsVideo_spec {keyframe : Bool}
    (commits : s.commitsVideo job keyframe = true) :
    s.net.streamPolicy.streamMode = .videoReady ∧ keyframe = true := by
  simp only [commitsVideo, VideoEntryPlan.canCommit, Bool.and_eq_true,
    beq_iff_eq] at commits
  refine ⟨commits.1, ?_⟩
  cases keyframe with
  | true => rfl
  | false =>
      simp [VideoWorkerJob.entryPlan, videoEntryPlanMake] at commits

theorem queueVideoFrame_entersVideo {keyframe : Bool} (closed : s.net.Closed)
    (fits : job.Fits s.net) (current : s.net.videoJobCurrent job = true)
    (commits : s.commitsVideo job keyframe = true) (frameId : Nat) :
    EntersVideo s (s.queueVideoFrame job frameId keyframe true) := by
  obtain ⟨ready, rfl⟩ := commitsVideo_spec commits
  unfold queueVideoFrame
  rw [if_neg (by simp), if_pos commits]
  exact commitVideo_entersVideo closed fits current ready frameId

theorem queueVideoFrame_withholds {keyframe queued : Bool}
    (closed : s.net.Closed) (fits : job.Fits s.net)
    (current : s.net.videoJobCurrent job = true)
    (requested : (job.requestKeyframe && !keyframe) = false)
    (commitsNot : (queued && s.commitsVideo job keyframe) = false)
    (frameId : Nat) :
    Quiet s (s.queueVideoFrame job frameId keyframe queued) ∨
      SendsFrame s (s.queueVideoFrame job frameId keyframe queued) := by
  obtain ⟨source, -, uses⟩ := videoJobCurrent_spec current
  cases queued with
  | false =>
      exact Or.inl ⟨NetState.resetVideo_withholds (fun disconnected =>
        (closed disconnected).2) false, rfl, rfl⟩
  | true =>
      rw [Bool.true_and] at commitsNot
      have owns : s.net.videoOwnsDisplay = true := by
        by_contra owned
        have notOwns : s.net.videoOwnsDisplay = false := by simpa using owned
        have ready := videoReady_of_uses uses notOwns
        have entry : job.firstVideoEntry = true := by
          rw [fits.entry source, notOwns]
          rfl
        have key : keyframe = true := by
          simpa [fits.keyframe entry] using requested
        have commits := (queueVideoFrame_entry fits source ready frameId).1
        rw [key, commits] at commitsNot
        cases commitsNot
      have records : s.queueVideoFrame job frameId keyframe true =
          s.recordVideoFrame job frameId keyframe := by
        simp [queueVideoFrame, commitsNot]
      rw [records]
      exact Or.inr (recordVideoFrame_sendsFrame closed fits source owns frameId
        keyframe)

theorem completeVideoJob_entersVideo (closed : s.net.Closed)
    (fit : s.net.JobsFit) {outcome : VideoEncodeOutcome}
    (takes : s.queuesEntryKeyframe outcome = true) :
    EntersVideo s (s.completeVideoJob outcome) := by
  cases outcome with
  | noFrame => cases takes
  | encoded frameId keyframe sendPending queued =>
      obtain ⟨job, active, takes⟩ := (Option.any_eq_true _ _).mp takes
      simp only [Bool.and_eq_true, Bool.not_eq_true'] at takes
      obtain ⟨⟨⟨⟨current, free⟩, requested⟩, rfl⟩, commits⟩ := takes
      have fits := fit.active job active
      have entered := queueVideoFrame_entersVideo (s := s.releaseJob) closed
        ⟨fits.source_le, fits.entry, fits.keyframe⟩ current commits frameId
      have completes : s.completeVideoJob (.encoded frameId keyframe sendPending
          true) = s.releaseJob.queueVideoFrame job frameId keyframe true := by
        unfold completeVideoJob
        rw [active]
        refine if_neg ?_
        change ¬ (!s.net.videoJobCurrent job || sendPending ||
          job.requestKeyframe && !keyframe) = true
        simp [current, free, requested]
      rw [completes]
      exact ⟨advances_of_releaseJob entered.net, entered.epoch, entered.owns,
        entered.owns', entered.packets, entered.frames⟩

theorem inside_of_releaseJob
    (inside : Quiet s.releaseJob s' ∨ SendsFrame s.releaseJob s') :
    Quiet s s' ∨ SendsFrame s s' := by
  rcases inside with quiet | sends
  · exact Or.inl ⟨⟨advances_of_releaseJob quiet.net.toAdvances, quiet.net.keeps⟩,
      quiet.packets, quiet.frames⟩
  · exact Or.inr ⟨advances_of_releaseJob sends.net, sends.epoch, sends.owns,
      sends.owns', sends.packets, sends.frames⟩

theorem completeVideoJob_inside (closed : s.net.Closed) (fit : s.net.JobsFit)
    {outcome : VideoEncodeOutcome}
    (takesNot : s.queuesEntryKeyframe outcome = false) :
    Quiet s (s.completeVideoJob outcome) ∨
      SendsFrame s (s.completeVideoJob outcome) := by
  unfold completeVideoJob
  cases active : s.net.activeJob with
  | none => exact Or.inl (.refl closed)
  | some job =>
      apply inside_of_releaseJob
      change Quiet _ (s.releaseJob.finishVideoJob job outcome) ∨
        SendsFrame _ (s.releaseJob.finishVideoJob job outcome)
      cases outcome with
      | noFrame => exact Or.inl (.refl closed)
      | encoded frameId keyframe sendPending queued =>
          simp only [finishVideoJob]
          split_ifs with dropped
          · exact Or.inl (.refl closed)
          · have fits := fit.active job active
            simp only [Bool.or_eq_true, Bool.not_eq_true', not_or,
              Bool.not_eq_false, Bool.not_eq_true] at dropped
            obtain ⟨⟨current, free⟩, requested⟩ := dropped
            refine queueVideoFrame_withholds (s := s.releaseJob) closed
              ⟨fits.source_le, fits.entry, fits.keyframe⟩ current requested ?_
              frameId
            simp only [queuesEntryKeyframe, active, Option.any_some] at takesNot
            replace current : s.net.videoJobCurrent job = true := current
            change (queued && s.commitsVideo job keyframe) = false
            simpa [current, free, requested] using takesNot

/-! ## Every event is a move -/

def ledger (s : ServerState) : EpochLedger where
  secondOwns := s.net.videoOwnsDisplay
  epoch := s.net.contentEpoch
  firstLabels := s.trace.tilePackets.map TilePacket.contentEpoch
  secondLabels := s.trace.videoFrames.map VideoFrame.contentEpoch

theorem move_of_advances (net : s.net.Advances s'.net)
    (packets : s'.trace.tilePackets = s.trace.tilePackets)
    (frames : s'.trace.videoFrames = s.trace.videoFrames) :
    s.ledger.Move s'.ledger := by
  have same : s'.ledger = { s.ledger with
      secondOwns := s'.net.videoOwnsDisplay, epoch := s'.net.contentEpoch } := by
    simp only [ledger, packets, frames]
  rw [same]
  exact .advance net.later net.change

theorem SendsTiles.move (sends : SendsTiles s s') :
    s.ledger.Move s'.ledger := by
  obtain ⟨packets, sent, current⟩ := sends.packets
  have same : s'.ledger = { s.ledger with
      firstLabels := packets.map TilePacket.contentEpoch ++
        s.ledger.firstLabels } := by
    simp only [ledger, sent, sends.frames, sends.net.owner, sends.net.epoch,
      List.map_append]
  rw [same]
  refine .sendFirst ?_
  intro label member
  obtain ⟨packet, sends, rfl⟩ := List.mem_map.mp member
  exact current packet sends

theorem SendsFrame.move (sends : SendsFrame s s') :
    s.ledger.Move s'.ledger := by
  obtain ⟨frame, sent, current⟩ := sends.frames
  have same : s'.ledger = { s.ledger with
      secondLabels := s.ledger.epoch :: s.ledger.secondLabels } := by
    simp only [ledger, sent, sends.packets, sends.epoch, sends.owns, sends.owns',
      List.map_cons, current]
  rw [same]
  exact .sendSecond sends.owns

theorem EntersVideo.move (enters : EntersVideo s s') :
    s.ledger.Move s'.ledger := by
  obtain ⟨frame, sent, current, -⟩ := enters.frames
  have same : s'.ledger = { s.ledger with
      secondOwns := true
      epoch := s.ledger.epoch + 1
      secondLabels := (s.ledger.epoch + 1) :: s.ledger.secondLabels } := by
    simp only [ledger, sent, enters.packets, enters.owns', enters.epoch,
      List.map_cons, current]
  rw [same]
  exact .handOver enters.owns

/-- What an event can do, in terms of owners and epochs. -/
inductive Effect (s s' : ServerState) : Prop
  | quiet (net : s.net.Advances s'.net)
      (packets : s'.trace.tilePackets = s.trace.tilePackets)
      (frames : s'.trace.videoFrames = s.trace.videoFrames)
  | sendsTiles (inPass : s.worker.isSending = true) (sends : SendsTiles s s')
  | sendsFrame (sends : SendsFrame s s')
  | entersVideo (enters : EntersVideo s s')

theorem Effect.advances (effect : Effect s s') (closed : s.net.Closed) :
    s.net.Advances s'.net := by
  cases effect with
  | quiet net => exact net
  | sendsTiles _ sends => exact (sends.net.withholds closed).toAdvances
  | sendsFrame sends => exact sends.net
  | entersVideo enters => exact enters.net

theorem Effect.sender (effect : Effect s s')
    (sent : s'.ledger.firstLabels ≠ s.ledger.firstLabels) :
    s.worker.isSending = true := by
  have unsent (same : s'.trace.tilePackets = s.trace.tilePackets) :
      s.worker.isSending = true :=
    absurd (congrArg (List.map TilePacket.contentEpoch) same) sent
  cases effect with
  | quiet _ packets => exact unsent packets
  | sendsTiles inPass => exact inPass
  | sendsFrame sends => exact unsent sends.packets
  | entersVideo enters => exact unsent enters.packets

theorem Effect.move (effect : Effect s s') :
    s.ledger.Move s'.ledger := by
  cases effect with
  | quiet net packets frames => exact move_of_advances net packets frames
  | sendsTiles _ sends => exact sends.move
  | sendsFrame sends => exact sends.move
  | entersVideo enters => exact enters.move

end ServerState

def ServerState.handsDisplay (s : ServerState) : ServerEvent → Prop
  | .controllerTick stats => s.net.streamPolicy.HandsToVideo stats
  | .completeVideoJob outcome => s.queuesEntryKeyframe outcome = true
  | _ => False

instance (s : ServerState) (event : ServerEvent) :
    Decidable (s.handsDisplay event) :=
  decidable_of_iff ((match event with
    | .controllerTick stats => decide (s.net.streamPolicy.HandsToVideo stats)
    | .completeVideoJob outcome => s.queuesEntryKeyframe outcome
    | _ => false) = true)
    (by cases event <;> simp [ServerState.handsDisplay])

namespace ServerState

theorem tick_withholds {net : NetState} (closed : net.Closed)
    {stats : TickStats} (asksNot : ¬ net.streamPolicy.HandsToVideo stats) :
    net.Withholds (net.tick stats) := by
  refine ⟨NetState.tick_advances closed stats, fun owns => ?_⟩
  rw [NetState.videoOwnsDisplay, NetState.tick_streamMode] at owns
  exact StreamPolicy.tick_keepsOwner owns asksNot

variable {s : ServerState}

theorem step_withholds (closed : s.net.Closed) (fit : s.net.JobsFit)
    {event : ServerEvent} (keeps : ¬ s.handsDisplay event) :
    Effect s (s.step event) ∧
      ((s.step event).net.videoOwnsDisplay = true →
        s.net.videoOwnsDisplay = true) := by
  have quiet {s' : ServerState} (quiet : Quiet s s') : Effect s s' ∧
      (s'.net.videoOwnsDisplay = true → s.net.videoOwnsDisplay = true) :=
    ⟨.quiet quiet.net.toAdvances quiet.packets quiet.frames, quiet.net.keeps⟩
  cases event with
  | render | applyPendingCompositorRequests | requestService | readForce
  | checkShadow | diffFrame | endBatch | advancePass =>
      exact quiet ((step_sameStream rfl s).quiet closed)
  | beginPass input => exact quiet (beginPass_quiet closed input)
  | beginBatch regions => exact quiet (beginBatch_quiet closed regions)
  | completeJob region results =>
      cases inPass : s.worker.isSending with
      | true =>
          have sends := s.completeJob_sendsTiles region results
          exact ⟨.sendsTiles inPass sends, fun owns => sends.net.owner ▸ owns⟩
      | false =>
          have same : s.completeJob region results = s :=
            (worker_of_not_isSending inPass).2.2.2.2 region results
          have unchanged : Quiet s (s.completeJob region results) := by
            rw [same]
            exact .refl closed
          exact quiet unchanged
  | endPass regionsIdle => exact quiet (endPass_quiet closed regionsIdle)
  | completePacket index success =>
      exact quiet ((s.completePacket_retiled index success).quiet closed)
  | controllerTick stats =>
      exact quiet ⟨tick_withholds closed keeps, rfl, rfl⟩
  | takeVideoJob =>
      exact quiet ⟨NetState.takeVideoJob_withholds closed, rfl, rfl⟩
  | completeVideoJob outcome =>
      rcases completeVideoJob_inside closed fit
        (eq_false_of_ne_true keeps) with unsent | sends
      · exact quiet unsent
      · exact ⟨.sendsFrame sends, fun _ => sends.owns⟩
  | failVideoTransport => exact quiet (failVideoTransport_quiet closed)
  | identifySession token => exact quiet (identifySession_quiet closed token)
  | configureSession negotiation =>
      exact quiet (configureSession_quiet closed negotiation)
  | establishSession fd => exact quiet (establishSession_quiet closed fd)
  | rollbackSession => exact quiet (rollbackSession_quiet closed)
  | disconnectClient => exact quiet (disconnectClient_quiet closed)
  | applyConfig epoch => exact quiet (applyConfig_quiet closed epoch)
  | requestRepairs epoch entries =>
      exact quiet ((s.requestRepairs_retiled epoch entries).quiet closed)
  | receiveVideoFeedback epoch sequence flags =>
      exact quiet (receiveVideoFeedback_quiet closed epoch sequence flags)
  | acceptVideoChannel fd => exact quiet (acceptVideoChannel_quiet closed fd)
  | closeVideoChannel => exact quiet (closeVideoChannel_quiet closed)
  | applyDisplaySize geometry =>
      exact quiet (applyDisplaySize_quiet closed geometry)

theorem step_effect (closed : s.net.Closed) (fit : s.net.JobsFit)
    (event : ServerEvent) :
    Effect s (s.step event) := by
  by_cases hands : s.handsDisplay event
  · cases event with
    | controllerTick stats =>
        exact .quiet (NetState.tick_advances closed stats) rfl rfl
    | completeVideoJob outcome =>
        exact .entersVideo (completeVideoJob_entersVideo closed fit hands)
    | _ => exact hands.elim
  · exact (step_withholds closed fit hands).1

/-! ## Invariants of every run -/

structure OwnerSound (s : ServerState) : Prop where
  closed : s.net.Closed
  jobs : s.net.JobsFit
  ordered : s.ledger.Ordered

theorem initial_ownerSound (geometry : Geometry) (videoWorker : Bool) :
    (initial geometry videoWorker).OwnerSound where
  closed := fun _ => ⟨rfl, rfl⟩
  jobs := ⟨by simp [initial, NetState.initial], by simp [initial, NetState.initial]⟩
  ordered := ⟨by simp [initial, ledger], by simp [initial, ledger]⟩

theorem step_ownerSound (sound : s.OwnerSound) (event : ServerEvent) :
    (s.step event).OwnerSound := by
  have effect := step_effect sound.closed sound.jobs event
  have advances := effect.advances sound.closed
  exact ⟨advances.closed, advances.jobsFit sound.jobs,
    effect.move.ordered sound.ordered⟩

/-! ## Passes -/

theorem serve_isSending {analysis : Option FrameAnalysis} {input : PassInput}
    {refreshStarted : Bool}
    (sending : (s.serve analysis input refreshStarted).worker.isSending = true) :
    s.net.videoOwnsDisplay = false := by
  by_contra owned
  have owns : s.net.videoOwnsDisplay = true := by simpa using owned
  unfold serve serveVideo at sending
  rw [if_pos owns] at sending
  split_ifs at sending <;> cases sending

theorem beginPass_isSending (closed : s.net.Closed) {input : PassInput}
    (sending : (s.beginPass input).worker.isSending = true) :
    s.worker.isSending = true ∨
      (s.beginPass input).net.videoOwnsDisplay = false := by
  have notOwns (notOwns : s.net.videoOwnsDisplay = false) :
      (s.beginPass input).net.videoOwnsDisplay = false := by
    by_contra owns
    have owned := (beginPass_quiet closed input).net.keeps (by simpa using owns)
    exact absurd (owned.symm.trans notOwns) (by simp)
  have opened {analysis : Option FrameAnalysis}
      (sending : (s.openPass analysis input).worker.isSending = true) :
      s.net.videoOwnsDisplay = false := by
    unfold openPass at sending
    split_ifs at sending
    · cases sending
    · cases sending
    · exact s.startRefresh_sameOwner.owner ▸ serve_isSending sending
    · cases sending
    · exact serve_isSending sending
  unfold beginPass at sending
  split at sending
  · exact Or.inr (notOwns (opened sending))
  · exact Or.inr (notOwns (opened sending))
  · exact Or.inl sending

/-! ## Epochs of tiles and epochs of video are different -/

/-- Inside a pass nothing hands the display to video. -/
def PassUndisturbed (s : ServerState) (event : ServerEvent) : Prop :=
  s.worker.isSending = true → ¬ s.handsDisplay event

instance (s : ServerState) (event : ServerEvent) :
    Decidable (s.PassUndisturbed event) := by
  unfold PassUndisturbed
  infer_instance

/-- The epochs are kept apart, and who is inside a pass is the owner. -/
structure Apart (s : ServerState) : Prop where
  owner : s.OwnerSound
  separated : s.ledger.Separated
  inPass : s.worker.isSending = true → s.net.videoOwnsDisplay = false

theorem step_inPass {event : ServerEvent} (apart : s.Apart)
    (undisturbed : s.PassUndisturbed event)
    (sending : (s.step event).worker.isSending = true) :
    (s.step event).net.videoOwnsDisplay = false := by
  have stays (inside : s.worker.isSending = true) :
      (s.step event).net.videoOwnsDisplay = false := by
    by_contra owned
    have owns := (step_withholds apart.owner.closed apart.owner.jobs
      (undisturbed inside)).2 (by simpa using owned)
    exact absurd (owns.symm.trans (apart.inPass inside)) (by simp)
  by_cases opens : ∃ input, event = .beginPass input
  · obtain ⟨input, rfl⟩ := opens
    rcases beginPass_isSending apart.owner.closed sending with inside | notOwns
    · exact stays inside
    · exact notOwns
  · exact stays (step_isSending sending fun input same => opens ⟨input, same⟩)

theorem step_apart {event : ServerEvent} (apart : s.Apart)
    (undisturbed : s.PassUndisturbed event) : (s.step event).Apart := by
  have effect := step_effect apart.owner.closed apart.owner.jobs event
  exact ⟨step_ownerSound apart.owner event,
    effect.move.separated apart.owner.ordered apart.separated fun sent =>
      apart.inPass (effect.sender sent),
    step_inPass apart undisturbed⟩

theorem initial_apart (geometry : Geometry) (videoWorker : Bool) :
    (initial geometry videoWorker).Apart where
  owner := initial_ownerSound geometry videoWorker
  separated := ⟨by simp [initial, ledger], by simp [initial, ledger],
    by simp [initial, ledger]⟩
  inPass := fun sending => by cases sending

/--
No content epoch labels a tile packet and a video frame, and the tiles' packets
carry no epoch in which video owns the display.
-/
def EpochsSeparate (s : ServerState) : Prop :=
  (∀ packet ∈ s.trace.tilePackets, ∀ frame ∈ s.trace.videoFrames,
    packet.contentEpoch ≠ frame.contentEpoch) ∧
  (s.net.videoOwnsDisplay = true →
    ∀ packet ∈ s.trace.tilePackets, packet.contentEpoch ≠ s.net.contentEpoch)

instance (s : ServerState) : Decidable s.EpochsSeparate := by
  unfold EpochsSeparate
  infer_instance

theorem Apart.epochsSeparate (apart : s.Apart) :
    s.EpochsSeparate := by
  constructor
  · intro packet sent frame sent' same
    refine apart.separated.disjoint packet.contentEpoch
      (List.mem_map_of_mem sent) ?_
    rw [same]
    exact List.mem_map_of_mem sent'
  · intro owns packet sent same
    exact apart.separated.first_owner owns
      (same ▸ List.mem_map_of_mem sent : s.net.contentEpoch ∈ _)

end ServerState

def keyframeBetweenPasses : List ServerEvent :=
  Script.toReady ++ [Script.frame (Script.oneTile 0) 2 false] ++
    Script.analyze ++ Script.sendAll ++ Script.enterVideo

def keyframeInsidePass : List ServerEvent :=
  Script.toReady ++ [Script.frame (Script.oneTile 0) 2 false] ++
    Script.analyze ++ [Script.beginPass, .beginBatch [0]] ++
    Script.enterVideo ++ [.completeJob 0 [Script.sentTile 0]]

/--
In every run in which nothing hands the display to video inside a pass, tiles
and video never share a content epoch.
-/
theorem epochsSeparate_of_passUndisturbed {geometry : Geometry}
    {videoWorker : Bool} {events : List ServerEvent}
    (undisturbed : Along ServerState.step ServerState.PassUndisturbed
      (.initial geometry videoWorker) events) :
    (serverRun geometry videoWorker events).EpochsSeparate :=
  (invariant_runFrom (fun _ _ => ServerState.step_apart)
    (ServerState.initial_apart geometry videoWorker) undisturbed).epochsSeparate

theorem keyframeBetweenPasses_epochsSeparate :
    (serverRun Script.display true keyframeBetweenPasses).EpochsSeparate ∧
      (serverRun Script.display true keyframeBetweenPasses).ledger =
        ⟨true, 2, [1, 1, 1, 1, 1, 1, 1, 1], [2]⟩ :=
  ⟨epochsSeparate_of_passUndisturbed (by decide +kernel), by decide +kernel⟩

theorem keyframeInsidePass_mixes_epochs :
    ¬ (serverRun Script.display true keyframeInsidePass).EpochsSeparate := by
  decide +kernel

/-! ## Video enters with a keyframe -/

namespace ServerState

/-- The step queues a keyframe, the first frame of the epoch that it opens. -/
def QueuesFirstKeyframe (s s' : ServerState) : Prop :=
  ∃ frame, s'.trace.videoFrames = frame :: s.trace.videoFrames ∧
    frame.keyframe = true ∧ frame.contentEpoch = s'.net.contentEpoch ∧
    s.net.contentEpoch < s'.net.contentEpoch ∧
    ∀ earlier ∈ s.trace.videoFrames,
      earlier.contentEpoch ≠ s'.net.contentEpoch

/-- If the event hands the display to video, it queues a first keyframe. -/
def EntersByKeyframe (s : ServerState) (event : ServerEvent) : Prop :=
  s.net.videoOwnsDisplay = false →
    (s.step event).net.videoOwnsDisplay = true →
      s.QueuesFirstKeyframe (s.step event)

/-- No tick hands the display to video on the client's statistics alone. -/
def TickWithholds (s : ServerState) : ServerEvent → Prop
  | .controllerTick stats => ¬ s.net.streamPolicy.HandsToVideo stats
  | _ => True

instance (s : ServerState) (event : ServerEvent) :
    Decidable (s.TickWithholds event) :=
  decidable_of_iff ((match event with
    | .controllerTick stats => decide (¬ s.net.streamPolicy.HandsToVideo stats)
    | _ => true) = true) (by cases event <;> simp [TickWithholds])

theorem EntersVideo.queuesFirstKeyframe {s s' : ServerState}
    (enters : EntersVideo s s') (ordered : s.ledger.Ordered) :
    s.QueuesFirstKeyframe s' := by
  obtain ⟨frame, sent, current, keyframe⟩ := enters.frames
  have later : s.net.contentEpoch < s'.net.contentEpoch := by
    rw [enters.epoch]
    exact Nat.lt_succ_self _
  refine ⟨frame, sent, keyframe, current, later, fun earlier member same => ?_⟩
  have bound := ordered.second_le earlier.contentEpoch
    (List.mem_map_of_mem member)
  exact absurd (same ▸ bound) (Nat.not_le.mpr later)

theorem step_entersByKeyframe {s : ServerState} {event : ServerEvent}
    (sound : s.OwnerSound) (withholds : s.TickWithholds event) :
    s.EntersByKeyframe event := by
  intro notOwns owns'
  by_cases hands : s.handsDisplay event
  · cases event with
    | controllerTick stats => exact absurd hands withholds
    | completeVideoJob outcome =>
        exact (completeVideoJob_entersVideo sound.closed sound.jobs
          hands).queuesFirstKeyframe sound.ordered
    | _ => exact hands.elim
  · have owns := (step_withholds sound.closed sound.jobs hands).2 owns'
    exact absurd (owns.symm.trans notOwns) (by simp)

end ServerState

def overloadedBeforeVideo : List ServerEvent :=
  Script.toReady ++ [Script.tick 1 { Script.quietHealth with
    clientReports := 1
    clientDecodeQueueDrops := 1 }]

/--
In every run in which no tick hands the display to video by itself, each event
that does queues the first keyframe of a new epoch.
-/
theorem entersByKeyframe_of_tickWithholds {geometry : Geometry}
    {videoWorker : Bool} {events : List ServerEvent}
    (withholds : Along ServerState.step ServerState.TickWithholds
      (.initial geometry videoWorker) events) :
    Along ServerState.step ServerState.EntersByKeyframe
      (.initial geometry videoWorker) events :=
  along_of_invariant
    (fun _ event sound _ => ServerState.step_ownerSound sound event)
    (fun _ _ => ServerState.step_entersByKeyframe)
    (ServerState.initial_ownerSound geometry videoWorker) withholds

theorem keyframeInsidePass_entersByKeyframe :
    Along ServerState.step ServerState.EntersByKeyframe
        (.initial Script.display true) keyframeInsidePass ∧
      (serverRun Script.display true keyframeInsidePass).net.videoOwnsDisplay =
        true :=
  ⟨entersByKeyframe_of_tickWithholds (by decide +kernel), by decide +kernel⟩

theorem overloadedBeforeVideo_enters_without_keyframe :
    ¬ Along ServerState.step ServerState.EntersByKeyframe
      (.initial Script.display true) overloadedBeforeVideo := by
  intro enters
  obtain ⟨-, enters, -⟩ := along_append.mp enters
  obtain ⟨frame, sent, -⟩ := enters (by decide +kernel) (by decide +kernel)
  have none : (serverRun Script.display true
      overloadedBeforeVideo).trace.videoFrames = [] := by decide +kernel
  exact absurd (none.symm.trans sent) (by simp)

end WayDisplay.Server
