import WayDisplay.Server.Stream.System

/-!
What moves the frame worker.

The worker's phase changes only with the events of the compositor, which hands
it work while it is idle, and with its own.  The captured images change only
with rendering, the comparison with the shadow, and a new display size.  Repairs
and deliveries only queue tiles again.
-/

namespace WayDisplay.Server

open Common

/-! ## Queueing -/

namespace TileState

structure Requeued (tile tile' : TileState) : Prop where
  generation : tile'.generation = tile.generation
  dirty : tile.dirtyQueued = true → tile'.dirtyQueued = true

theorem Requeued.refl (tile : TileState) : Requeued tile tile :=
  ⟨rfl, id⟩

theorem markDirty_requeued (tile : TileState) :
    Requeued tile tile.markDirty := by
  unfold markDirty
  split_ifs
  · exact ⟨rfl, id⟩
  · exact ⟨rfl, fun _ => rfl⟩
  · exact ⟨rfl, fun _ => rfl⟩

theorem clearRetransmitRequest_requeued (tile : TileState) :
    Requeued tile tile.clearRetransmitRequest := by
  unfold clearRetransmitRequest
  split_ifs
  · exact ⟨rfl, id⟩
  · exact .refl tile

theorem queueRetransmit_requeued (tile : TileState) (requested : Nat) :
    Requeued tile (tile.queueRetransmit requested) := by
  unfold queueRetransmit
  split_ifs <;> exact ⟨rfl, id⟩

end TileState

namespace ServerState

/-- Tiles are queued again and deliveries counted; the rest is as before. -/
inductive Retiled (s : ServerState) : ServerState → Prop
  | intro (tiles : Nat → TileState) (deliveries : List TileDelivery)
      (requeued : ∀ tileId, (s.net.tiles tileId).Requeued (tiles tileId)) :
      Retiled s (s.withNet
        { s.net with tiles := tiles, deliveries := deliveries })

theorem Retiled.refl (s : ServerState) : Retiled s s :=
  .intro s.net.tiles s.net.deliveries fun _ => .refl _

theorem Retiled.trans {s s' s'' : ServerState} (first : Retiled s s')
    (second : Retiled s' s'') : Retiled s s'' := by
  obtain ⟨tiles, deliveries, requeued⟩ := first
  obtain ⟨tiles', deliveries', requeued'⟩ := second
  exact .intro tiles' deliveries' fun tileId =>
    ⟨(requeued' tileId).generation.trans (requeued tileId).generation,
      fun queued => (requeued' tileId).dirty ((requeued tileId).dirty queued)⟩

theorem withDeliveries_retiled (s : ServerState)
    (deliveries : List TileDelivery) :
    Retiled s (s.withNet (s.net.withDeliveries deliveries)) :=
  .intro s.net.tiles deliveries fun _ => .refl _

theorem mapTiles_retiled (s : ServerState)
    {update : Nat → TileState → TileState}
    (requeued : ∀ tileId (tile : TileState),
      tile.Requeued (update tileId tile)) :
    Retiled s (s.withNet (s.net.mapTiles update)) :=
  .intro _ s.net.deliveries fun tileId => requeued tileId _

theorem markDirtyTiles_requeued (dirty : Nat → Bool) (tileId : Nat)
    (tile : TileState) :
    tile.Requeued (if dirty tileId then tile.markDirty else tile) := by
  split_ifs
  · exact tile.markDirty_requeued
  · exact .refl tile

theorem markDirtyTiles_retiled (s : ServerState) (dirty : Nat → Bool) :
    Retiled s (s.withNet (s.net.markDirtyTiles dirty)) :=
  s.mapTiles_retiled (markDirtyTiles_requeued dirty)

theorem finishDelivery_retiled (s : ServerState) (delivery : TileDelivery) :
    Retiled s (s.finishDelivery delivery) := by
  unfold finishDelivery redirty
  split_ifs
  · exact s.markDirtyTiles_retiled _
  · exact .refl s

theorem trackDelivery_retiled (s : ServerState) (ids : List Nat)
    (generation sent : Nat) (failed : Bool) :
    Retiled s (s.trackDelivery ids generation sent failed) := by
  unfold trackDelivery
  dsimp only
  split_ifs
  · exact s.finishDelivery_retiled _
  · exact s.withDeliveries_retiled _

theorem completePacket_retiled (s : ServerState) (index : Nat)
    (success : Bool) : Retiled s (s.completePacket index success) := by
  unfold completePacket
  split
  · exact .refl s
  · dsimp only
    split_ifs
    · exact (s.withDeliveries_retiled _).trans (finishDelivery_retiled _ _)
    · exact s.withDeliveries_retiled _

theorem requestRepairs_retiled (s : ServerState) (contentEpoch : Nat)
    (entries : List (Nat × Nat)) :
    Retiled s (s.requestRepairs contentEpoch entries) := by
  have queued : Retiled s (entries.foldl queueRepair s) := by
    induction entries generalizing s with
    | nil => exact .refl s
    | cons entry rest ih =>
        refine Retiled.trans ?_ (ih (s.queueRepair entry))
        unfold queueRepair
        split_ifs
        · exact .refl s
        · refine s.mapTiles_retiled fun tileId tile => ?_
          split_ifs
          · exact tile.queueRetransmit_requeued _
          · exact tile.queueRetransmit_requeued _
          · exact .refl tile
  unfold requestRepairs
  split_ifs
  · exact .refl s
  · exact queued

theorem supersedeRepairs_retiled (s : ServerState) (source : EncodeSource) :
    Retiled s (s.supersedeRepairs source) := by
  cases source with
  | fresh => exact .refl s
  | retransmit =>
      refine s.mapTiles_retiled fun _ tile => ?_
      split_ifs
      · exact tile.clearRetransmitRequest_requeued
      · exact .refl tile

structure SameFrames (s s' : ServerState) : Prop where
  worker : s'.worker = s.worker
  geometry : s'.geometry = s.geometry
  capture : s'.capture = s.capture

theorem SameFrames.refl (s : ServerState) : SameFrames s s :=
  ⟨rfl, rfl, rfl⟩

theorem withNet_sameFrames (s : ServerState) (net : NetState) :
    SameFrames s (s.withNet net) :=
  ⟨rfl, rfl, rfl⟩

theorem Retiled.sameFrames {s s' : ServerState} (retiled : Retiled s s') :
    SameFrames s s' := by
  obtain ⟨tiles, deliveries, -⟩ := retiled
  exact s.withNet_sameFrames _

theorem completeVideoJob_sameFrames (s : ServerState)
    (outcome : VideoEncodeOutcome) :
    SameFrames s (s.completeVideoJob outcome) := by
  unfold completeVideoJob finishVideoJob queueVideoFrame
  split
  · exact .refl s
  · split
    · exact ⟨rfl, rfl, rfl⟩
    · split_ifs <;> exact ⟨rfl, rfl, rfl⟩

end ServerState

/-- Events of the compositor and of the worker that leave the stream alone. -/
def ServerEvent.isLocal : ServerEvent → Bool
  | .render _ | .applyPendingCompositorRequests | .requestService | .readForce
  | .checkShadow | .diffFrame | .endBatch | .advancePass => true
  | _ => false

namespace ServerState

structure SameStream (s s' : ServerState) : Prop where
  net : s'.net = s.net
  geometry : s'.geometry = s.geometry
  framebufferGeneration : s'.framebufferGeneration = s.framebufferGeneration
  packets : s'.trace.tilePackets = s.trace.tilePackets
  frames : s'.trace.videoFrames = s.trace.videoFrames

theorem step_sameStream {event : ServerEvent} (apart : event.isLocal = true)
    (s : ServerState) : SameStream s (s.step event) := by
  cases event with
  | render outcome =>
      dsimp only [step, render, submitFrame]
      split_ifs
      · cases outcome <;> exact ⟨rfl, rfl, rfl, rfl, rfl⟩
      · exact ⟨rfl, rfl, rfl, rfl, rfl⟩
  | applyPendingCompositorRequests =>
      dsimp only [step, applyPendingCompositorRequests]
      split_ifs <;> exact ⟨rfl, rfl, rfl, rfl, rfl⟩
  | requestService =>
      dsimp only [step, requestService]
      split_ifs <;> exact ⟨rfl, rfl, rfl, rfl, rfl⟩
  | readForce =>
      dsimp only [step, readForce]
      split <;> exact ⟨rfl, rfl, rfl, rfl, rfl⟩
  | checkShadow =>
      dsimp only [step, checkShadow, dropShadow]
      split
      · split_ifs <;> exact ⟨rfl, rfl, rfl, rfl, rfl⟩
      · exact ⟨rfl, rfl, rfl, rfl, rfl⟩
  | diffFrame =>
      dsimp only [step, diffFrame]
      split <;> exact ⟨rfl, rfl, rfl, rfl, rfl⟩
  | endBatch =>
      dsimp only [step, endBatch]
      split
      · split_ifs <;> exact ⟨rfl, rfl, rfl, rfl, rfl⟩
      · exact ⟨rfl, rfl, rfl, rfl, rfl⟩
  | advancePass =>
      dsimp only [step, advancePass]
      split <;> exact ⟨rfl, rfl, rfl, rfl, rfl⟩
  | _ => cases apart

end ServerState

/-- Events of the network thread, the video worker and the controller. -/
def ServerEvent.isNetwork : ServerEvent → Bool
  | .completePacket _ _ | .controllerTick _ | .takeVideoJob
  | .completeVideoJob _ | .identifySession _ | .configureSession _
  | .establishSession _ | .rollbackSession | .disconnectClient
  | .applyConfig _ | .requestRepairs _ _ | .receiveVideoFeedback _ _ _
  | .acceptVideoChannel _ | .closeVideoChannel => true
  | _ => false

namespace ServerState

theorem step_sameFrames {event : ServerEvent} (network : event.isNetwork = true)
    (s : ServerState) : SameFrames s (s.step event) := by
  cases event with
  | completePacket index success =>
      exact (s.completePacket_retiled index success).sameFrames
  | completeVideoJob outcome => exact s.completeVideoJob_sameFrames outcome
  | identifySession token =>
      change SameFrames s (s.identifySession token)
      unfold identifySession
      split_ifs <;> exact ⟨rfl, rfl, rfl⟩
  | configureSession negotiation =>
      change SameFrames s (s.configureSession negotiation)
      unfold configureSession
      split_ifs <;> exact ⟨rfl, rfl, rfl⟩
  | establishSession fd =>
      change SameFrames s (s.establishSession fd)
      unfold establishSession
      split_ifs <;> exact ⟨rfl, rfl, rfl⟩
  | rollbackSession =>
      change SameFrames s s.rollbackSession
      unfold rollbackSession
      split_ifs <;> exact ⟨rfl, rfl, rfl⟩
  | disconnectClient =>
      change SameFrames s s.disconnectClient
      unfold disconnectClient
      split_ifs <;> exact ⟨rfl, rfl, rfl⟩
  | applyConfig epoch =>
      change SameFrames s (s.applyConfig epoch)
      unfold applyConfig
      split_ifs <;> exact ⟨rfl, rfl, rfl⟩
  | requestRepairs epoch entries =>
      exact (s.requestRepairs_retiled epoch entries).sameFrames
  | controllerTick | takeVideoJob | receiveVideoFeedback | acceptVideoChannel
  | closeVideoChannel => exact s.withNet_sameFrames _
  | _ => cases network

/-! ## Inside a pass -/

/-- A pass reads the capture and leaves it alone. -/
structure SameCapture (s s' : ServerState) : Prop where
  geometry : s'.geometry = s.geometry
  capture : s'.capture = s.capture

theorem SameCapture.refl (s : ServerState) : SameCapture s s :=
  ⟨rfl, rfl⟩

theorem SameCapture.trans {s s' s'' : ServerState} (first : SameCapture s s')
    (second : SameCapture s' s'') : SameCapture s s'' :=
  ⟨second.geometry.trans first.geometry, second.capture.trans first.capture⟩

theorem openPass_sameCapture (s : ServerState) (analysis : Option FrameAnalysis)
    (input : PassInput) : SameCapture s (s.openPass analysis input) := by
  have served (s : ServerState) (refreshStarted : Bool) :
      SameCapture s (s.serve analysis input refreshStarted) := by
    unfold serve serveVideo
    split_ifs
    · exact ⟨rfl, rfl⟩
    · exact ⟨rfl, rfl⟩
    · unfold serveTiles
      split
      · exact ⟨rfl, rfl⟩
      · split_ifs <;> exact ⟨rfl, rfl⟩
  unfold openPass
  split_ifs
  · exact ⟨rfl, rfl⟩
  · exact ⟨rfl, rfl⟩
  · have started : SameCapture s s.startRefresh := ⟨rfl, rfl⟩
    exact started.trans (served s.startRefresh true)
  · exact ⟨rfl, rfl⟩
  · exact served s false

theorem Retiled.sameCapture {s s' : ServerState} (retiled : Retiled s s') :
    SameCapture s s' :=
  ⟨retiled.sameFrames.geometry, retiled.sameFrames.capture⟩

theorem beginBatch_sameCapture (s : ServerState) (regions : List Nat) :
    SameCapture s (s.beginBatch regions) := by
  unfold beginBatch startBatch
  split
  · split
    · split <;> exact (s.supersedeRepairs_retiled _).sameCapture.trans ⟨rfl, rfl⟩
    · exact .refl s
  · exact .refl s

theorem sendEncoded_sameCapture (s : ServerState) (ids : List Nat)
    (encodedTile : EncodedTile) :
    SameCapture s (s.sendEncoded ids encodedTile).1 := by
  have sent (packets : List TilePacket) (generation count : Nat)
      (failed : Bool) := SameCapture.trans (⟨rfl, rfl⟩ :
        SameCapture s (s.emit packets))
      (trackDelivery_retiled _ ids generation count failed).sameCapture
  unfold sendEncoded sendTilePayload
  dsimp only
  split_ifs
  · exact .refl s
  · exact (s.trackDelivery_retiled ids _ 0 true).sameCapture
  · exact sent _ _ _ _
  · exact sent _ _ _ _
  · exact sent _ _ _ _

theorem completeJob_sameCapture (s : ServerState) (region : Nat)
    (results : List EncodeResult) :
    SameCapture s (s.completeJob region results) := by
  rcases s.completeJob_eq region results with
    same | ⟨stage, batch, batch', -, same | processed⟩
  · exact same.symm ▸ .refl s
  · exact same.symm ▸ ⟨rfl, rfl⟩
  · have sent : SameCapture s (processResults batch region s results).1 := by
      refine processResults_invariant (fun s' encodedTile ids sent _ _ _ => ?_)
        (.refl s)
      rw [sendResult_fst]
      split_ifs
      · exact (sent.trans (s'.sendEncoded_sameCapture ids encodedTile)).trans
          ⟨rfl, rfl⟩
      · exact sent.trans (s'.sendEncoded_sameCapture ids encodedTile)
    exact processed.symm ▸ sent.trans ⟨rfl, rfl⟩

theorem endPass_sameCapture (s : ServerState) (regionsIdle : Bool) :
    SameCapture s (s.endPass regionsIdle) := by
  unfold endPass closePass
  split
  · dsimp only
    split <;> exact ⟨rfl, rfl⟩
  · exact .refl s

end ServerState

def ServerEvent.isPass : ServerEvent → Bool
  | .beginPass _ | .beginBatch _ | .completeJob _ _ | .endBatch | .advancePass
  | .endPass _ => true
  | _ => false

namespace ServerState

theorem step_sameCapture {event : ServerEvent} (pass : event.isPass = true)
    (s : ServerState) : SameCapture s (s.step event) := by
  cases event with
  | beginPass input =>
      change SameCapture s (s.beginPass input)
      unfold beginPass
      split
      · exact s.openPass_sameCapture none input
      · exact s.openPass_sameCapture _ input
      · exact .refl s
  | beginBatch regions => exact s.beginBatch_sameCapture regions
  | completeJob region results => exact s.completeJob_sameCapture region results
  | endBatch =>
      change SameCapture s s.endBatch
      unfold endBatch
      split
      · split_ifs <;> exact ⟨rfl, rfl⟩
      · exact .refl s
  | advancePass =>
      change SameCapture s s.advancePass
      unfold advancePass
      split <;> exact ⟨rfl, rfl⟩
  | endPass regionsIdle => exact s.endPass_sameCapture regionsIdle
  | _ => cases pass

theorem applyPendingCompositorRequests_worker (s : ServerState) :
    s.applyPendingCompositorRequests.worker = s.worker := by
  unfold applyPendingCompositorRequests
  split_ifs <;> rfl

theorem failVideoTransport_worker (s : ServerState) :
    s.failVideoTransport.worker = s.worker := by
  unfold failVideoTransport
  split_ifs <;> rfl

theorem applyDisplaySize_worker (s : ServerState) (geometry : Geometry) :
    (s.applyDisplaySize geometry).worker = s.worker := by
  unfold applyDisplaySize
  split_ifs <;> rfl

variable {s : ServerState}

theorem render_isSending {outcome : RenderOutcome}
    (sending : (s.render outcome).worker.isSending = true) :
    s.worker.isSending = true := by
  unfold render submitFrame at sending
  split_ifs at sending
  · cases outcome <;> first | exact sending | cases sending
  · exact sending

theorem requestService_isSending
    (sending : s.requestService.worker.isSending = true) :
    s.worker.isSending = true := by
  unfold requestService at sending
  split_ifs at sending
  · cases sending
  · exact sending

theorem readForce_isSending (sending : s.readForce.worker.isSending = true) :
    s.worker.isSending = true := by
  unfold readForce at sending
  split at sending
  · cases sending
  · exact sending

theorem checkShadow_isSending (sending : s.checkShadow.worker.isSending = true) :
    s.worker.isSending = true := by
  unfold checkShadow dropShadow at sending
  split at sending
  · split_ifs at sending <;> cases sending
  · exact sending

theorem diffFrame_isSending (sending : s.diffFrame.worker.isSending = true) :
    s.worker.isSending = true := by
  unfold diffFrame at sending
  split at sending
  · cases sending
  · exact sending

theorem worker_of_not_isSending (outside : s.worker.isSending = false) :
    (∀ regions, s.beginBatch regions = s) ∧ s.endBatch = s ∧
      s.advancePass = s ∧ (∀ regionsIdle, s.endPass regionsIdle = s) ∧
      ∀ region results, s.completeJob region results = s := by
  unfold beginBatch endBatch advancePass endPass completeJob
  cases phase : s.worker with
  | sending pass =>
      rw [phase] at outside
      cases outside
  | _ => exact ⟨fun _ => rfl, rfl, rfl, fun _ => rfl, fun _ _ => rfl⟩

/-- Only `beginPass` enters a pass. -/
theorem step_isSending {event : ServerEvent}
    (sending : (s.step event).worker.isSending = true)
    (opens : ∀ input, event ≠ .beginPass input) :
    s.worker.isSending = true := by
  cases network : event.isNetwork with
  | true => exact (step_sameFrames network s).worker ▸ sending
  | false =>
      by_contra outside
      obtain ⟨begins, ends, advances, closes, completes⟩ :=
        worker_of_not_isSending (by simpa using outside)
      refine outside ?_
      cases event with
      | render outcome => exact render_isSending sending
      | applyPendingCompositorRequests =>
          exact applyPendingCompositorRequests_worker s ▸ sending
      | requestService => exact requestService_isSending sending
      | readForce => exact readForce_isSending sending
      | checkShadow => exact checkShadow_isSending sending
      | diffFrame => exact diffFrame_isSending sending
      | beginPass input => exact absurd rfl (opens input)
      | beginBatch regions => exact begins regions ▸ sending
      | completeJob region results => exact completes region results ▸ sending
      | endBatch => exact ends ▸ sending
      | advancePass => exact advances ▸ sending
      | endPass regionsIdle => exact closes regionsIdle ▸ sending
      | failVideoTransport => exact failVideoTransport_worker s ▸ sending
      | applyDisplaySize geometry =>
          exact applyDisplaySize_worker s geometry ▸ sending
      | _ => cases network

def Proceeds (s s' : ServerState) : Prop :=
  s'.worker = s.worker ∨ s'.worker.isIdle = true ∨ s'.worker.isSending = true

theorem openPass_proceeds (s : ServerState) (analysis : Option FrameAnalysis)
    (input : PassInput) : Proceeds s (s.openPass analysis input) := by
  have served (s' : ServerState) (refreshStarted : Bool) :
      Proceeds s (s'.serve analysis input refreshStarted) := by
    unfold serve serveVideo
    split_ifs
    · exact Or.inr (Or.inl rfl)
    · exact Or.inr (Or.inl rfl)
    · unfold serveTiles
      split
      · exact Or.inr (Or.inr rfl)
      · split_ifs <;> exact Or.inr (Or.inr rfl)
  unfold openPass
  split_ifs
  · exact Or.inr (Or.inl rfl)
  · exact Or.inr (Or.inl rfl)
  · exact served s.startRefresh true
  · exact Or.inr (Or.inl rfl)
  · exact served s false

theorem beginBatch_proceeds (s : ServerState) (regions : List Nat) :
    Proceeds s (s.beginBatch regions) := by
  unfold beginBatch startBatch
  split
  · split
    · split <;> exact Or.inr (Or.inr rfl)
    · exact Or.inl rfl
  · exact Or.inl rfl

theorem completeJob_proceeds (s : ServerState) (region : Nat)
    (results : List EncodeResult) : Proceeds s (s.completeJob region results) := by
  rcases s.completeJob_eq region results with
    same | ⟨stage, batch, batch', -, same | processed⟩
  · exact Or.inl (congrArg worker same)
  · exact Or.inr (Or.inr (congrArg (fun s => s.worker.isSending) same))
  · exact Or.inr (Or.inr (congrArg (fun s => s.worker.isSending) processed))

theorem step_proceeds {event : ServerEvent} (pass : event.isPass = true)
    (s : ServerState) : Proceeds s (s.step event) := by
  cases event with
  | beginPass input =>
      change Proceeds s (s.beginPass input)
      unfold beginPass
      split
      · exact s.openPass_proceeds none input
      · exact s.openPass_proceeds _ input
      · exact Or.inl rfl
  | beginBatch regions => exact s.beginBatch_proceeds regions
  | completeJob region results => exact s.completeJob_proceeds region results
  | endBatch =>
      change Proceeds s s.endBatch
      unfold endBatch
      split
      · split_ifs
        · exact Or.inl rfl
        · exact Or.inr (Or.inr rfl)
        · exact Or.inr (Or.inr rfl)
      · exact Or.inl rfl
  | advancePass =>
      change Proceeds s s.advancePass
      unfold advancePass
      split
      · exact Or.inr (Or.inr rfl)
      · exact Or.inl rfl
  | endPass regionsIdle =>
      change Proceeds s (s.endPass regionsIdle)
      unfold endPass
      split
      · exact Or.inr (Or.inl rfl)
      · exact Or.inl rfl
  | _ => cases pass

end ServerState

end WayDisplay.Server
