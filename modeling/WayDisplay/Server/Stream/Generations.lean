import Mathlib.Data.List.TakeWhile
import WayDisplay.Common.TileCover
import WayDisplay.Foundation.VersionLog
import WayDisplay.Server.Stream.Ownership

/-!
Tile generations.

A wire tile is numbered above the generations of the base tiles it covers, and
the base tiles take the number when the whole tile has been queued.  The server's
states map to logs of the version library, in which the objects are wire tiles
of a connection and the cells are base tiles.
-/

namespace WayDisplay.Server

open Common Foundation

/-! ## Queues keep generations -/

namespace TileState

theorem commit_generation (source : EncodeSource) (generation dirtyEpoch : Nat)
    (tile : TileState) :
    (tile.commit source generation dirtyEpoch).generation = generation := by
  have settled (tile : TileState) :
      (tile.settleDirty dirtyEpoch).generation = tile.generation := by
    unfold settleDirty
    split_ifs <;> rfl
  rw [commit, settled, answerRequest]
  split_ifs
  · exact (clearRetransmitRequest_requeued _).generation
  · rfl

end TileState

namespace ServerState

/-- The section sends no tile and leaves the grid and its generations alone. -/
structure KeepsTiles (s s' : ServerState) : Prop where
  geometry : s'.geometry = s.geometry
  generation : ∀ tileId,
    (s'.net.tiles tileId).generation = (s.net.tiles tileId).generation
  packets : s'.trace.tilePackets = s.trace.tilePackets

theorem KeepsTiles.of_eq {s s' : ServerState} (geometry : s'.geometry = s.geometry)
    (tiles : s'.net.tiles = s.net.tiles)
    (packets : s'.trace.tilePackets = s.trace.tilePackets) : KeepsTiles s s' :=
  ⟨geometry, fun _ => by rw [tiles], packets⟩

theorem KeepsTiles.refl (s : ServerState) : KeepsTiles s s :=
  .of_eq rfl rfl rfl

theorem KeepsTiles.trans {s s' s'' : ServerState} (first : KeepsTiles s s')
    (second : KeepsTiles s' s'') : KeepsTiles s s'' :=
  ⟨second.geometry.trans first.geometry, fun tileId =>
    (second.generation tileId).trans (first.generation tileId),
    second.packets.trans first.packets⟩

theorem Retiled.keepsTiles {s s' : ServerState} (retiled : Retiled s s') :
    KeepsTiles s s' := by
  obtain ⟨tiles, deliveries, requeued⟩ := retiled
  exact ⟨rfl, fun tileId => (requeued tileId).generation, rfl⟩

theorem SameStream.keepsTiles {s s' : ServerState} (same : SameStream s s') :
    KeepsTiles s s' :=
  .of_eq same.geometry (congrArg NetState.tiles same.net) same.packets

/-! ## Events that send no tile -/

theorem serve_keepsTiles (s : ServerState) (analysis : Option FrameAnalysis)
    (input : PassInput) (refreshStarted : Bool) :
    KeepsTiles s (s.serve analysis input refreshStarted) := by
  unfold serve
  split_ifs
  · unfold serveVideo
    split_ifs
    · exact .of_eq rfl rfl rfl
    · refine ⟨rfl, fun tileId => ?_, rfl⟩
      exact congrArg (fun tiles => (tiles tileId).generation)
        (s.net.publishVideoSnapshot_rest _ _).2.2.2
  · unfold serveTiles
    split
    · exact .of_eq rfl rfl rfl
    · split_ifs
      · exact .of_eq rfl rfl rfl
      · next analysis _ =>
        have applied : Retiled s (s.withNet (s.net.applyFrameAnalysis
            s.geometry (analysis.changedTiles.getD fun _ => false))) :=
          s.markDirtyTiles_retiled _
        exact applied.keepsTiles.trans (.of_eq rfl
          (NetState.publishVideoSnapshot_rest _ _ _).2.2.2 rfl)

theorem beginPass_keepsTiles (s : ServerState) (input : PassInput) :
    KeepsTiles s (s.beginPass input) := by
  have opened (analysis : Option FrameAnalysis) :
      KeepsTiles s (s.openPass analysis input) := by
    have started : KeepsTiles s s.startRefresh := ⟨rfl, fun _ => rfl, rfl⟩
    unfold openPass
    split_ifs
    · exact .of_eq rfl rfl rfl
    · exact .of_eq rfl rfl rfl
    · exact started.trans (serve_keepsTiles _ _ _ _)
    · exact .of_eq rfl rfl rfl
    · exact serve_keepsTiles _ _ _ _
  unfold beginPass
  split
  · exact opened none
  · exact opened _
  · exact .refl s

theorem beginBatch_keepsTiles (s : ServerState) (regions : List Nat) :
    KeepsTiles s (s.beginBatch regions) := by
  unfold beginBatch startBatch
  split
  · split
    · split <;> exact (s.supersedeRepairs_retiled _).keepsTiles.trans
        (.of_eq rfl rfl rfl)
    · exact .refl s
  · exact .refl s

theorem completeVideoJob_keepsTiles (s : ServerState)
    (outcome : VideoEncodeOutcome) :
    KeepsTiles s (s.completeVideoJob outcome) := by
  unfold completeVideoJob finishVideoJob queueVideoFrame
  split
  · exact .refl s
  · split
    · exact .of_eq rfl rfl rfl
    · split_ifs
      · exact .of_eq rfl rfl rfl
      · exact .of_eq rfl (NetState.resetVideo_tiles _ _) rfl
      · exact .of_eq rfl rfl rfl
      · exact .of_eq rfl rfl rfl

def touchesTiles : ServerEvent → Bool
  | .completeJob _ _ | .applyDisplaySize _ => true
  | _ => false

theorem step_keepsTiles {event : ServerEvent}
    (elsewhere : touchesTiles event = false) (s : ServerState) :
    KeepsTiles s (s.step event) := by
  cases event with
  | render | applyPendingCompositorRequests | requestService | readForce
  | checkShadow | diffFrame | endBatch | advancePass =>
      exact (step_sameStream rfl s).keepsTiles
  | beginPass input => exact s.beginPass_keepsTiles input
  | beginBatch regions => exact s.beginBatch_keepsTiles regions
  | endPass regionsIdle =>
      change KeepsTiles s (s.endPass regionsIdle)
      unfold endPass closePass
      split
      · dsimp only
        split <;> exact .of_eq rfl rfl rfl
      · exact .refl s
  | completePacket index success =>
      exact (s.completePacket_retiled index success).keepsTiles
  | controllerTick stats =>
      refine .of_eq rfl ?_ rfl
      change (s.net.tick stats).tiles = s.net.tiles
      unfold NetState.tick NetState.noteOwnerChange
      split_ifs <;> rfl
  | takeVideoJob =>
      refine .of_eq rfl ?_ rfl
      change s.net.takeVideoJob.tiles = s.net.tiles
      unfold NetState.takeVideoJob
      split <;> rfl
  | completeVideoJob outcome => exact s.completeVideoJob_keepsTiles outcome
  | failVideoTransport =>
      change KeepsTiles s s.failVideoTransport
      unfold failVideoTransport
      split_ifs
      · exact .refl s
      · exact .of_eq rfl (NetState.resetVideo_tiles _ _) rfl
  | identifySession token =>
      change KeepsTiles s (s.identifySession token)
      unfold identifySession
      split_ifs <;> exact .of_eq rfl rfl rfl
  | configureSession negotiation =>
      change KeepsTiles s (s.configureSession negotiation)
      unfold configureSession
      split_ifs <;> exact .of_eq rfl rfl rfl
  | establishSession fd =>
      change KeepsTiles s (s.establishSession fd)
      unfold establishSession
      split_ifs <;> exact ⟨rfl, fun _ => rfl, rfl⟩
  | rollbackSession =>
      change KeepsTiles s s.rollbackSession
      unfold rollbackSession
      split_ifs <;> exact .of_eq rfl rfl rfl
  | disconnectClient =>
      change KeepsTiles s s.disconnectClient
      unfold disconnectClient
      split_ifs
      · exact .of_eq rfl (NetState.resetVideo_tiles _ _) rfl
      · exact .refl s
  | applyConfig epoch =>
      change KeepsTiles s (s.applyConfig epoch)
      unfold applyConfig
      split_ifs <;> exact .of_eq rfl rfl rfl
  | requestRepairs epoch entries =>
      exact (s.requestRepairs_retiled epoch entries).keepsTiles
  | receiveVideoFeedback epoch sequence flags =>
      refine .of_eq rfl ?_ rfl
      change (s.net.receiveVideoFeedback epoch sequence flags).tiles = _
      unfold NetState.receiveVideoFeedback
      split_ifs <;> rfl
  | acceptVideoChannel fd =>
      refine .of_eq rfl ?_ rfl
      change (s.net.acceptVideoChannel fd).tiles = _
      unfold NetState.acceptVideoChannel
      split_ifs <;> rfl
  | closeVideoChannel =>
      refine .of_eq rfl ?_ rfl
      change s.net.closeVideoChannel.tiles = _
      unfold NetState.closeVideoChannel
      split_ifs
      · exact NetState.resetVideo_tiles _ _
      · rfl
  | completeJob | applyDisplaySize => cases elsewhere

end ServerState

/-! ## The log of tile packets -/

def TilePacket.entry (packet : TilePacket) :
    VersionEntry (Nat × WireTile) TilePayload where
  epoch := packet.contentEpoch
  key := (packet.connectionToken, packet.tile)
  version := packet.generation
  content := packet.payload

def ServerState.tileLog (s : ServerState) :
    VersionLog (Nat × WireTile) Nat TilePayload where
  epoch := s.net.contentEpoch
  cover := fun key => s.geometry.collectWireTileBaseIds key.2
  version := fun tileId => (s.net.tiles tileId).generation
  entries := s.trace.tilePackets.map TilePacket.entry

/-! ## Sends -/

/-- If the UDP sender takes the first packet of the tile, it takes them all. -/
def EncodedTile.SentWhole (encodedTile : EncodedTile) : Prop :=
  encodedTile.packetStatus 0 = .queued →
    ∀ packetId < 255, encodedTile.packetStatus packetId = .queued

def EncodeResult.SentWhole : EncodeResult → Prop
  | .invalid _ => True
  | .encoded encodedTile => encodedTile.SentWhole

instance (result : EncodeResult) : Decidable result.SentWhole := by
  cases result <;> unfold EncodeResult.SentWhole
  · infer_instance
  · unfold EncodedTile.SentWhole
    infer_instance

def ServerEvent.SendsWhole : ServerEvent → Prop
  | .completeJob _ results => ∀ result ∈ results, result.SentWhole
  | _ => True

instance (event : ServerEvent) : Decidable event.SendsWhole :=
  decidable_of_iff ((match event with
    | .completeJob _ results => decide (∀ result ∈ results, result.SentWhole)
    | _ => true) = true) (by cases event <;> simp [ServerEvent.SendsWhole])

theorem EncodedTile.SentWhole.packetsQueued_eq {encodedTile : EncodedTile}
    (whole : encodedTile.SentWhole) {count : Nat} (few : count ≤ 255) :
    packetsQueued encodedTile.packetStatus count = 0 ∨
      packetsQueued encodedTile.packetStatus count = count := by
  cases count with
  | zero => exact Or.inl rfl
  | succ rest =>
      by_cases first : encodedTile.packetStatus 0 = .queued
      · refine Or.inr ?_
        have all : (List.range (rest + 1)).takeWhile (fun packetId =>
            encodedTile.packetStatus packetId == .queued) =
              List.range (rest + 1) := by
          rw [List.takeWhile_eq_self_iff]
          intro packetId member
          exact beq_iff_eq.mpr (whole first packetId
            ((List.mem_range.mp member).trans_le few))
        rw [packetsQueued, all, List.length_range]
      · refine Or.inl ?_
        rw [packetsQueued, List.range_succ_eq_map, List.takeWhile_cons]
        simp [first]

namespace ServerState

theorem KeepsTiles.move {s s' : ServerState} (keeps : KeepsTiles s s')
    (epoch : s'.net.contentEpoch = s.net.contentEpoch) :
    s.tileLog.Move s'.tileLog := by
  refine .keep epoch ?_ (fun tileId => (keeps.generation tileId).symm.le) ?_
  · simp only [tileLog, keeps.geometry]
  · simp only [tileLog, keeps.packets]

variable {s : ServerState}

theorem sendEncoded_whole {encodedTile : EncodedTile}
    (whole : encodedTile.SentWhole) (ids : List Nat) :
    (s.sendEncoded ids encodedTile).2 ≠ .complete ∧
        KeepsTiles s (s.sendEncoded ids encodedTile).1 ∨
      (s.sendEncoded ids encodedTile).2 = .complete ∧
        ∃ sent, KeepsTiles
          (s.emit (s.net.packetsFor encodedTile.tile
            (s.nextGenerationForResult ids)
            (encodedTile.payload s.geometry s.capture.framebuffer) sent))
          (s.sendEncoded ids encodedTile).1 := by
  unfold sendEncoded
  generalize encodedTile.payload s.geometry s.capture.framebuffer = payload
  generalize s.nextGenerationForResult ids = generation
  unfold sendTilePayload
  dsimp only
  split_ifs with offline oversized complete saturated
  · exact Or.inl ⟨by simp, .refl s⟩
  · exact Or.inl ⟨by simp,
      (s.trackDelivery_retiled ids generation 0 true).keepsTiles⟩
  · exact Or.inr ⟨rfl, _, (trackDelivery_retiled _ _ _ _ _).keepsTiles⟩
  all_goals
    have few : s.net.packetCountFor payload ≤ 255 := by omega
    have none : packetsQueued encodedTile.packetStatus
        (s.net.packetCountFor payload) = 0 :=
      (whole.packetsQueued_eq few).resolve_right complete
    refine Or.inl ⟨by simp, ?_⟩
    rw [none]
    exact (s.trackDelivery_retiled ids generation 0 _).keepsTiles

theorem commitResult_publishes {s s' : ServerState} {batch : EncodeBatch}
    {ids : List Nat} {tile : WireTile} {payload : TilePayload} {sent : Nat}
    (covered : s.geometry.collectWireTileBaseIds tile = some ids)
    (sends : KeepsTiles (s.emit (s.net.packetsFor tile
      (s.nextGenerationForResult ids) payload sent)) s') :
    s.tileLog.Publishes (s'.commitResult batch ids
      (s.nextGenerationForResult ids)).tileLog
      (s.net.connectionToken, tile) ids (s.nextGenerationForResult ids)
      payload := by
  refine ⟨covered, Geometry.collectWireTileBaseIds_ne_nil covered,
    fun tileId member => generation_lt_nextGeneration _ member
      (Geometry.collectWireTileBaseIds_lt covered member), ?_, ?_⟩
  · intro tileId member
    simp only [tileLog, commitResult, NetState.mapTiles, if_pos member,
      TileState.commit_generation, le_refl]
  · refine ⟨(s.net.packetsFor tile (s.nextGenerationForResult ids) payload
      sent).map TilePacket.entry, ?_, ?_⟩
    · simp only [tileLog, commitResult, sends.packets, emit, List.map_append]
    · intro entry member
      obtain ⟨packet, sends, rfl⟩ := List.mem_map.mp member
      obtain ⟨packetId, -, rfl⟩ := List.mem_map.mp sends
      rfl

theorem commitResult_grows {s s' : ServerState} {batch : EncodeBatch}
    {ids : List Nat} {tile : WireTile}
    (covered : s.geometry.collectWireTileBaseIds tile = some ids)
    (same : ∀ tileId,
      (s'.net.tiles tileId).generation = (s.net.tiles tileId).generation)
    (tileId : Nat) :
    (s.net.tiles tileId).generation ≤ ((s'.commitResult batch ids
      (s.nextGenerationForResult ids)).net.tiles tileId).generation := by
  simp only [commitResult, NetState.mapTiles]
  split_ifs with member
  · rw [TileState.commit_generation]
    exact (generation_lt_nextGeneration (fun id => (s.net.tiles id).generation)
      member
      (Geometry.collectWireTileBaseIds_lt covered member)).le
  · exact (same tileId).symm.le

theorem candidateIds_covered {region : Nat} {tile : WireTile} {ids : List Nat}
    (found : s.candidateIds region tile = some ids) :
    s.geometry.collectWireTileBaseIds tile = some ids :=
  (Option.filter_eq_some_iff.mp found).1

theorem sendResult_move {batch : EncodeBatch} {region : Nat} {ids : List Nat}
    {encodedTile : EncodedTile} (whole : encodedTile.SentWhole)
    (found : s.candidateIds region encodedTile.tile = some ids) :
    s.tileLog.Move (s.sendResult batch ids encodedTile).1.tileLog := by
  have same := (s.sendResult_sendsTiles batch ids encodedTile).net.epoch
  have sent := s.sendResult_fst batch ids encodedTile
  rcases s.sendEncoded_whole whole ids with
    ⟨incomplete, keeps⟩ | ⟨complete, count, sends⟩
  · rw [if_neg incomplete] at sent
    rw [sent] at same ⊢
    exact keeps.move same
  · rw [if_pos complete] at sent
    rw [sent] at same ⊢
    have covered := candidateIds_covered found
    refine .publish same ?_ (commitResult_grows covered fun tileId =>
      sends.generation tileId) (commitResult_publishes covered sends)
    simp only [tileLog, commitResult, sends.geometry]
    rfl

/-! ## Runs -/

theorem completeJob_tileLog {region : Nat} {results : List EncodeResult}
    (sound : s.tileLog.Sound) (whole : ∀ result ∈ results, result.SentWhole) :
    (s.completeJob region results).tileLog.Sound := by
  rcases s.completeJob_eq region results with
    same | ⟨stage, batch, batch', -, same | processed⟩
  · exact same.symm ▸ sound
  · exact same.symm ▸ sound
  · have sound' : (processResults batch region s results).1.tileLog.Sound :=
      processResults_invariant
        (fun s' encodedTile ids sound member found _ =>
          (sendResult_move (whole _ member) found).sound sound) sound
    exact processed.symm ▸ sound'

theorem applyDisplaySize_tileLog (sound : s.tileLog.Sound) (geometry : Geometry) :
    (s.applyDisplaySize geometry).tileLog.Sound := by
  unfold applyDisplaySize
  split_ifs
  · exact sound
  · have later : (s.net.resize.resetVideo true).contentEpoch =
        s.net.contentEpoch + 1 := NetState.resetVideo_contentEpoch _ _
    have renews : s.tileLog.Move (s.replaceDisplay geometry).tileLog := by
      refine .renew ?_ rfl
      change s.net.contentEpoch < (s.net.resize.resetVideo true).contentEpoch
      rw [later]
      exact Nat.lt_succ_self _
    exact renews.sound sound

structure GenerationsSound (s : ServerState) : Prop where
  owner : s.OwnerSound
  log : s.tileLog.Sound

theorem initial_generationsSound (geometry : Geometry) (videoWorker : Bool) :
    (initial geometry videoWorker).GenerationsSound where
  owner := initial_ownerSound geometry videoWorker
  log := ⟨by simp [initial, tileLog], by simp [initial, tileLog],
    by simp [initial, tileLog]⟩

theorem step_tileLog {event : ServerEvent} (owner : s.OwnerSound)
    (sound : s.tileLog.Sound) (whole : event.SendsWhole) :
    (s.step event).tileLog.Sound := by
  cases touches : touchesTiles event with
  | false =>
      have keeps := step_keepsTiles touches s
      have later := ((step_effect owner.closed owner.jobs event).advances
        owner.closed).later
      rcases later.eq_or_lt with same | later
      · exact (keeps.move same.symm).sound sound
      · exact VersionLog.Move.sound (.renew later (by
          simp only [tileLog, keeps.packets])) sound
  | true =>
      cases event with
      | completeJob region results => exact completeJob_tileLog sound whole
      | applyDisplaySize geometry => exact applyDisplaySize_tileLog sound geometry
      | _ => cases touches

theorem step_generationsSound {event : ServerEvent} (sound : s.GenerationsSound)
    (whole : event.SendsWhole) :
    (s.step event).GenerationsSound :=
  ⟨step_ownerSound sound.owner event, step_tileLog sound.owner sound.log whole⟩

def PayloadsAgree (s : ServerState) : Prop :=
  ∀ packet ∈ s.trace.tilePackets, ∀ packet' ∈ s.trace.tilePackets,
    packet.connectionToken = packet'.connectionToken →
    packet.contentEpoch = packet'.contentEpoch →
    packet.tile = packet'.tile → packet.generation = packet'.generation →
      packet.payload = packet'.payload

instance (s : ServerState) : Decidable s.PayloadsAgree := by
  unfold PayloadsAgree
  infer_instance

theorem payloadsAgree_of_sound (sound : s.tileLog.Sound) :
    s.PayloadsAgree := by
  intro packet sent packet' sent' token epoch tile generation
  exact sound.faithful packet.entry (List.mem_map_of_mem sent) packet'.entry
    (List.mem_map_of_mem sent') epoch (Prod.ext token tile) generation

end ServerState

def cutTile (tileId : Nat) : EncodeResult :=
  .encoded ⟨⟨.tile16x16, tileId⟩, none, true, fun packetId =>
    if packetId = 0 then .queued else .saturated⟩

def resendAfterCut : List ServerEvent :=
  Script.connect ++
    [.applyPendingCompositorRequests, Script.frame .all 1 false] ++
    Script.analyze ++
    [Script.beginPass, .beginBatch [0], .completeJob 0 [cutTile 0], .endBatch,
      .advancePass, .endPass true, .completePacket 0 true,
      Script.frame (Script.oneTile 0) 2 false] ++
    Script.analyze ++
    [Script.beginPass, .beginBatch [0], .completeJob 0 [Script.sentTile 0]]

def resendWhole : List ServerEvent :=
  Script.connect ++ Script.fullPass 1 ++
    [Script.frame (Script.oneTile 0) 2 false] ++ Script.analyze ++ Script.sendAll

/--
In every run in which the UDP sender takes all packets of a tile or none, no
generation is sent with two encodings.
-/
theorem payloadsAgree_of_sendsWhole {geometry : Geometry} {videoWorker : Bool}
    {events : List ServerEvent}
    (whole : Along ServerState.step (fun _ event => event.SendsWhole)
      (.initial geometry videoWorker) events) :
    (serverRun geometry videoWorker events).PayloadsAgree :=
  ServerState.payloadsAgree_of_sound (invariant_runFrom
    (fun _ _ => ServerState.step_generationsSound)
    (ServerState.initial_generationsSound geometry videoWorker) whole).log

theorem resendWhole_payloadsAgree :
    (serverRun Script.display true resendWhole).PayloadsAgree ∧
      ((serverRun Script.display true resendWhole).trace.tilePackets.map
        TilePacket.generation) = [2, 2, 2, 2, 1, 1, 1, 1] :=
  ⟨payloadsAgree_of_sendsWhole (by decide +kernel), by decide +kernel⟩

theorem resendAfterCut_mixes_payloads :
    ¬ (serverRun Script.display true resendAfterCut).PayloadsAgree := by
  decide +kernel

end WayDisplay.Server
