import WayDisplay.Server.Stream.Tiles

/-!
The send pass of the frame worker (`wd_stream_send_tiles`).

The pass takes the network lock, decides whether a full refresh starts, whether
video or tiles are served and whether new damage has to wait behind a recovery.
It then sends repairs, fresh tiles and repairs again in batches.  It gives the
lock up whenever it starts a batch, waits for an encoder or ends a batch, and
does not look at the display's owner again until the last repairs.

Which regions a batch takes, and when the budget lets another batch start, is
up to the events.
-/

namespace WayDisplay.Server

open Common

/-! ## The policy's part -/

namespace StreamPolicy

def startRefresh (policy : StreamPolicy)
    (contentEpoch framebufferGeneration : Nat) : StreamPolicy :=
  let recovering := policy.streamMode == .tileRecovery
  let bootstrap := policy.videoBootstrapPending &&
    !policy.videoBootstrapRefreshStarted
  { policy with
    tileRefreshPending := false
    tileRecoveryRefreshStarted := recovering
    tileRecoveryRefreshSent := false
    tileRecoveryWaitSeconds := 0
    tileRecoveryContentEpoch :=
      if recovering then contentEpoch else policy.tileRecoveryContentEpoch
    tileRecoveryFramebufferGeneration :=
      if recovering then framebufferGeneration
      else policy.tileRecoveryFramebufferGeneration
    tileRecoveryLiveDamageDeferred :=
      !recovering && policy.tileRecoveryLiveDamageDeferred
    videoBootstrapRefreshStarted :=
      bootstrap || policy.videoBootstrapRefreshStarted
    videoBootstrapRefreshSent :=
      !bootstrap && policy.videoBootstrapRefreshSent
    videoBootstrapWaitSeconds :=
      if bootstrap then 0 else policy.videoBootstrapWaitSeconds
    videoBootstrapContentEpoch :=
      if bootstrap then contentEpoch else policy.videoBootstrapContentEpoch }

def behindBarrier (policy : StreamPolicy) : Bool :=
  policy.streamMode == .tileRecovery && policy.tileRecoveryRefreshStarted

def deferLiveDamage (policy : StreamPolicy) : StreamPolicy :=
  { policy with tileRecoveryLiveDamageDeferred := true }

def recoveryGeneration (policy : StreamPolicy) (framebufferGeneration : Nat)
    (queuesEmpty : Bool) : TileRecoveryGenerationAction :=
  if policy.streamMode = .tileRecovery then
    tileRecoveryGenerationDecide policy.tileRecoveryRefreshStarted
      policy.tileRecoveryRefreshSent policy.tileRecoveryFramebufferGeneration
      framebufferGeneration queuesEmpty
  else .wait

def restartRecovery (policy : StreamPolicy) : StreamPolicy :=
  { policy with
    tileRefreshPending := true
    tileRecoveryRefreshStarted := false
    tileRecoveryRefreshSent := false
    tileRecoveryWaitSeconds := 0
    tileRecoveryContentEpoch := 0
    tileRecoveryFramebufferGeneration := 0 }

def noteRecoverySent (policy : StreamPolicy) : StreamPolicy :=
  { policy with
    tileRecoveryRefreshSent := true
    tileRecoveryWaitSeconds := 0 }

def noteBootstrapSent (policy : StreamPolicy) (queuesEmpty : Bool) :
    StreamPolicy :=
  if policy.videoBootstrapPending && policy.videoBootstrapRefreshStarted &&
      !policy.videoBootstrapRefreshSent && queuesEmpty then
    { policy with
      videoBootstrapRefreshSent := true
      videoBootstrapWaitSeconds := 0 }
  else policy

/-- What the end of a pass does to a recovery and to a bootstrap. -/
def closePass (policy : StreamPolicy) (framebufferGeneration : Nat)
    (queuesEmpty : Bool) : StreamPolicy :=
  match policy.recoveryGeneration framebufferGeneration queuesEmpty with
  | .wait => policy.noteBootstrapSent queuesEmpty
  | .stale => policy.restartRecovery.noteBootstrapSent queuesEmpty
  | .transmitted => policy.noteRecoverySent.noteBootstrapSent queuesEmpty

end StreamPolicy

/-! ## Video snapshots -/

def NetState.publishVideoSnapshot (net : NetState)
    (snapshotReady sendPending : Bool) : NetState :=
  match net.videoTcpFd with
  | none => net
  | some fd =>
      if snapshotReady && net.videoWorker &&
          net.streamPolicy.streamMode.usesVideoFrames &&
          net.videoStreamNegotiated && !sendPending then
        { net with
          pendingJob := some
            { epoch := net.videoWorkerEpoch
              sessionId := net.sessionId
              connectionToken := net.connectionToken
              sourceContentEpoch := net.contentEpoch
              videoTcpFd := fd
              requestKeyframe :=
                net.streamPolicy.streamMode == .videoReady ||
                  (net.streamPolicy.streamMode == .videoRecovering &&
                    !net.streamPolicy.videoRecoveryKeyframeQueued)
              firstVideoEntry := net.streamPolicy.streamMode == .videoReady } }
      else net

/-! ## Opening a pass -/

/-- What the pass finds outside the state: a snapshot, and the client's loss. -/
structure PassInput where
  snapshotReady : Bool
  sendPending : Bool
  clientLoss : Bool
  deriving DecidableEq, Repr

namespace FrameAnalysis

/-- No frame, or one that was compared everywhere. -/
def isFull : Option FrameAnalysis → Bool
  | some analysis => analysis.fullRefresh
  | none => false

def lacksTiles : Option FrameAnalysis → Bool
  | some analysis => analysis.changedTiles.isNone
  | none => false

end FrameAnalysis

def Trace.settle (trace : Trace) : Trace := { trace with owed := false }

def Trace.owe (trace : Trace) : Trace := { trace with owed := true }

namespace ServerState

def startRefresh (s : ServerState) : ServerState :=
  { s with
    net := s.net.collapseTileQueuesForVideo.withPolicy
      (s.net.streamPolicy.startRefresh s.net.contentEpoch
        s.framebufferGeneration)
    trace := s.trace.settle }

def serveVideo (s : ServerState) (analysis : Option FrameAnalysis)
    (input : PassInput) : ServerState :=
  if analysis.isNone then s.withWorker .idle
  else
    (s.withNet (s.net.publishVideoSnapshot input.snapshotReady
      input.sendPending).collapseTileQueuesForVideo).withWorker .idle

def openSending (s : ServerState) (input : PassInput) : ServerState :=
  let stage := if input.clientLoss && !s.net.retransmitQueueEmpty s.geometry then
    SendStage.earlyRepairs else SendStage.fresh
  s.withWorker (.sending ⟨stage, none⟩)

def deferDamage (s : ServerState) : ServerState :=
  { s with
    net := s.net.withPolicy s.net.streamPolicy.deferLiveDamage
    trace := s.trace.owe }

def applyAnalysis (s : ServerState) (analysis : FrameAnalysis)
    (input : PassInput) : ServerState :=
  s.withNet ((s.net.applyFrameAnalysis s.geometry
    (analysis.changedTiles.getD fun _ => false)).publishVideoSnapshot
      input.snapshotReady input.sendPending)

def serveTiles (s : ServerState) (analysis : Option FrameAnalysis)
    (input : PassInput) (refreshStarted : Bool) : ServerState :=
  match analysis with
  | none => s.openSending input
  | some analysis =>
      if s.net.streamPolicy.behindBarrier && !refreshStarted then
        s.deferDamage.openSending input
      else (s.applyAnalysis analysis input).openSending input

def serve (s : ServerState) (analysis : Option FrameAnalysis)
    (input : PassInput) (refreshStarted : Bool) : ServerState :=
  if s.net.videoOwnsDisplay then s.serveVideo analysis input
  else s.serveTiles analysis input refreshStarted

def openPass (s : ServerState) (analysis : Option FrameAnalysis)
    (input : PassInput) : ServerState :=
  if !s.net.clientConnected || s.net.configUpdatePending then s.withWorker .idle
  else if FrameAnalysis.lacksTiles analysis && !s.net.videoOwnsDisplay then
    s.requestFullRefresh.withWorker .idle
  else if s.net.refreshNeeded then
    if FrameAnalysis.isFull analysis then
      s.startRefresh.serve analysis input true
    else s.requestFullRefresh.withWorker .idle
  else s.serve analysis input false

def beginPass (s : ServerState) (input : PassInput) : ServerState :=
  match s.worker with
  | .serviceRequested => s.openPass none input
  | .analyzed analysis => s.openPass (some analysis) input
  | _ => s

/-! ## Batches -/

def regionBaseIds (s : ServerState) (region : Nat) : List Nat :=
  (s.geometry.collectWireTileBaseIds ⟨.tile128x64, region⟩).getD []

def regionSelected (s : ServerState) (source : EncodeSource) (region : Nat) :
    Bool :=
  (s.regionBaseIds region).any fun tileId =>
    match source with
    | .fresh => (s.net.tiles tileId).dirtyQueued
    | .retransmit => (s.net.tiles tileId).retransmitSelected

end ServerState

def SendStage.source : SendStage → Option EncodeSource
  | .earlyRepairs => some .retransmit
  | .fresh => some .fresh
  | .repairs => some .retransmit
  | .closing => none

namespace ServerState

def nextStage (s : ServerState) : SendStage → SendStage
  | .earlyRepairs => .fresh
  | .fresh => if s.net.videoOwnsDisplay then .closing else .repairs
  | .repairs => .closing
  | .closing => .closing

def advance (s : ServerState) (stage : SendStage) : ServerState :=
  s.withWorker (.sending ⟨s.nextStage stage, none⟩)

def supersedeRepairs (s : ServerState) (source : EncodeSource) : ServerState :=
  match source with
  | .fresh => s
  | .retransmit => s.withNet (s.net.mapTiles fun _ tile =>
      if tile.dirtyQueued then tile.clearRetransmitRequest else tile)

def startBatch (s : ServerState) (stage : SendStage) (source : EncodeSource)
    (regions : List Nat) : ServerState :=
  match regions.filter (s.regionSelected source) with
  | [] => s.advance stage
  | jobs => s.withWorker (.sending ⟨stage, some
      { source := source
        regions := jobs
        dirtyEpochs := fun tileId => (s.net.tiles tileId).dirtyEpoch
        framebufferGeneration := s.framebufferGeneration
        stopSending := false }⟩)

def beginBatch (s : ServerState) (regions : List Nat) : ServerState :=
  match s.worker with
  | .sending ⟨stage, none⟩ =>
      match stage.source with
      | some source =>
          (s.supersedeRepairs source).startBatch stage source regions
      | none => s
  | _ => s

def advancePass (s : ServerState) : ServerState :=
  match s.worker with
  | .sending ⟨stage, none⟩ => s.advance stage
  | _ => s

def endBatch (s : ServerState) : ServerState :=
  match s.worker with
  | .sending ⟨stage, some batch⟩ =>
      if !batch.regions.isEmpty then s
      else if batch.stopSending then s.advance stage
      else s.withWorker (.sending ⟨stage, none⟩)
  | _ => s

/-! ## Sending a tile -/

def redirty (s : ServerState) (ids : List Nat) (generation : Nat) :
    ServerState :=
  s.withNet (s.net.markDirtyTiles fun tileId =>
    decide (tileId ∈ ids) && (s.net.tiles tileId).generation ≤ generation)

def finishDelivery (s : ServerState) (delivery : TileDelivery) : ServerState :=
  if delivery.epoch = s.epochIdentity ∧ delivery.failed then
    s.redirty delivery.coveredBaseIds delivery.generation
  else s

def emit (s : ServerState) (packets : List TilePacket) : ServerState :=
  { s with
    trace := { s.trace with
      tilePackets := packets ++ s.trace.tilePackets } }

def trackDelivery (s : ServerState) (ids : List Nat) (generation sent : Nat)
    (failed : Bool) : ServerState :=
  let delivery : TileDelivery :=
    { epoch := s.epochIdentity
      generation := generation
      coveredBaseIds := ids
      pending := sent
      failed := failed }
  if sent = 0 then s.finishDelivery delivery
  else s.withNet (s.net.withDeliveries (s.net.deliveries ++ [delivery]))

end ServerState

inductive TileSendResult where
  | rejected
  | incomplete
  | complete
  deriving DecidableEq, Repr

namespace ServerState

def sendTilePayload (s : ServerState) (tile : WireTile) (ids : List Nat)
    (generation : Nat) (payload : TilePayload)
    (packetStatus : Nat → AsyncUdpSendStatus) : ServerState × TileSendResult :=
  let count := s.net.packetCountFor payload
  let sent := packetsQueued packetStatus count
  if !s.net.clientConnected || payload.bytes.isEmpty then (s, .incomplete)
  else if count = 0 ∨ count > 255 ∨ payload.bytes.length > uint16Limit then
    (s.trackDelivery ids generation 0 true, .rejected)
  else
    let s := s.emit (s.net.packetsFor tile generation payload sent)
    let s := s.trackDelivery ids generation sent (sent != count)
    if sent = count then (s, .complete)
    else if packetStatus sent = .saturated then (s, .incomplete)
    else (s, .rejected)

def commitResult (s : ServerState) (batch : EncodeBatch) (ids : List Nat)
    (generation : Nat) : ServerState :=
  { s with
    net := s.net.mapTiles fun tileId tile =>
      if tileId ∈ ids then
        tile.commit batch.source generation (batch.dirtyEpochs tileId)
      else tile
    trace := { s.trace with
      unsent := fun tileId => s.trace.unsent tileId && tileId ∉ ids } }

def encodeResultStale (s : ServerState) (batch : EncodeBatch)
    (ids : List Nat) : Bool :=
  batch.framebufferGeneration != s.framebufferGeneration ||
    ids.any fun tileId =>
      (s.net.tiles tileId).dirtyEpoch != batch.dirtyEpochs tileId

/-- The tiles under a candidate, which must lie in the region of its job. -/
def candidateIds (s : ServerState) (region : Nat) (tile : WireTile) :
    Option (List Nat) :=
  (s.geometry.collectWireTileBaseIds tile).filter fun ids =>
    ids.all (· ∈ s.regionBaseIds region)

end ServerState

inductive ResultControl where
  | nextResult
  | nextJob
  | stopSending
  deriving DecidableEq, Repr

namespace ServerState

def nextGenerationForResult (s : ServerState) (ids : List Nat) : Nat :=
  nextGeneration s.geometry.totalTiles
    (fun tileId => (s.net.tiles tileId).generation) ids

def sendEncoded (s : ServerState) (ids : List Nat) (encodedTile : EncodedTile) :
    ServerState × TileSendResult :=
  s.sendTilePayload encodedTile.tile ids (s.nextGenerationForResult ids)
    (encodedTile.payload s.geometry s.capture.framebuffer)
    encodedTile.packetStatus

def sendResult (s : ServerState) (batch : EncodeBatch) (ids : List Nat)
    (encodedTile : EncodedTile) : ServerState × ResultControl :=
  match s.sendEncoded ids encodedTile with
  | (sent, .rejected) => (sent, .nextResult)
  | (sent, .incomplete) => (sent, .stopSending)
  | (sent, .complete) =>
      (sent.commitResult batch ids (s.nextGenerationForResult ids),
        .nextResult)

def processResult (s : ServerState) (batch : EncodeBatch) (region : Nat) :
    EncodeResult → ServerState × ResultControl
  | .invalid budgetBlocked =>
      (s, if budgetBlocked then .stopSending else .nextJob)
  | .encoded encodedTile =>
      match s.candidateIds region encodedTile.tile with
      | none => (s, .nextJob)
      | some ids =>
          if s.encodeResultStale batch ids then (s, .nextResult)
          else if !encodedTile.allowed then (s, .stopSending)
          else s.sendResult batch ids encodedTile

def processResults (batch : EncodeBatch) (region : Nat) :
    ServerState → List EncodeResult → ServerState × Bool
  | s, [] => (s, false)
  | s, result :: rest =>
      match s.processResult batch region result with
      | (s, .nextResult) => processResults batch region s rest
      | (s, .nextJob) => (s, false)
      | (s, .stopSending) => (s, true)

def completeJob (s : ServerState) (region : Nat) (results : List EncodeResult) :
    ServerState :=
  match s.worker with
  | .sending ⟨stage, some batch⟩ =>
      if region ∉ batch.regions then s
      else
        let remaining := batch.regions.erase region
        if batch.stopSending then
          s.withWorker (.sending ⟨stage, some
            { batch with regions := remaining }⟩)
        else
          let (s, stop) := processResults batch region s results
          s.withWorker (.sending ⟨stage, some
            { batch with regions := remaining, stopSending := stop }⟩)
  | _ => s

/-! ## Closing a pass -/

def closePass (s : ServerState) (queuesEmpty : Bool) : ServerState :=
  let policy := s.net.streamPolicy
  match policy.recoveryGeneration s.framebufferGeneration queuesEmpty with
  | .wait => s.withNet (s.net.withPolicy (policy.noteBootstrapSent queuesEmpty))
  | .stale =>
      (s.withNet (s.net.withPolicy (policy.restartRecovery.noteBootstrapSent
        queuesEmpty))).requestFullRefresh
  | .transmitted =>
      s.withNet (s.net.withPolicy (policy.noteRecoverySent.noteBootstrapSent
        queuesEmpty))

/--
The end of the pass.  The session has no queues besides the flags of its tiles:
`regionsIdle` says that no region is scheduled and no outlived repair is listed.
-/
def endPass (s : ServerState) (regionsIdle : Bool) : ServerState :=
  match s.worker with
  | .sending ⟨.closing, none⟩ =>
      (s.closePass (s.net.dirtyQueueEmpty s.geometry && regionsIdle &&
        s.net.retransmitQueueEmpty s.geometry)).withWorker .idle
  | _ => s

def completePacket (s : ServerState) (index : Nat) (success : Bool) :
    ServerState :=
  match s.net.deliveries[index]? with
  | none => s
  | some delivery =>
      let delivery := { delivery with
        pending := delivery.pending - 1
        failed := delivery.failed || !success }
      if delivery.pending = 0 then
        (s.withNet (s.net.withDeliveries
          (s.net.deliveries.eraseIdx index))).finishDelivery delivery
      else
        s.withNet (s.net.withDeliveries
          (s.net.deliveries.set index delivery))

def queueRepair (s : ServerState) (entry : Nat × Nat) : ServerState :=
  if entry.1 ≥ s.geometry.totalTiles ∨ s.net.videoOwnsDisplay then s
  else
    s.withNet (s.net.mapTiles fun tileId tile =>
      if tileId = entry.1 then
        tile.queueRetransmit
          (if entry.2 ≠ 0 ∧ tile.generation > entry.2 then 0 else entry.2)
      else tile)

def requestRepairs (s : ServerState) (contentEpoch : Nat)
    (entries : List (Nat × Nat)) : ServerState :=
  if !s.net.clientConnected || contentEpoch != s.net.contentEpoch then s
  else entries.foldl queueRepair s

theorem closePass_eq (s : ServerState) (queuesEmpty : Bool) :
    ∃ requested, s.closePass queuesEmpty =
      { s.withNet (s.net.withPolicy (s.net.streamPolicy.closePass
          s.framebufferGeneration queuesEmpty)) with
        fullRefreshRequested := requested } := by
  unfold closePass StreamPolicy.closePass
  dsimp only
  cases s.net.streamPolicy.recoveryGeneration s.framebufferGeneration
    queuesEmpty <;> exact ⟨_, rfl⟩

/-! ## Rules for results -/

theorem sendResult_fst (s : ServerState) (batch : EncodeBatch) (ids : List Nat)
    (encodedTile : EncodedTile) :
    (s.sendResult batch ids encodedTile).1 =
      if (s.sendEncoded ids encodedTile).2 = .complete then
        (s.sendEncoded ids encodedTile).1.commitResult batch ids
          (s.nextGenerationForResult ids)
      else (s.sendEncoded ids encodedTile).1 := by
  unfold sendResult
  split
  · next sends => simp [sends]
  · next sends => simp [sends]
  · next sends => simp [sends]

theorem processResults_invariant {inv : ServerState → Prop}
    {batch : EncodeBatch} {region : Nat} {results : List EncodeResult}
    (preserved : ∀ s encodedTile ids, inv s →
      EncodeResult.encoded encodedTile ∈ results →
      s.candidateIds region encodedTile.tile = some ids →
      s.encodeResultStale batch ids = false →
      inv (s.sendResult batch ids encodedTile).1)
    {s : ServerState} (holds : inv s) :
    inv (processResults batch region s results).1 := by
  induction results generalizing s with
  | nil => exact holds
  | cons result rest ih =>
      have first : inv (s.processResult batch region result).1 := by
        unfold processResult
        split
        · exact holds
        · next encodedTile =>
          split
          · exact holds
          · next ids found =>
            split_ifs with stale refused
            · exact holds
            · exact holds
            · exact preserved s encodedTile ids holds List.mem_cons_self found
                (by simpa using stale)
      have others {s' : ServerState} (holds : inv s') :
          inv (processResults batch region s' rest).1 :=
        ih (fun s encodedTile ids holds member =>
          preserved s encodedTile ids holds (List.mem_cons_of_mem _ member)) holds
      unfold processResults
      split
      · next processed =>
        rw [processed] at first
        exact others first
      · next processed =>
        rw [processed] at first
        exact first
      · next processed =>
        rw [processed] at first
        exact first

theorem completeJob_eq (s : ServerState) (region : Nat)
    (results : List EncodeResult) :
    s.completeJob region results = s ∨
      ∃ stage batch batch', s.worker = .sending ⟨stage, some batch⟩ ∧
        (s.completeJob region results =
            s.withWorker (.sending ⟨stage, some batch'⟩) ∨
          s.completeJob region results =
            (processResults batch region s results).1.withWorker
              (.sending ⟨stage, some batch'⟩)) := by
  unfold completeJob
  split
  · next stage batch sending =>
    by_cases foreign : region ∉ batch.regions
    · exact Or.inl (if_pos foreign)
    · rw [if_neg foreign]
      by_cases stopped : batch.stopSending = true
      · rw [if_pos stopped]
        exact Or.inr ⟨stage, batch, _, sending, Or.inl rfl⟩
      · rw [if_neg stopped]
        exact Or.inr ⟨stage, batch, _, sending, Or.inr rfl⟩
  · exact Or.inl rfl

end ServerState

end WayDisplay.Server
