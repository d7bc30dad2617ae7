import WayDisplay.Foundation.Runs
import WayDisplay.Server.Queues.State
import WayDisplay.Server.TileGenerations

/-!
The send pass over the queues (`wd_stream_send_tiles`,
`wd_stream_send_retransmits_locked`).

The pass is a machine that is given, for each step, what the code finds outside
the queues: the byte budget, the encoder pool, the next encoder to finish with
its results, and what the UDP sender did with each tile.  It gives the network
lock up between steps, so damage, failed deliveries, repair requests and new
sessions come in between.  A resize waits for the encoders and so for the end of
the pass.
-/

namespace WayDisplay.Server

open Common Foundation

/-! ## Results -/

inductive TileSendAttempt where
  /-- The client is gone, or there is nothing to send. -/
  | unsent
  /-- The payload does not fit the packets a tile may have. -/
  | oversized
  | packets (count : Nat) (status : Nat → AsyncUdpSendStatus)

/--
A tile as an encoder leaves it.  `allowed` is the budget's answer at the time of
the send; `failedDeliveries` are earlier tiles whose packets the UDP sender finds
to have failed while it takes this one.
-/
structure QueueEncodedTile where
  tile : WireTile
  allowed : Bool
  attempt : TileSendAttempt
  failedDeliveries : List (List Nat × Nat)

inductive QueueResult where
  | invalid (budgetBlocked : Bool)
  | encoded (encodedTile : QueueEncodedTile)

structure QueueBatch where
  source : EncodeSource
  regions : List Nat
  remaining : List Nat
  selected : Nat → Bool
  dirtyEpochs : Nat → Nat
  framebufferGeneration : Nat
  stopSending : Bool

namespace TileQueues

/-- A delivery without a queued packet ends at once, the others later. -/
def sendTilePayload (now : Nat) (q : TileQueues) (ids : List Nat)
    (generation : Nat) : TileSendAttempt → TileQueues × TileSendResult
  | .unsent => (q, .incomplete)
  | .oversized => (q.redirty now (ids, generation), .rejected)
  | .packets count status =>
      let sent := packetsQueued status count
      if sent = count then (q, .complete)
      else
        (if sent = 0 then q.redirty now (ids, generation) else q,
          if status sent = .saturated then .incomplete else .rejected)

def nextGenerationForResult (q : TileQueues) (ids : List Nat) : Nat :=
  nextGeneration q.geometry.totalTiles (fun tileId => (q.tiles tileId).generation)
    ids

def commitFresh (generation : Nat) (dirtyEpochs : Nat → Nat) (q : TileQueues)
    (tileId : Nat) : TileQueues :=
  let sent := q.updateTile tileId fun tile => tile.withGeneration generation
  if (q.tiles tileId).dirtyEpoch = dirtyEpochs tileId then
    (sent.dirtyQueueNoteCleared tileId).maybeClearDirtyTopRegion tileId
  else sent.maybeClearDirtyTopRegion tileId

/-- A repair looks at its region only where it cleared a tile. -/
def commitRepair (generation : Nat) (dirtyEpochs : Nat → Nat) (q : TileQueues)
    (tileId : Nat) : TileQueues :=
  let sent := q.updateTile tileId fun tile =>
    (tile.withGeneration generation).clearRetransmitRequest
  if (q.tiles tileId).dirtyEpoch = dirtyEpochs tileId then
    (sent.dirtyQueueNoteCleared tileId).maybeClearDirtyTopRegion tileId
  else sent

/-- A tile counts as sent, and as clean unless it was damaged meanwhile. -/
def commitTile (source : EncodeSource) (generation : Nat)
    (dirtyEpochs : Nat → Nat) (q : TileQueues) (tileId : Nat) : TileQueues :=
  if tileId ≥ q.geometry.totalTiles then q
  else
    match source with
    | .fresh => commitFresh generation dirtyEpochs q tileId
    | .retransmit => commitRepair generation dirtyEpochs q tileId

def encodeResultStale (q : TileQueues) (batch : QueueBatch)
    (framebufferGeneration : Nat) (ids : List Nat) : Bool :=
  batch.framebufferGeneration != framebufferGeneration ||
    ids.any fun tileId =>
      decide (tileId ≥ q.geometry.totalTiles) ||
        (q.tiles tileId).dirtyEpoch != batch.dirtyEpochs tileId

/-- Only fresh work goes back to the scheduler it came from. -/
def giveBack (source : EncodeSource) (now : Nat) (q : TileQueues)
    (region : Nat) : TileQueues :=
  match source with
  | .fresh => q.requeueDirtyTopRegion now region
  | .retransmit => q

/-- Fresh work goes on after a blocked job when no other region waits. -/
def stopsWhenBlocked (q : TileQueues) : EncodeSource → Bool
  | .fresh => decide (0 < q.scheduler.count)
  | .retransmit => true

def sendResult (now : Nat) (q : TileQueues) (batch : QueueBatch) (region : Nat)
    (ids : List Nat) (encodedTile : QueueEncodedTile) :
    TileQueues × ResultControl :=
  let generation := q.nextGenerationForResult ids
  match (encodedTile.failedDeliveries.foldl (redirty now) q).sendTilePayload now
      ids generation encodedTile.attempt with
  | (q, .rejected) => (q.giveBack batch.source now region, .nextResult)
  | (q, .incomplete) => (q.giveBack batch.source now region, .stopSending)
  | (q, .complete) =>
      (ids.foldl (commitTile batch.source generation batch.dirtyEpochs) q,
        .nextResult)

def processResult (now framebufferGeneration : Nat) (q : TileQueues)
    (batch : QueueBatch) (region : Nat) :
    QueueResult → TileQueues × ResultControl
  | .invalid budgetBlocked =>
      (q.giveBack batch.source now region,
        if budgetBlocked && q.stopsWhenBlocked batch.source then .stopSending
        else .nextJob)
  | .encoded encodedTile =>
      match q.geometry.collectWireTileBaseIds encodedTile.tile with
      | none => (q.giveBack batch.source now region, .nextJob)
      | some ids =>
          if q.encodeResultStale batch framebufferGeneration ids then
            (q.giveBack batch.source now region, .nextResult)
          else if !encodedTile.allowed then
            (q.giveBack batch.source now region, .stopSending)
          else q.sendResult now batch region ids encodedTile

def processResults (now framebufferGeneration : Nat) (batch : QueueBatch)
    (region : Nat) : TileQueues → List QueueResult → TileQueues × Bool
  | q, [] => (q, false)
  | q, result :: rest =>
      match q.processResult now framebufferGeneration batch region result with
      | (q, .nextResult) =>
          processResults now framebufferGeneration batch region q rest
      | (q, .nextJob) => (q, false)
      | (q, .stopSending) => (q, true)

end TileQueues

/-- A job without a result stands for one invalid result. -/
def jobResults : List QueueResult → List QueueResult
  | [] => [.invalid false]
  | results => results

/-! ## Choosing the jobs of a batch -/

def encoderQueueWaves : Nat := 4

def encodePipelineCapacity (availableJobs workerCount queueWaves : Nat) : Nat :=
  if availableJobs = 0 then 0
  else
    min availableJobs (min uint16Limit
      ((if workerCount = 0 then 1 else workerCount) *
        (if queueWaves = 0 then 1 else queueWaves)))

def encodeBatchCapacity (availableJobs workers : Nat) : Nat :=
  encodePipelineCapacity availableJobs workers encoderQueueWaves

namespace TileQueues

def canInitEncodeJob (q : TileQueues) (region : Nat) : Bool :=
  (q.geometry.collectWireTileBaseIds ⟨.tile128x64, region⟩).isSome

/-- Regions that are clean by now are forgotten; every take shrinks the queue. -/
def takeRegions (now : Nat) : Nat → Nat → TileQueues → TileQueues × List Nat
  | 0, _, q => (q, [])
  | _ + 1, 0, q => (q, [])
  | fuel + 1, capacity + 1, q =>
      match q.scheduler.take q.dirtyRegionCursor now with
      | (scheduler, none) => (q.withScheduler scheduler, [])
      | (scheduler, some region) =>
          let q := q.withScheduler scheduler
          if !q.topRegionStillDirty region then
            takeRegions now fuel (capacity + 1)
              (q.withScheduler (q.scheduler.forget region))
          else if !q.canInitEncodeJob region then
            takeRegions now fuel (capacity + 1)
              { q with dirtyRegionCursor := region }
          else
            let (q, regions) := takeRegions now fuel capacity
              { q with dirtyRegionCursor := region }
            (q, region :: regions)

def collectRepair (found : TileQueues × List Nat) (tileId : Nat) :
    TileQueues × List Nat :=
  let tile := found.1.tiles tileId
  if tileId ≥ found.1.geometry.totalTiles ∨ !tile.retransmitQueued then found
  else if tile.dirtyQueued then
    (found.1.updateTile tileId .clearRetransmitRequest, found.2)
  else if tile.retransmitRequestedGeneration ≠ 0 ∧
      tile.generation < tile.retransmitRequestedGeneration then found
  else
    match found.1.geometry.topRegionForBaseTile tileId with
    | none => found
    | some region =>
        (found.1,
          if region ∈ found.2 then found.2 else found.2 ++ [region])

def collectRepairs (q : TileQueues) : TileQueues × List Nat :=
  q.retransmitQueue.foldl collectRepair (q, [])

def selects (q : TileQueues) (source : EncodeSource) (tileId : Nat) : Bool :=
  match source with
  | .fresh => (q.tiles tileId).dirtyQueued
  | .retransmit => (q.tiles tileId).retransmitSelected

def queuesEmpty (q : TileQueues) : Bool :=
  q.dirtyQueueCount == 0 && q.scheduler.count == 0 && q.retransmitQueue.isEmpty

def unlisted (q : TileQueues) : Bool :=
  q.scheduler.count == 0 && q.retransmitQueue.isEmpty

end TileQueues

/-! ## The pass -/

inductive PassPhase where
  | closed
  | sending (stage : SendStage) (batch : Option QueueBatch)

theorem sending_ne_closed (stage : SendStage) (batch : Option QueueBatch) :
    PassPhase.sending stage batch ≠ .closed :=
  PassPhase.noConfusion

theorem nextResult_ne_stop : ResultControl.nextResult ≠ .stopSending := by
  decide

theorem nextJob_ne_stop : ResultControl.nextJob ≠ .stopSending := by
  decide

structure SendState where
  queues : TileQueues
  policy : StreamPolicy
  framebufferGeneration : Nat
  phase : PassPhase

structure PassChoice where
  budget : Bool
  workers : Nat
  started : Bool
  job : Nat
  results : List QueueResult
  now : Nat

namespace SendState

def init (geometry : Geometry) (policy : StreamPolicy)
    (framebufferGeneration : Nat) : SendState where
  queues := .init geometry
  policy
  framebufferGeneration
  phase := .closed

def withQueues (s : SendState) (queues : TileQueues) : SendState :=
  { s with queues := queues }

def withPhase (s : SendState) (phase : PassPhase) : SendState :=
  { s with phase := phase }

def videoOwnsDisplay (s : SendState) : Bool :=
  s.policy.streamMode.videoOwnsDisplay

def openPass (s : SendState) (clientLoss : Bool) : SendState :=
  match s.phase with
  | .closed =>
      if s.videoOwnsDisplay then s
      else if clientLoss && !s.queues.retransmitQueue.isEmpty then
        s.withPhase (.sending .earlyRepairs none)
      else s.withPhase (.sending .fresh none)
  | .sending _ _ => s

def nextStage (s : SendState) : SendStage → SendStage
  | .earlyRepairs => .fresh
  | .fresh => if s.videoOwnsDisplay then .closing else .repairs
  | .repairs => .closing
  | .closing => .closing

def advance (s : SendState) (stage : SendStage) : SendState :=
  s.withPhase (.sending (s.nextStage stage) none)

def startBatch (s : SendState) (stage : SendStage) (source : EncodeSource)
    (regions : List Nat) : SendState :=
  s.withPhase (.sending stage (some
    { source := source
      regions := regions
      remaining := regions
      selected := s.queues.selects source
      dirtyEpochs := fun tileId => (s.queues.tiles tileId).dirtyEpoch
      framebufferGeneration := s.framebufferGeneration
      stopSending := false }))

def submitFresh (s : SendState) (stage : SendStage) (choice : PassChoice)
    (taken : TileQueues × List Nat) : SendState :=
  if taken.2.isEmpty then (s.withQueues taken.1).advance stage
  else if !choice.started then
    (s.withQueues (taken.2.foldl (.requeueDirtyTopRegion choice.now)
      taken.1)).advance stage
  else (s.withQueues taken.1).startBatch stage .fresh taken.2

def beginFresh (s : SendState) (stage : SendStage) (choice : PassChoice) :
    SendState :=
  if s.queues.scheduler.count = 0 ∨ !choice.budget then s.advance stage
  else
    s.submitFresh stage choice (s.queues.takeRegions choice.now
      s.queues.scheduler.count
      (encodeBatchCapacity s.queues.scheduler.count choice.workers))

def submitRepairs (s : SendState) (stage : SendStage) (choice : PassChoice)
    (regions : List Nat) : SendState :=
  let jobs := (regions.filter s.queues.canInitEncodeJob).take
    (encodeBatchCapacity regions.length choice.workers)
  if jobs.isEmpty then s.advance stage
  else if !choice.started then
    (s.withQueues s.queues.compactRetransmitQueue).advance stage
  else s.startBatch stage .retransmit jobs

def beginRepairs (s : SendState) (stage : SendStage) (choice : PassChoice) :
    SendState :=
  if s.queues.retransmitQueue.isEmpty || !choice.budget then s.advance stage
  else
    (s.withQueues s.queues.collectRepairs.1.compactRetransmitQueue).submitRepairs
      stage choice s.queues.collectRepairs.2

def completeJob (s : SendState) (stage : SendStage) (batch : QueueBatch)
    (region : Nat) (choice : PassChoice) : SendState :=
  let remaining := batch.remaining.erase region
  if batch.stopSending then
    s.withPhase (.sending stage (some { batch with remaining := remaining }))
  else
    let (queues, stop) := TileQueues.processResults choice.now
      s.framebufferGeneration batch region s.queues (jobResults choice.results)
    (s.withQueues queues).withPhase (.sending stage (some
      { batch with remaining := remaining, stopSending := stop }))

def afterBatch (s : SendState) (batch : QueueBatch) (now : Nat) : TileQueues :=
  match batch.source with
  | .fresh => batch.regions.foldl (.requeueDirtyTopRegion now) s.queues
  | .retransmit => s.queues.compactRetransmitQueue

def endBatch (s : SendState) (stage : SendStage) (batch : QueueBatch)
    (now : Nat) : SendState :=
  let s := s.withQueues (s.afterBatch batch now)
  if batch.stopSending then s.advance stage
  else s.withPhase (.sending stage none)

def closePass (s : SendState) : SendState :=
  { s with
    policy := s.policy.closePass s.framebufferGeneration s.queues.queuesEmpty
    phase := .closed }

def passStep (s : SendState) (choice : PassChoice) : SendState :=
  match s.phase with
  | .closed => s
  | .sending stage none =>
      match stage.source with
      | none => s.closePass
      | some .fresh => s.beginFresh stage choice
      | some .retransmit => s.beginRepairs stage choice
  | .sending stage (some batch) =>
      match batch.remaining[choice.job]? with
      | some region => s.completeJob stage batch region choice
      | none =>
          match batch.remaining with
          | [] => s.endBatch stage batch choice.now
          | region :: _ => s.completeJob stage batch region choice

end SendState

/-! ## Events -/

inductive SendEvent where
  | openPass (clientLoss : Bool)
  | pass (choice : PassChoice)
  | damage (tileIds : List Nat) (now : Nat)
  | failDelivery (tileIds : List Nat) (generation now : Nat)
  | requestRepairs (entries : List (Nat × Nat))
  | collapse
  | startSession
  | resize (geometry : Geometry)
  | setPolicy (policy : StreamPolicy)

def SendState.step (s : SendState) : SendEvent → SendState
  | .openPass clientLoss => s.openPass clientLoss
  | .pass choice => s.passStep choice
  | .damage tileIds now =>
      s.withQueues (tileIds.foldl (.detectOneDirtyTile now) s.queues)
  | .failDelivery tileIds generation now =>
      s.withQueues (s.queues.redirty now (tileIds, generation))
  | .requestRepairs entries =>
      s.withQueues (entries.foldl (.requestRepair s.videoOwnsDisplay) s.queues)
  | .collapse => s.withQueues s.queues.collapseTileQueues
  | .startSession => s.withQueues s.queues.startSession
  | .resize geometry =>
      match s.phase with
      | .closed =>
          { s with
            queues := .init geometry
            framebufferGeneration := s.framebufferGeneration + 1 }
      | .sending _ _ => s
  | .setPolicy policy => { s with policy := policy }

def sendRun (s : SendState) (events : List SendEvent) : SendState :=
  runFrom SendState.step s events

end WayDisplay.Server
