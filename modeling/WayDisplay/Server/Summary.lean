import WayDisplay.Common.Wire
import WayDisplay.Foundation.Runs
import WayDisplay.Server.AsyncTcp.Teardown
import WayDisplay.Server.TileGenerations

/-!
Generation summaries on the control connection (`wd_stream.c`).

A summary is handed to the asynchronous TCP sender together with a completion
record.  The caller counts the record as outstanding after the send returns;
the completion, which runs from inside any later sender call, takes it off the
count and frees the record.
-/

namespace WayDisplay.Server.Summary

open WayDisplay.Common WayDisplay.Foundation WayDisplay.Server.AsyncTcp

def messageTileGenerationSummary : Nat := 3

structure GenerationEntry where
  tileId : Nat
  tileGeneration : Nat
  deriving DecidableEq, Repr

/-- A live completion record; `record` is the identity of the allocation. -/
structure SummaryCompletion where
  record : Nat
  fullSummary : Bool
  asyncPending : Bool
  inputSequence : Nat
  serverTimestampNs : Nat
  inputInjectNs : Nat
  summaryEpoch : Nat
  epoch : EpochIdentity
  budgetBytes : Nat
  entries : List GenerationEntry
  deriving DecidableEq, Repr

structure Session where
  clientConnected : Bool
  tcpFd : Int
  cookie : Nat
  configUpdatePending : Bool
  videoOwnsDisplay : Bool
  sessionId : Nat
  connectionToken : Nat
  epoch : EpochIdentity
  summaryEpoch : Nat
  totalTiles : Nat
  generation : Nat → Nat
  summaryInputSequence : Nat
  lastInputSequence : Nat
  lastInputInjectNs : Nat

/-- `accepted` lists the records of all sends that returned true. -/
structure SummaryState where
  session : Session
  dirtyTiles : Nat → Bool
  dirtyQueue : List Nat
  inputSinceLastSummary : Bool
  asyncPendingCount : Nat
  asyncPendingFull : Bool
  controlBytesRefunded : Nat
  controlTx : Sender
  records : List SummaryCompletion
  nextRecord : Nat
  accepted : List (Nat × Bool)

def initial (session : Session) (limit : Nat) : SummaryState where
  session := session
  dirtyTiles := fun _ => false
  dirtyQueue := []
  inputSinceLastSummary := false
  asyncPendingCount := 0
  asyncPendingFull := false
  controlBytesRefunded := 0
  controlTx := senderCreate limit
  records := []
  nextRecord := 0
  accepted := []

/-! ## Completion -/

def releasePending (s : SummaryState) (completion : SummaryCompletion) :
    SummaryState :=
  if completion.asyncPending && s.asyncPendingCount > 0 then
    let count := s.asyncPendingCount - 1
    { s with
      asyncPendingCount := count
      asyncPendingFull := if count = 0 then false else s.asyncPendingFull }
  else s

def refundBudget (s : SummaryState) (completion : SummaryCompletion)
    (success : Bool) : SummaryState :=
  if completion.epoch = s.session.epoch ∧ !success ∧
      completion.budgetBytes ≠ 0 then
    { s with
      controlBytesRefunded := s.controlBytesRefunded + completion.budgetBytes }
  else s

def rebuildDirtyQueue (s : SummaryState) : SummaryState :=
  { s with dirtyQueue := (List.range s.session.totalTiles).filter s.dirtyTiles }

def clearReported (s : SummaryState) (completion : SummaryCompletion)
    (success : Bool) : SummaryState :=
  if completion.epoch = s.session.epoch ∧ success ∧
      s.session.summaryEpoch = completion.summaryEpoch then
    rebuildDirtyQueue
      { s with
        dirtyTiles := fun tile =>
          s.dirtyTiles tile && !completion.entries.any fun entry =>
            entry.tileId == tile && tile < s.session.totalTiles &&
              s.session.generation tile == entry.tileGeneration }
  else s

def settleInput (s : SummaryState) (completion : SummaryCompletion)
    (success : Bool) : SummaryState :=
  if completion.epoch = s.session.epoch ∧ success ∧
      completion.inputSequence ≠ 0 ∧ completion.inputInjectNs ≠ 0 ∧
      completion.serverTimestampNs ≥ completion.inputInjectNs ∧
      s.inputSinceLastSummary ∧
      s.session.summaryInputSequence = completion.inputSequence then
    { s with inputSinceLastSummary := false }
  else s

/-- A freed record is not found any more. -/
def summaryCompletion (s : SummaryState) (record : Nat) (success : Bool) :
    SummaryState :=
  match s.records.find? fun completion => completion.record == record with
  | none => s
  | some completion =>
      let s := releasePending s completion
      let s := refundBudget s completion success
      let s := clearReported s completion success
      let s := settleInput s completion success
      { s with
        records := s.records.filter fun other => other.record ≠ record }

/--
Take over the sender after one of its calls and run the completions that the
call delivered.  The sender does not read what a completion writes, so running
them in order at the end of the call is the same as running them inside it.
-/
def withSender (s : SummaryState) (sender : Sender) : SummaryState :=
  (sender.callbacks.drop s.controlTx.callbacks.length).foldl
    (fun s callback => summaryCompletion s callback.record callback.success)
    { s with controlTx := sender }

/-! ## Sending -/

structure SummaryCall where
  nowNs : Nat
  payloadAllocated : Bool
  budgetGranted : Bool
  recordAllocated : Bool
  wireSizeValid : Bool
  messageAllocated : Bool
  binds : Bool
  available : Nat
  kernel : Kernel

def coalesceSummaries (s : SummaryState) (fullSummary : Bool)
    (kernel : Kernel) : SummaryState × Bool :=
  if s.asyncPendingCount = 0 then (s, true)
  else if !fullSummary && s.asyncPendingFull then (s, false)
  else
    let s := withSender s
      (dropMessageType kernel s.controlTx messageTileGenerationSummary).1
    (s, !hasMessageType s.controlTx messageTileGenerationSummary)

def requestedTileCount (s : SummaryState) (fullSummary : Bool) : Nat :=
  if fullSummary then s.session.totalTiles else s.dirtyQueue.length

def summaryEntries (s : SummaryState) (fullSummary : Bool) :
    List GenerationEntry :=
  let tiles :=
    if fullSummary then List.range s.session.totalTiles
    else s.dirtyQueue.filter fun tile =>
      tile < s.session.totalTiles && s.dirtyTiles tile
  tiles.map fun tile => ⟨tile, s.session.generation tile⟩

def tileSummaryDelta : Nat := 1

def summaryPayload (session : Session) (fullSummary : Bool) (nowNs : Nat)
    (entries : List GenerationEntry) : List UInt8 :=
  littleEndian 1 session.sessionId ++ littleEndian 8 session.connectionToken ++
    littleEndian 8 session.epoch.contentEpoch ++ littleEndian 8 nowNs ++
    littleEndian 2 entries.length ++
    littleEndian 1 (if fullSummary then 0 else tileSummaryDelta) ++
    entries.flatMap fun entry =>
      littleEndian 2 entry.tileId ++ littleEndian 8 entry.tileGeneration

def summaryBytes (payload : List UInt8) : List UInt8 :=
  tcpHeader messageTileGenerationSummary payload.length ++ payload

def uint32Max : Nat := 2 ^ 32 - 1

def summaryFrame (payload : List UInt8)
    (fits : (summaryBytes payload).length ≤ uint32Max) : Frame where
  messageType := messageTileGenerationSummary
  inlineBytes := summaryBytes payload
  ownedPayload := none
  hasHeader := by simp [summaryBytes, tcpHeaderWireSize]
  fits := by
    simp only [uint32Max] at fits
    simp only [sizeMax, Option.getD_none, List.length_nil]
    omega

def newCompletion (s : SummaryState) (fullSummary : Bool) (nowNs : Nat)
    (entries : List GenerationEntry) (frameSize : Nat) : SummaryCompletion :=
  let inputSequence :=
    if s.inputSinceLastSummary then s.session.summaryInputSequence else 0
  { record := s.nextRecord
    fullSummary := fullSummary
    asyncPending := false
    inputSequence := inputSequence
    serverTimestampNs := nowNs
    inputInjectNs :=
      if inputSequence ≠ 0 ∧ inputSequence = s.session.lastInputSequence then
        s.session.lastInputInjectNs
      else 0
    summaryEpoch := s.session.summaryEpoch
    epoch := s.session.epoch
    budgetBytes := frameSize
    entries := entries }

/--
The caller's bookkeeping after a send that returned true.  A record freed by a
completion inside the send is not found any more; the counter goes up all the
same.
-/
def countPending (s : SummaryState) (record : Nat) (fullSummary : Bool) :
    SummaryState :=
  { s with
    records := s.records.map fun completion =>
      if completion.record = record then
        { completion with asyncPending := true }
      else completion
    asyncPendingCount := (s.asyncPendingCount + 1) % 2 ^ 16
    asyncPendingFull := fullSummary || s.asyncPendingFull
    accepted := s.accepted ++ [(record, fullSummary)] }

def sendCall (s : SummaryState) (call : SummaryCall) (frame : Frame) :
    SendCall where
  fd := s.session.tcpFd
  cookie := s.session.cookie
  frame := frame
  userData := some s.nextRecord
  wireSizeValid := call.wireSizeValid
  allocated := call.messageAllocated
  binds := call.binds
  available := call.available
  kernel := call.kernel

def allocateRecord (s : SummaryState) (completion : SummaryCompletion) :
    SummaryState :=
  { s with records := s.records ++ [completion], nextRecord := s.nextRecord + 1 }

def submitSummary (s : SummaryState) (fullSummary : Bool) (call : SummaryCall)
    (entries : List GenerationEntry) (frame : Frame) : SummaryState × Bool :=
  let completion := newCompletion s fullSummary call.nowNs entries
    frame.bytes.length
  let (sender, ok) := sendMessageEx s.controlTx (sendCall s call frame)
  let s := withSender (allocateRecord s completion) sender
  if ok then (countPending s completion.record fullSummary, true)
  else (summaryCompletion s completion.record false, false)

def buildSummary (s : SummaryState) (fullSummary : Bool) (call : SummaryCall) :
    SummaryState × Bool :=
  if requestedTileCount s fullSummary = 0 then (s, true)
  else if !call.payloadAllocated then (s, false)
  else
    let entries := summaryEntries s fullSummary
    if entries.isEmpty then ({ s with dirtyQueue := [] }, true)
    else
      let payload := summaryPayload s.session fullSummary call.nowNs entries
      if fits : (summaryBytes payload).length ≤ uint32Max then
        if !call.budgetGranted then (s, false)
        else if !call.recordAllocated then
          ({ s with
              controlBytesRefunded :=
                s.controlBytesRefunded + (summaryBytes payload).length }, false)
        else submitSummary s fullSummary call entries (summaryFrame payload fits)
      else (s, false)

def sendGenerationSummaryKind (s : SummaryState) (fullSummary : Bool)
    (call : SummaryCall) : SummaryState × Bool :=
  if !s.session.clientConnected || s.session.tcpFd < 0 then (s, true)
  else if s.session.configUpdatePending then (s, false)
  else
    match coalesceSummaries s fullSummary call.kernel with
    | (s, false) => (s, false)
    | (s, true) => buildSummary s fullSummary call

def sendGenerationSummary (s : SummaryState) (call : SummaryCall) :
    SummaryState × Bool :=
  if s.session.videoOwnsDisplay then (s, false)
  else sendGenerationSummaryKind s true call

def sendPendingGenerationSummary (s : SummaryState) (call : SummaryCall) :
    SummaryState × Bool :=
  if s.session.videoOwnsDisplay then (s, false)
  else sendGenerationSummaryKind s false call

/-! ## The system -/

def markSummaryDirty (s : SummaryState) (tile : Nat) : SummaryState :=
  if s.session.totalTiles ≤ tile then s
  else if s.dirtyTiles tile then s
  else if s.session.totalTiles ≤ s.dirtyQueue.length then s
  else
    { s with
      dirtyTiles := fun other => other == tile || s.dirtyTiles other
      dirtyQueue := s.dirtyQueue ++ [tile] }

/--
Besides summaries, the control sender carries other messages, which have no
completion, and is replaced at the start of a session.
-/
inductive SummaryEvent where
  | sendGenerationSummary (call : SummaryCall)
  | sendPendingGenerationSummary (call : SummaryCall)
  | sendOther (call : SendCall)
  | reap (kernel : Kernel) (available : Nat)
  | dropMessageType (kernel : Kernel) (messageType : Nat)
  | rotateSender (kernel : Kernel) (drains : List Nat) (limit : Nat)
  | updateSession (session : Session)
  | markSummaryDirty (tile : Nat)
  | resetSummaryDirty
  | noteInput (sequence injectNs : Nat)
  | forgetInput

def rotateSender (s : SummaryState) (kernel : Kernel) (drains : List Nat)
    (limit : Nat) : SummaryState :=
  let s := withSender s (senderDestroy kernel drains s.controlTx)
  { s with controlTx := replaceSender limit s.controlTx }

def noteInput (s : SummaryState) (sequence injectNs : Nat) : SummaryState :=
  { s with
    inputSinceLastSummary := true
    session :=
      { s.session with
        summaryInputSequence := sequence
        lastInputSequence := sequence
        lastInputInjectNs := injectNs } }

def SummaryEvent.step (s : SummaryState) : SummaryEvent → SummaryState
  | .sendGenerationSummary call => (Summary.sendGenerationSummary s call).1
  | .sendPendingGenerationSummary call =>
      (Summary.sendPendingGenerationSummary s call).1
  | .sendOther call =>
      withSender s (sendMessageEx s.controlTx { call with userData := none }).1
  | .reap kernel available =>
      withSender s (senderReap kernel available s.controlTx)
  | .dropMessageType kernel messageType =>
      withSender s
        (AsyncTcp.dropMessageType kernel s.controlTx messageType).1
  | .rotateSender kernel drains limit =>
      Summary.rotateSender s kernel drains limit
  | .updateSession session => { s with session := session }
  | .markSummaryDirty tile => Summary.markSummaryDirty s tile
  | .resetSummaryDirty =>
      { s with dirtyTiles := fun _ => false, dirtyQueue := [] }
  | .noteInput sequence injectNs => Summary.noteInput s sequence injectNs
  | .forgetInput => { s with inputSinceLastSummary := false }

end WayDisplay.Server.Summary
