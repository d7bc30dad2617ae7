import WayDisplay.Client.Repairs.Summaries
import WayDisplay.Foundation.Runs

/-!
Requests for repair, and the threads around the repair tables.

The network reader collects a request in one critical section and stamps it with
the content epoch in another; in between, and between the sections of a summary,
the viewer may apply a configuration, whose tables and epoch are set one after
the other, and an epoch may be offered.  A configuration replaces all tables but
the queue of due decisions; a connection replaces that too.
-/

namespace WayDisplay.Client

open Common Foundation

namespace RepairState

variable (s : RepairState)

/-! ## Requests -/

def flushInput (link : LinkTimers) : FlushInput :=
  ⟨s.clock.ns, link.inflightGraceNs, link.requestIntervalNs⟩

def flushed (link : LinkTimers) : RepairTracking × List (Nat × Nat) :=
  RepairTracking.flush s.received s.totalTiles (s.flushInput link)
    s.repairs.retxQueue.length s.repairs []

def collectRequests (link : LinkTimers) : RepairState :=
  { s with
    repairs := (s.flushed link).1
    reader :=
      if (s.flushed link).2.isEmpty then .idle else .sending (s.flushed link).2
    trace :=
      { s.trace with
        asked := s.trace.asked ++ (s.flushed link).2.map fun entry =>
          ⟨entry.1, entry.2, s.clock.ns, link.requestIntervalNs⟩ } }

/-- The second half: the epoch is read, and the message queued or not.  When it
is not, the flush fails and the network reader ends the session. -/
def sendRequest (entries : List (Nat × Nat)) (queued : Bool) : RepairState :=
  { s with
    reader := if queued then .idle else .ended
    trace :=
      if queued then
        { s.trace with
          sent := s.trace.sent ++ [⟨s.remote.epoch, entries⟩] }
      else s.trace }

/-! ## The system -/

def completeTiles (tileIds : List Nat) (generation : Nat) : RepairState :=
  let received :=
    ClientState.markCompletedBaseGenerations s.received tileIds generation
  { s with
    received := received
    repairs := tileIds.foldl (RepairTracking.clearCompleted received) s.repairs
    pending := tileIds.foldl
      (fun pending => pending.clearCompleted received) s.pending }

def resetTables (totalTiles : Nat) (dueQueue : List SummaryRepairDue) :
    RepairState :=
  { s with
    totalTiles := totalTiles
    received := fun _ => 0
    repairs := .initial
    pending := { SummaryPending.empty with dueQueue := dueQueue }
    largeRepairNotBeforeNs := 0
    trace := { s.trace with asked := [] } }

def resetContentEpoch (epoch : Nat) (owner : ContentOwner) : RepairState :=
  if epoch = 0 then s
  else
    { s with
      remote := ⟨epoch, owner⟩
      trace := { s.trace with asked := [] } }

end RepairState

inductive RepairEvent where
  | tick (elapsed : Nat)
  | offerSummary (contentEpoch : Nat) (entries : List SummaryEntry)
  | noteSummary (link : LinkTimers)
  | promote (link : LinkTimers)
  | collect (link : LinkTimers)
  | send (queued : Bool)
  | completeTiles (tileIds : List Nat) (generation : Nat)
  | partialTimeout (tileId generation : Nat)
  | markInflight (tileId generation : Nat)
  | clearInflight (tileId generation : Nat)
  | acceptEpoch (epoch : Nat) (owner : ContentOwner)
  | applyConfig (totalTiles : Nat)
  | resetEpoch (epoch : Nat)
  | connect (totalTiles contentEpoch : Nat)

/-- A critical section that the reader is not about to enter does nothing. -/
def RepairState.step (s : RepairState) : RepairEvent → RepairState
  | .tick elapsed => { s with clock := s.clock.advance elapsed }
  | .offerSummary contentEpoch entries =>
      match s.reader with
      | .idle => s.offerSummary contentEpoch entries
      | _ => s
  | .noteSummary link =>
      match s.reader with
      | .noting totalTiles read entries =>
          (s.noteSummary link read.ns totalTiles entries).withReader .idle
      | _ => s
  | .promote link =>
      match s.reader with
      | .idle => s.promoteDeferredSummaryRetransmits link
      | _ => s
  | .collect link =>
      match s.reader with
      | .idle => s.collectRequests link
      | _ => s
  | .send queued =>
      match s.reader with
      | .sending entries => s.sendRequest entries queued
      | _ => s
  | .completeTiles tileIds generation =>
      match s.reader with
      | .idle => s.completeTiles tileIds generation
      | _ => s
  | .partialTimeout tileId generation =>
      match s.reader with
      | .idle => s.queueForPartialTimeout tileId generation
      | _ => s
  | .markInflight tileId generation =>
      { s with repairs := s.repairs.markInflight generation s.clock.ns tileId }
  | .clearInflight tileId generation =>
      { s with repairs := s.repairs.clearRetxInflight tileId generation }
  | .acceptEpoch epoch owner => s.acceptContentEpoch epoch owner
  | .applyConfig totalTiles => s.resetTables totalTiles s.pending.dueQueue
  | .resetEpoch epoch => s.resetContentEpoch epoch .tiles
  | .connect totalTiles contentEpoch =>
      ((s.resetTables totalTiles []).resetContentEpoch contentEpoch
        .tiles).withReader .idle

/-- What an event does, with the phase that the reader has to be in. -/
inductive RepairState.Acts (s : RepairState) :
    RepairEvent → RepairState → Prop where
  | ignored (event : RepairEvent) : Acts s event s
  | tick (elapsed : Nat) :
      Acts s (.tick elapsed) { s with clock := s.clock.advance elapsed }
  | offerSummary (contentEpoch : Nat) (entries : List SummaryEntry)
      (idle : s.reader = .idle) :
      Acts s (.offerSummary contentEpoch entries)
        (s.offerSummary contentEpoch entries)
  | noteSummary (link : LinkTimers) {totalTiles : Nat} {read : MonotonicClock}
      {entries : List SummaryEntry}
      (noting : s.reader = .noting totalTiles read entries) :
      Acts s (.noteSummary link)
        ((s.noteSummary link read.ns totalTiles entries).withReader .idle)
  | promote (link : LinkTimers) (idle : s.reader = .idle) :
      Acts s (.promote link) (s.promoteDeferredSummaryRetransmits link)
  | collect (link : LinkTimers) (idle : s.reader = .idle) :
      Acts s (.collect link) (s.collectRequests link)
  | send (queued : Bool) {entries : List (Nat × Nat)}
      (sending : s.reader = .sending entries) :
      Acts s (.send queued) (s.sendRequest entries queued)
  | completeTiles (tileIds : List Nat) (generation : Nat)
      (idle : s.reader = .idle) :
      Acts s (.completeTiles tileIds generation)
        (s.completeTiles tileIds generation)
  | partialTimeout (tileId generation : Nat) (idle : s.reader = .idle) :
      Acts s (.partialTimeout tileId generation)
        (s.queueForPartialTimeout tileId generation)
  | markInflight (tileId generation : Nat) :
      Acts s (.markInflight tileId generation)
        { s with
          repairs := s.repairs.markInflight generation s.clock.ns tileId }
  | clearInflight (tileId generation : Nat) :
      Acts s (.clearInflight tileId generation)
        { s with repairs := s.repairs.clearRetxInflight tileId generation }
  | acceptEpoch (epoch : Nat) (owner : ContentOwner) :
      Acts s (.acceptEpoch epoch owner) (s.acceptContentEpoch epoch owner)
  | applyConfig (totalTiles : Nat) :
      Acts s (.applyConfig totalTiles)
        (s.resetTables totalTiles s.pending.dueQueue)
  | resetEpoch (epoch : Nat) :
      Acts s (.resetEpoch epoch) (s.resetContentEpoch epoch .tiles)
  | connect (totalTiles contentEpoch : Nat) :
      Acts s (.connect totalTiles contentEpoch)
        (((s.resetTables totalTiles []).resetContentEpoch contentEpoch
          .tiles).withReader .idle)

theorem RepairState.step_acts (s : RepairState) (event : RepairEvent) :
    s.Acts event (s.step event) := by
  cases event with
  | tick elapsed => exact .tick elapsed
  | markInflight tileId generation => exact .markInflight tileId generation
  | clearInflight tileId generation => exact .clearInflight tileId generation
  | acceptEpoch epoch owner => exact .acceptEpoch epoch owner
  | applyConfig totalTiles => exact .applyConfig totalTiles
  | resetEpoch epoch => exact .resetEpoch epoch
  | connect totalTiles contentEpoch => exact .connect totalTiles contentEpoch
  | offerSummary contentEpoch entries =>
      dsimp only [step]
      split
      next idle => exact .offerSummary contentEpoch entries idle
      next => exact .ignored _
  | noteSummary link =>
      dsimp only [step]
      split
      next noting => exact .noteSummary link noting
      next => exact .ignored _
  | promote link =>
      dsimp only [step]
      split
      next idle => exact .promote link idle
      next => exact .ignored _
  | collect link =>
      dsimp only [step]
      split
      next idle => exact .collect link idle
      next => exact .ignored _
  | send queued =>
      dsimp only [step]
      split
      next sending => exact .send queued sending
      next => exact .ignored _
  | completeTiles tileIds generation =>
      dsimp only [step]
      split
      next idle => exact .completeTiles tileIds generation idle
      next => exact .ignored _
  | partialTimeout tileId generation =>
      dsimp only [step]
      split
      next idle => exact .partialTimeout tileId generation idle
      next => exact .ignored _

def repairRun (s : RepairState) (events : List RepairEvent) : RepairState :=
  runFrom RepairState.step s events

end WayDisplay.Client
