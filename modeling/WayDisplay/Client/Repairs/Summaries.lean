import Mathlib.Data.List.Sort
import WayDisplay.Client.Repairs.State

/-!
Summaries and promotion passes.

The network reader notes summaries and promotes what is due; both put repairs
into the queue that the next request is made of.

The trace is not in the program: it remembers what was queued for repair,
requested, and sent.
-/

namespace WayDisplay.Client

open Common Foundation

/-! ## State -/

structure SummaryEntry where
  tileId : Nat
  tileGeneration : Nat
  deriving DecidableEq, Repr

structure SummaryRepairCandidate where
  tileId : Nat
  generation : Nat
  pendingSinceNs : Nat
  deriving DecidableEq, Repr

def SummaryRepairCandidate.target (candidate : SummaryRepairCandidate) :
    Nat × Nat :=
  (candidate.tileId, candidate.generation)

/-- Generations of different tiles say nothing about each other; the oldest
missing tile comes first. -/
def SummaryRepairCandidate.precedes (a b : SummaryRepairCandidate) : Prop :=
  a.pendingSinceNs < b.pendingSinceNs ∨
    a.pendingSinceNs = b.pendingSinceNs ∧ a.tileId ≤ b.tileId

instance : DecidableRel SummaryRepairCandidate.precedes :=
  fun _ _ => inferInstanceAs (Decidable (_ ∨ _))

/-- What the network reader holds between two critical sections. -/
inductive ReaderPhase where
  | idle
  | noting (totalTiles : Nat) (read : MonotonicClock)
      (entries : List SummaryEntry)
  | sending (entries : List (Nat × Nat))
  | ended

structure QueuedRepair where
  tileId : Nat
  generation : Nat
  contentEpoch : Nat
  deriving DecidableEq, Repr

/-- A repair as it was put into a request, with the interval in force. -/
structure AskedRepair where
  tileId : Nat
  generation : Nat
  now : Nat
  intervalNs : Nat
  deriving DecidableEq, Repr

structure RepairRequest where
  contentEpoch : Nat
  entries : List (Nat × Nat)
  deriving DecidableEq, Repr

/-- `asked` starts anew with each content epoch and each configuration. -/
structure RepairTrace where
  queued : List QueuedRepair
  asked : List AskedRepair
  sent : List RepairRequest

def RepairTrace.empty : RepairTrace := ⟨[], [], []⟩

structure RepairState where
  totalTiles : Nat
  received : Generations
  repairs : RepairTracking
  pending : SummaryPending
  largeRepairNotBeforeNs : Nat
  remote : RemoteContent
  clock : MonotonicClock
  reader : ReaderPhase
  trace : RepairTrace

namespace RepairState

def init (totalTiles contentEpoch : Nat) (clock : MonotonicClock) :
    RepairState where
  totalTiles
  received := fun _ => 0
  repairs := .initial
  pending := .empty
  largeRepairNotBeforeNs := 0
  remote := ⟨contentEpoch, .tiles⟩
  clock
  reader := .idle
  trace := .empty

variable (s : RepairState)

def withPending (pending : SummaryPending) : RepairState :=
  { s with pending := pending }

def withReader (reader : ReaderPhase) : RepairState :=
  { s with reader := reader }

def noteQueued (tileId generation : Nat) : RepairTrace :=
  { s.trace with
    queued := s.trace.queued ++ [⟨tileId, generation, s.remote.epoch⟩] }

def queueRetransmitTile (tileId generation : Nat) : RepairState × Bool :=
  if tileId ≥ s.totalTiles ∨ generation = 0 then (s, false)
  else
    ({ s with
        repairs := s.repairs.enqueue tileId generation
        trace := s.noteQueued tileId generation }, true)

def queueForPartialTimeout (tileId generation : Nat) : RepairState :=
  { s with
    repairs := s.repairs.repairBaseTile s.received s.totalTiles generation
      tileId
    trace :=
      if tileId ≥ s.totalTiles ∨ s.received tileId ≥ generation then s.trace
      else s.noteQueued tileId generation }

/-! ## Candidates -/

def repairPressureHigh : Bool :=
  s.totalTiles ≠ 0 &&
    (max clientRepairPressureMaxQueueTiles
        (s.totalTiles * clientRepairPressurePercent / 100) ≤
          s.repairs.retxQueue.length ||
      max clientRepairPressureMaxQueueTiles
        (s.totalTiles * clientRepairPressurePercent / 100) ≤ s.pending.count)

def limitsCandidates (candidates : List SummaryRepairCandidate) : Bool :=
  s.repairPressureHigh &&
    candidates.length > clientRepairPressureMaxQueueTiles

def candidateAgeNs (now : Nat) (candidate : SummaryRepairCandidate) : Nat :=
  if candidate.pendingSinceNs ≠ 0 ∧ now ≥ candidate.pendingSinceNs then
    now - candidate.pendingSinceNs
  else 0

def minCandidateAgeNs (now : Nat) (candidates : List SummaryRepairCandidate) :
    Nat :=
  (candidates.map (candidateAgeNs now)).foldl min uint64Limit

/-- `large_summary_repair_batch_locked`; a large batch that goes through blocks
the next one for a while. -/
def largeSummaryRepairBatch (link : LinkTimers)
    (now candidateCount minAgeNs : Nat) : RepairState × Bool :=
  if s.totalTiles = 0 ∨ candidateCount = 0 ∨
      candidateCount * 100 < s.totalTiles * linkLargeSummaryRepairPercent then
    (s, false)
  else if link.recentConcreteRepairLossSignal now then (s, false)
  else if minAgeNs < link.largeSummaryRepairGraceNs ∨
      s.largeRepairNotBeforeNs ≠ 0 ∧ now < s.largeRepairNotBeforeNs then
    (s, true)
  else
    ({ s with
        largeRepairNotBeforeNs := (now +
          max linkLargeSummaryRepairCooldownNs
            link.summaryCleanIntervalNs) % 2 ^ 64 },
      false)

def requestCandidate (s : RepairState) (candidate : SummaryRepairCandidate) :
    RepairState :=
  match s.queueRetransmitTile candidate.tileId candidate.generation with
  | (s, true) => s.withPending (s.pending.clear candidate.tileId)
  | (s, false) => s

def sortedCandidates (candidates : List SummaryRepairCandidate) :
    List SummaryRepairCandidate :=
  candidates.insertionSort SummaryRepairCandidate.precedes

/-! ## Summaries -/

/-- The request and the partial tile that may still answer for a generation. -/
def heldOff (link : LinkTimers) (now tileId generation : Nat) : Bool :=
  RepairTracking.heldOff s.repairs.retxInflightGeneration
      s.repairs.retxInflightSinceNs tileId generation now
      link.inflightGraceNs ||
    RepairTracking.heldOff s.repairs.retxLastRequestedGeneration
      s.repairs.retxLastRequestNs tileId generation now
      link.requestIntervalNs

/-- The first sighting of a generation only hints that its packets are on their
way; the tile becomes a candidate when it has been pending for the grace time. -/
def noteEntry (link : LinkTimers) (now : Nat)
    (found : RepairState × List SummaryRepairCandidate) (entry : SummaryEntry) :
    RepairState × List SummaryRepairCandidate :=
  let s := found.1
  let tileId := entry.tileId
  let generation := entry.tileGeneration
  if generation ≤ s.received tileId then
    (s.withPending (s.pending.clear tileId), found.2)
  else if s.heldOff link now tileId generation ∨
      s.pending.generation tileId < generation then
    (s.withPending (s.pending.set link now tileId generation), found.2)
  else if s.pending.sinceNs tileId ≠ 0 ∧
      (now + 2 ^ 64 - s.pending.sinceNs tileId) % 2 ^ 64 <
        link.summaryGraceNs then found
  else
    (s, found.2 ++ [⟨tileId, generation, s.pending.sinceNs tileId⟩])

def keepOldest (candidates : List SummaryRepairCandidate) :
    List SummaryRepairCandidate :=
  if s.limitsCandidates candidates then
    (sortedCandidates candidates).take clientRepairPressureMaxQueueTiles
  else candidates

def requestNoted (link : LinkTimers) (now minAgeNs : Nat)
    (candidates : List SummaryRepairCandidate) : RepairState :=
  match s.largeSummaryRepairBatch link now candidates.length minAgeNs with
  | (s, true) => s
  | (s, false) => candidates.foldl requestCandidate s

/-- The second critical section of `queue_retransmits_from_summary`, with the
time that was read before the first; the display may have changed since the
entries were checked. -/
def noteSummary (link : LinkTimers) (now totalTiles : Nat)
    (entries : List SummaryEntry) : RepairState :=
  if totalTiles = 0 ∨ s.totalTiles ≠ totalTiles then s
  else
    let (s, candidates) := entries.foldl (noteEntry link now) (s, [])
    if candidates.isEmpty then s
    else
      s.requestNoted link now (minCandidateAgeNs now candidates)
        (s.keepOldest candidates)

/-- `client_accept_content_epoch`, as far as repairs are concerned; what was
queued for repair stays queued. -/
def acceptContentEpoch (epoch : Nat) (owner : ContentOwner) : RepairState :=
  match s.remote.judge epoch owner with
  | .advanced =>
      { s with
        remote := ⟨epoch, owner⟩
        trace := { s.trace with asked := [] } }
  | _ => s

/-- The first part of `queue_retransmits_from_summary`, for a summary of this
session with a valid count. -/
def offerSummary (contentEpoch : Nat) (entries : List SummaryEntry) :
    RepairState :=
  if entries.any fun entry => decide (entry.tileId ≥ s.totalTiles) then s
  else
    match s.remote.judge contentEpoch .tiles with
    | .stale => s
    | _ =>
        (s.acceptContentEpoch contentEpoch .tiles).withReader
          (.noting s.totalTiles s.clock entries)

/-! ## Promotion -/

/-- When a request in flight or in force lets the next one through. -/
def retryDueNs (link : LinkTimers) (tileId generation : Nat) : Nat :=
  max
    (if s.repairs.retxInflightGeneration tileId ≥ generation ∧
        s.repairs.retxInflightSinceNs tileId ≠ 0 then
      dueAfter (s.repairs.retxInflightSinceNs tileId) link.inflightGraceNs
    else 0)
    (if s.repairs.retxLastRequestedGeneration tileId ≥ generation ∧
        s.repairs.retxLastRequestNs tileId ≠ 0 then
      dueAfter (s.repairs.retxLastRequestNs tileId) link.requestIntervalNs
    else 0)

def decideDue (link : LinkTimers) (due : SummaryRepairDue) :
    RepairState × List SummaryRepairCandidate :=
  let since := s.pending.sinceNs due.tileId
  if due.tileId ≥ s.totalTiles ∨
      s.pending.generation due.tileId ≠ due.generation then (s, [])
  else if since = 0 then (s, [])
  else if s.received due.tileId ≥ due.generation then
    (s.withPending (s.pending.clear due.tileId), [])
  else if s.retryDueNs link due.tileId due.generation > s.clock.ns then
    (s.withPending (s.pending.schedule due.tileId due.generation
      (s.retryDueNs link due.tileId due.generation)), [])
  else (s, [⟨due.tileId, due.generation, since⟩])

/-- The loop stops at the first entry that is not due; what it puts off is not
due either, so it looks at each entry of the queue at most once. -/
def takeDue (link : LinkTimers) :
    Nat → RepairState × List SummaryRepairCandidate →
      RepairState × List SummaryRepairCandidate
  | 0, found => found
  | fuel + 1, found =>
      match found.1.pending.dueQueue with
      | [] => found
      | due :: rest =>
          if due.dueNs > found.1.clock.ns then found
          else
            let decided := (found.1.withPending
              { found.1.pending with dueQueue := rest }).decideDue link due
            takeDue link fuel (decided.1, found.2 ++ decided.2)

def scheduleCandidate (dueNs : Nat) (s : RepairState)
    (candidate : SummaryRepairCandidate) : RepairState :=
  s.withPending
    (s.pending.schedule candidate.tileId candidate.generation dueNs)

/-- Under pressure only the oldest candidates are kept; the others are put off. -/
def limitPromotion (candidates : List SummaryRepairCandidate) :
    RepairState × List SummaryRepairCandidate :=
  if s.limitsCandidates candidates then
    let sorted := sortedCandidates candidates
    ((sorted.drop clientRepairPressureMaxQueueTiles).foldl
        (scheduleCandidate
          ((s.clock.ns + netClientRepairRetryMinNs) % 2 ^ 64)) s,
      sorted.take clientRepairPressureMaxQueueTiles)
  else (s, candidates)

def requestPromoted (link : LinkTimers) (minAgeNs : Nat)
    (candidates : List SummaryRepairCandidate) : RepairState :=
  match s.largeSummaryRepairBatch link s.clock.ns candidates.length
      minAgeNs with
  | (s, true) =>
      candidates.foldl (scheduleCandidate
        (max ((s.clock.ns + netClientRepairRetryMinNs) % 2 ^ 64)
          s.largeRepairNotBeforeNs)) s
  | (s, false) => candidates.foldl requestCandidate s

def promoteDeferredSummaryRetransmits (link : LinkTimers) : RepairState :=
  if s.totalTiles = 0 ∨ s.pending.count = 0 ∨ s.pending.dueQueue.isEmpty then s
  else
    let (s, candidates) := takeDue link s.pending.dueQueue.length (s, [])
    if candidates.isEmpty then s
    else
      let minAgeNs := minCandidateAgeNs s.clock.ns candidates
      let (s, candidates) := s.limitPromotion candidates
      s.requestPromoted link minAgeNs candidates

end RepairState

end WayDisplay.Client
