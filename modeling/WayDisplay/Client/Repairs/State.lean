import WayDisplay.Client.Reassembly.System

/-!
Repairs that a summary asks for (`client_net.cpp`).

A summary may name a generation before its packets arrive, so the tile is first
only noted as pending, with a time at which to decide.  A promotion pass takes
the due entries and requests a repair, or schedules the decision again.  The
pending tiles are listed densely, and a table says where each of them lies.
-/

namespace WayDisplay.Client

open Common Foundation

def uint64Limit : Nat := 2 ^ 64 - 1

def uint32Limit : Nat := 2 ^ 32 - 1

/-! ## Timers -/

def nsecPerMsec : Nat := 1000000

def linkRttMaxNs : Nat := 800000000

def linkSummaryGraceMinNs : Nat := 150000000

def linkSummaryGraceMaxNs : Nat := 1200000000

def linkRetransmitRequestIntervalMinNs : Nat := 250000000

def linkRetransmitRequestIntervalMaxNs : Nat := 1200000000

def linkRetransmitInflightMinNs : Nat := 250000000

def linkRetransmitInflightMaxNs : Nat := 1200000000

def linkCleanSummaryIntervalMinNs : Nat := 200000000

def linkCleanSummaryIntervalMaxNs : Nat := 1000000000

def linkRuntimeGapPressureMinNs : Nat := 50000000

def netClientGapGraceNs : Nat := 50 * nsecPerMsec

def netClientRepairRetryMinNs : Nat := 10 * nsecPerMsec

def linkLargeSummaryRepairPercent : Nat := 25

def linkLargeSummaryRepairCooldownNs : Nat := 1000000000

def clientRepairPressurePercent : Nat := 25

def clientRepairPressureMaxQueueTiles : Nat := 2048

/-- The monotonic clock that `wd_now_ns` reads: it runs, and the longest delay
that is added to it still fits its type. -/
structure MonotonicClock where
  ns : Nat
  running : 0 < ns
  fits : ns + linkLargeSummaryRepairCooldownNs ≤ uint64Limit

def MonotonicClock.advance (clock : MonotonicClock) (elapsed : Nat) :
    MonotonicClock where
  ns := min (uint64Limit - linkLargeSummaryRepairCooldownNs)
    (clock.ns + elapsed)
  running := by
    have := clock.running
    have : linkLargeSummaryRepairCooldownNs < uint64Limit := by decide
    omega
  fits := by
    have : linkLargeSummaryRepairCooldownNs < uint64Limit := by decide
    omega

/-- The timer values that the configuration and the receive statistics set. -/
structure LinkTimers where
  summaryRetransmitGraceNs : Nat
  retransmitRequestIntervalNs : Nat
  retxInflightGraceNs : Nat
  cleanSummaryIntervalNs : Nat
  udpGapPressureNs : Nat
  summaryRepairLossSignalUntilNs : Nat
  deriving DecidableEq, Repr

def clampTimerNs (ns minNs maxNs : Nat) : Nat := max minNs (min maxNs ns)

namespace LinkTimers

variable (link : LinkTimers)

def gapPressureNs : Nat := clampTimerNs link.udpGapPressureNs 0 linkRttMaxNs

def stretched (baseNs pressedNs minNs maxNs : Nat) : Nat :=
  if link.gapPressureNs ≥ linkRuntimeGapPressureMinNs then
    max (clampTimerNs baseNs minNs maxNs) (clampTimerNs pressedNs minNs maxNs)
  else clampTimerNs baseNs minNs maxNs

def summaryGraceNs : Nat :=
  link.stretched link.summaryRetransmitGraceNs
    (link.gapPressureNs + netClientGapGraceNs) linkSummaryGraceMinNs
    linkSummaryGraceMaxNs

def requestIntervalNs : Nat :=
  link.stretched link.retransmitRequestIntervalNs (link.gapPressureNs * 2)
    linkRetransmitRequestIntervalMinNs linkRetransmitRequestIntervalMaxNs

def inflightGraceNs : Nat :=
  link.stretched link.retxInflightGraceNs (link.gapPressureNs * 2)
    linkRetransmitInflightMinNs linkRetransmitInflightMaxNs

def summaryCleanIntervalNs : Nat :=
  clampTimerNs link.cleanSummaryIntervalNs linkCleanSummaryIntervalMinNs
    linkCleanSummaryIntervalMaxNs

def largeSummaryRepairGraceNs : Nat :=
  max link.summaryGraceNs
    (max link.requestIntervalNs link.summaryCleanIntervalNs)

def recentConcreteRepairLossSignal (now : Nat) : Bool :=
  link.summaryRepairLossSignalUntilNs ≠ 0 &&
    now < link.summaryRepairLossSignalUntilNs

end LinkTimers

/-- The clock and the timers of the concrete runs below: one second, and timers
at their lower bounds. -/
def oneSecond : MonotonicClock := ⟨1000000000, by decide, by decide⟩

def shortTimers : LinkTimers := ⟨0, 0, 0, 0, 0, 0⟩

/-- A deadline that cannot be represented is never reached. -/
def dueAfter (start delay : Nat) : Nat :=
  if start > uint64Limit - delay then uint64Limit else start + delay

/-! ## Pending tiles -/

structure SummaryRepairDue where
  tileId : Nat
  generation : Nat
  dueNs : Nat
  deriving DecidableEq, Repr

def SummaryRepairDue.target (due : SummaryRepairDue) : Nat × Nat :=
  (due.tileId, due.generation)

/-- The slots of `index` are the positions, with `none` for `UINT32_MAX`. -/
structure SummaryPending where
  generation : Generations
  sinceNs : Generations
  index : SlotTable Nat Nat
  dueQueue : List SummaryRepairDue

namespace SummaryPending

def empty : SummaryPending where
  generation := fun _ => 0
  sinceNs := fun _ => 0
  index := .empty
  dueQueue := []

def indexAdd (index : SlotTable Nat Nat) (tileId : Nat) :
    Option (SlotTable Nat Nat) :=
  match index.slot tileId with
  | some _ => some index
  | none =>
      if index.items.length ≥ uint32Limit then none
      else some (index.push id tileId)

def indexRemove (index : SlotTable Nat Nat) (tileId : Nat) :
    SlotTable Nat Nat :=
  match index.slot tileId with
  | none => index
  | some position =>
      if position ≥ index.items.length then index
      else
        let moved := index.items.getLastD 0
        { items := (index.items.set position moved).dropLast
          slot := Function.update
            (Function.update index.slot moved (some position)) tileId none }

variable (pending : SummaryPending)

def count : Nat := pending.index.items.length

def clear (tileId : Nat) : SummaryPending :=
  { pending with
    generation := Function.update pending.generation tileId 0
    sinceNs := Function.update pending.sinceNs tileId 0
    index := indexRemove pending.index tileId }

theorem clear_generation (tileId k : Nat) :
    (pending.clear tileId).generation k =
      if k = tileId then 0 else pending.generation k :=
  Function.update_apply _ _ _ _

theorem clear_sinceNs (tileId k : Nat) :
    (pending.clear tileId).sinceNs k =
      if k = tileId then 0 else pending.sinceNs k :=
  Function.update_apply _ _ _ _

def schedule (tileId generation dueNs : Nat) : SummaryPending :=
  { pending with
    dueQueue := pending.dueQueue ++ [⟨tileId, generation, dueNs⟩] }

def set (link : LinkTimers) (now tileId generation : Nat) : SummaryPending :=
  if generation = 0 ∨ pending.generation tileId ≥ generation then pending
  else
    match indexAdd pending.index tileId with
    | none => pending
    | some index =>
        { pending with
          generation := Function.update pending.generation tileId generation
          sinceNs := Function.update pending.sinceNs tileId now
          index := index : SummaryPending }.schedule tileId generation
            (dueAfter now link.summaryGraceNs)

/-- What a completed tile leaves to repair, in
`clear_completed_repair_tracking_locked`. -/
def clearCompleted (received : Generations) (tileId : Nat) : SummaryPending :=
  if pending.generation tileId ≠ 0 ∧
      pending.generation tileId ≤ received tileId then
    pending.clear tileId
  else pending

end SummaryPending

end WayDisplay.Client
