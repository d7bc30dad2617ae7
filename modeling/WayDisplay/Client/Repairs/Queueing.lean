import WayDisplay.Client.Repairs.Passes

/-!
What summaries, promotion passes and timeouts do to the repair queue: they put
repairs into it, one after the other, and touch neither the content epoch nor
the requests that were made.
-/

namespace WayDisplay.Client

open Common Foundation

namespace RepairState

/-- `s` after some repairs were queued; the pending tiles, the marks for partial
tiles and the times around them may have changed too. -/
inductive Queueing (s : RepairState) : RepairState → Prop where
  | refl : Queueing s s
  | timers {t : RepairState} (earlier : Queueing s t) (pending : SummaryPending)
      (notBeforeNs : Nat) :
      Queueing s
        { t with pending := pending, largeRepairNotBeforeNs := notBeforeNs }
  | inflight {t : RepairState} (earlier : Queueing s t)
      (generations times : Generations) :
      Queueing s
        { t with
          repairs := { t.repairs with
            retxInflightGeneration := generations
            retxInflightSinceNs := times } }
  | queue {t : RepairState} (earlier : Queueing s t) (tileId generation : Nat) :
      Queueing s
        { t with
          repairs := t.repairs.enqueue tileId generation
          trace := t.noteQueued tileId generation }

section

variable {s t : RepairState}

theorem Queueing.withPending (queueing : Queueing s t)
    (pending : SummaryPending) : Queueing s (t.withPending pending) :=
  queueing.timers pending t.largeRepairNotBeforeNs

theorem Queueing.requestCandidate (queueing : Queueing s t)
    (candidate : SummaryRepairCandidate) :
    Queueing s (t.requestCandidate candidate) := by
  unfold RepairState.requestCandidate queueRetransmitTile
  split_ifs
  · exact queueing
  · exact (queueing.queue candidate.tileId candidate.generation).withPending _

theorem queueing_closed (s : RepairState) :
    PassClosed fun t _ => Queueing s t where
  perm queueing _ := queueing
  request queueing := queueing.requestCandidate _
  schedule _ queueing := queueing.withPending _
  notBefore notBeforeNs queueing := queueing.timers _ notBeforeNs

theorem queueing_noteSummary (s : RepairState) (link : LinkTimers)
    (now totalTiles : Nat) (entries : List SummaryEntry) :
    Queueing s (s.noteSummary link now totalTiles entries) := by
  refine s.queueing_closed.noteSummary .refl link now ?_
  intro _ entry _ found queueing
  unfold noteEntry
  dsimp only
  split_ifs
  · exact queueing.withPending _
  · exact queueing.withPending _
  · exact queueing
  · exact queueing

theorem queueing_promote (s : RepairState) (link : LinkTimers) :
    Queueing s (s.promoteDeferredSummaryRetransmits link) := by
  refine s.queueing_closed.promote ?_ .refl
  intro t due rest candidates _ queueing
  have popped := queueing.withPending { t.pending with dueQueue := rest }
  unfold decideDue
  dsimp only
  split_ifs
  · exact popped
  · exact popped
  · exact popped.withPending _
  · exact popped.withPending _
  · exact popped

theorem Queueing.clearInflight (queueing : Queueing s t)
    (tileId generation : Nat) :
    Queueing s
      { t with repairs := t.repairs.clearRetxInflight tileId generation } := by
  unfold RepairTracking.clearRetxInflight
  split_ifs
  · exact queueing.inflight _ _
  · exact queueing

theorem queueing_partialTimeout (s : RepairState) (tileId generation : Nat) :
    Queueing s (s.queueForPartialTimeout tileId generation) := by
  unfold queueForPartialTimeout RepairTracking.repairBaseTile
  split_ifs
  · exact Queueing.refl.clearInflight tileId generation
  · exact (Queueing.refl.queue tileId generation).clearInflight tileId
      generation

end

end RepairState

end WayDisplay.Client
