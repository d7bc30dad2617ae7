import WayDisplay.Client.Repairs.System

/-!
A rule for the passes over candidates.

Summaries and promotion passes collect candidates and then request them or put
them off, one by one.  A property of the tables and of the candidates in hand
that survives each of these steps survives the whole pass.
-/

namespace WayDisplay.Client

open Common Foundation

theorem MonotonicClock.lt_retry (clock : MonotonicClock) :
    clock.ns < (clock.ns + netClientRepairRetryMinNs) % 2 ^ 64 := by
  have fits := clock.fits
  have shorter : netClientRepairRetryMinNs ≤ linkLargeSummaryRepairCooldownNs :=
    by decide
  have positive : 0 < netClientRepairRetryMinNs := by decide
  unfold uint64Limit at fits
  rw [Nat.mod_eq_of_lt (by omega)]
  omega

namespace RepairState

/-- `holds` survives what a pass does with the candidates it has in hand. -/
structure PassClosed
    (holds : RepairState → List SummaryRepairCandidate → Prop) : Prop where
  perm : ∀ {s candidates others}, holds s candidates →
    candidates.Perm others → holds s others
  request : ∀ {s candidate rest}, holds s (candidate :: rest) →
    holds (s.requestCandidate candidate) rest
  schedule : ∀ {s candidate rest} {dueNs : Nat}, s.clock.ns < dueNs →
    holds s (candidate :: rest) → holds (scheduleCandidate dueNs s candidate) rest
  notBefore : ∀ {s candidates} (notBeforeNs : Nat), holds s candidates →
    holds { s with largeRepairNotBeforeNs := notBeforeNs } candidates

namespace PassClosed

variable {holds : RepairState → List SummaryRepairCandidate → Prop}
  {s : RepairState} {candidates : List SummaryRepairCandidate}

theorem requestCandidates (closed : PassClosed holds)
    (start : holds s candidates) :
    holds (candidates.foldl requestCandidate s) [] := by
  induction candidates generalizing s with
  | nil => exact start
  | cons candidate rest ih => exact ih (closed.request start)

theorem scheduleCandidates (closed : PassClosed holds)
    {put : List SummaryRepairCandidate} {dueNs : Nat}
    (late : s.clock.ns < dueNs) (start : holds s (put ++ candidates)) :
    holds (put.foldl (scheduleCandidate dueNs) s) candidates := by
  induction put generalizing s with
  | nil => exact start
  | cons candidate rest ih => exact ih late (closed.schedule late start)

theorem largeBatch (closed : PassClosed holds) (start : holds s candidates)
    (link : LinkTimers) (now candidateCount minAgeNs : Nat) :
    holds (s.largeSummaryRepairBatch link now candidateCount minAgeNs).1
      candidates := by
  unfold largeSummaryRepairBatch
  split_ifs
  · exact start
  · exact start
  · exact start
  · exact closed.notBefore _ start

/-! ## Summaries -/

variable {found : RepairState × List SummaryRepairCandidate}

theorem requestNoted (closed : PassClosed holds) (start : holds s candidates)
    (fewer : ∀ {s candidates}, holds s candidates → holds s [])
    (link : LinkTimers) (now minAgeNs : Nat) :
    holds (s.requestNoted link now minAgeNs candidates) [] := by
  unfold RepairState.requestNoted
  have judged := closed.largeBatch start link now candidates.length minAgeNs
  generalize s.largeSummaryRepairBatch link now candidates.length minAgeNs =
    outcome at judged ⊢
  match outcome with
  | (_, true) => exact fewer judged
  | (_, false) => exact closed.requestCandidates judged

theorem noteSummary {holds : RepairState → Prop}
    (closed : PassClosed fun s _ => holds s) (start : holds s)
    (link : LinkTimers) (now : Nat) {totalTiles : Nat}
    {entries : List SummaryEntry}
    (note : totalTiles = s.totalTiles → ∀ entry ∈ entries, ∀ found,
      holds found.1 → holds (noteEntry link now found entry).1) :
    holds (s.noteSummary link now totalTiles entries) := by
  unfold RepairState.noteSummary
  split_ifs with changed
  · exact start
  · have noted : holds (entries.foldl (noteEntry link now) (s, [])).1 :=
      List.foldlRecOn entries (noteEntry link now) start
        fun found here entry member =>
          note (not_not.mp (not_or.mp changed).2).symm entry member found here
    generalize entries.foldl (noteEntry link now) (s, []) = found at noted ⊢
    dsimp only
    split_ifs
    · exact noted
    · exact closed.requestNoted noted (fun here => here) link now _

/-! ## Promotion -/

/-- `holds` survives the decision on the entry at the head of the queue. -/
def DueClosed (holds : RepairState → List SummaryRepairCandidate → Prop)
    (link : LinkTimers) : Prop :=
  ∀ {s due rest candidates}, s.pending.dueQueue = due :: rest →
    holds s candidates →
    let decided := (s.withPending { s.pending with
      dueQueue := rest }).decideDue link due
    holds decided.1 (candidates ++ decided.2)

theorem takeDue {link : LinkTimers} (decide : DueClosed holds link)
    (fuel : Nat) (start : holds found.1 found.2) :
    holds (RepairState.takeDue link fuel found).1
      (RepairState.takeDue link fuel found).2 := by
  induction fuel generalizing found with
  | zero => exact start
  | succ fuel ih =>
      unfold RepairState.takeDue
      split
      next => exact start
      next due rest queued =>
        dsimp only
        split_ifs
        · exact start
        · exact ih (decide queued start)

theorem limitPromotion (closed : PassClosed holds)
    (start : holds s candidates) :
    holds (s.limitPromotion candidates).1 (s.limitPromotion candidates).2 := by
  unfold RepairState.limitPromotion
  split_ifs
  · refine closed.scheduleCandidates s.clock.lt_retry (closed.perm start ?_)
    refine (List.perm_insertionSort SummaryRepairCandidate.precedes
      candidates).symm.trans ?_
    refine List.Perm.trans ?_ List.perm_append_comm
    rw [List.take_append_drop]
    rfl
  · exact start

theorem requestPromoted (closed : PassClosed holds)
    (start : holds s candidates) (link : LinkTimers) (minAgeNs : Nat) :
    holds (s.requestPromoted link minAgeNs candidates) [] := by
  unfold RepairState.requestPromoted
  have judged := closed.largeBatch start link s.clock.ns candidates.length
    minAgeNs
  generalize s.largeSummaryRepairBatch link s.clock.ns candidates.length
    minAgeNs = outcome at judged ⊢
  match outcome with
  | (t, true) =>
      refine closed.scheduleCandidates
        (t.clock.lt_retry.trans_le (Nat.le_max_left _ _)) ?_
      rwa [List.append_nil]
  | (_, false) => exact closed.requestCandidates judged

theorem promote (closed : PassClosed holds) {link : LinkTimers}
    (decide : DueClosed holds link)
    (start : holds s []) :
    holds (s.promoteDeferredSummaryRetransmits link) [] := by
  unfold promoteDeferredSummaryRetransmits
  split_ifs
  · exact start
  · have begun : holds (s, ([] : List SummaryRepairCandidate)).1
        (s, ([] : List SummaryRepairCandidate)).2 := start
    have taken := takeDue decide s.pending.dueQueue.length begun
    generalize RepairState.takeDue link s.pending.dueQueue.length (s, []) =
      found at taken ⊢
    dsimp only
    split_ifs with none
    · rwa [List.isEmpty_iff.mp none] at taken
    · exact closed.requestPromoted (closed.limitPromotion taken) link _

end PassClosed

end RepairState

end WayDisplay.Client
