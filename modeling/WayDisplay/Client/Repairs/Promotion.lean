import WayDisplay.Client.Repairs.Pending

/-!
What a promotion pass leaves in the due queue.

Decisions are appended with different delays, and a pass looks at the head of the
queue only: it takes due entries until the first one that is not due.  What it
puts off goes to the back and is not due.  So the entries that stay due are those
behind an entry that is not.
-/

namespace WayDisplay.Client

open Common Foundation

namespace RepairState

/-! ## Entries put off -/

/-- The later state has more decisions at the back of the queue, none due. -/
def PutsOff (before after : RepairState) : Prop :=
  after.clock = before.clock ∧
    ∃ put, after.pending.dueQueue = before.pending.dueQueue ++ put ∧
      ∀ later ∈ put, before.clock.ns < later.dueNs

theorem putsOff_of_same {before after : RepairState}
    (clock : after.clock = before.clock)
    (queue : after.pending.dueQueue = before.pending.dueQueue) :
    PutsOff before after :=
  ⟨clock, [], queue.trans (List.append_nil _).symm, nofun⟩

theorem PutsOff.trans {first second third : RepairState}
    (early : PutsOff first second) (late : PutsOff second third) :
    PutsOff first third := by
  obtain ⟨clock, put, queue, notDue⟩ := early
  obtain ⟨clock', put', queue', notDue'⟩ := late
  refine ⟨clock'.trans clock, put ++ put', ?_, ?_⟩
  · rw [queue', queue, List.append_assoc]
  · intro later member
    rcases List.mem_append.mp member with before | after
    · exact notDue later before
    · rw [← clock]
      exact notDue' later after

theorem putsOff_requestCandidate (s : RepairState)
    (candidate : SummaryRepairCandidate) :
    PutsOff s (requestCandidate s candidate) := by
  unfold requestCandidate queueRetransmitTile
  split_ifs
  · exact putsOff_of_same rfl rfl
  · exact putsOff_of_same rfl rfl

theorem putsOff_closed (s : RepairState) :
    PassClosed fun t _ => PutsOff s t where
  perm puts _ := puts
  request puts := puts.trans (putsOff_requestCandidate _ _)
  schedule late puts := puts.trans ⟨rfl, [_], rfl, fun _ member =>
    List.mem_singleton.mp member ▸ late⟩
  notBefore _ puts := puts.trans (putsOff_of_same rfl rfl)

/-! ## The loop -/

/-- The queue from its first entry that is not due. -/
def fromFirstLate (now : Nat) (queue : List SummaryRepairDue) :
    List SummaryRepairDue :=
  queue.dropWhile fun due => decide (due.dueNs ≤ now)

theorem fromFirstLate_append {now : Nat} (queue : List SummaryRepairDue)
    {put : List SummaryRepairDue} (notDue : ∀ later ∈ put, now < later.dueNs) :
    fromFirstLate now (queue ++ put) = fromFirstLate now queue ++ put := by
  induction queue with
  | nil =>
      cases put with
      | nil => rfl
      | cons later rest =>
          exact List.dropWhile_cons_of_neg (by
            simpa using notDue later (.head _))
  | cons due rest ih =>
      by_cases now_due : due.dueNs ≤ now
      · simpa [fromFirstLate, now_due] using ih
      · simp [fromFirstLate, now_due]

theorem takeDue_split {now : Nat} {due : SummaryRepairDue}
    {queue front back rest : List SummaryRepairDue}
    (queued : queue = front ++ back) (heading : queue = due :: rest)
    (late : ∀ due ∈ back, now < due.dueNs) (early : ¬ due.dueNs > now) :
    ∃ front', rest = front' ++ back ∧ front'.length + 1 ≤ front.length := by
  rw [queued] at heading
  cases front with
  | nil =>
      rw [List.nil_append] at heading
      exact absurd (late due (heading ▸ List.mem_cons_self)) early
  | cons first front' =>
      exact ⟨front', (List.cons.inj heading).2.symm, Nat.le_refl _⟩

theorem takeDue_dueQueue (link : LinkTimers) (fuel : Nat)
    (found : RepairState × List SummaryRepairCandidate)
    {front back : List SummaryRepairDue}
    (queued : found.1.pending.dueQueue = front ++ back)
    (late : ∀ due ∈ back, found.1.clock.ns < due.dueNs)
    (enough : front.length ≤ fuel) :
    (takeDue link fuel found).1.clock = found.1.clock ∧
      ∃ put, (takeDue link fuel found).1.pending.dueQueue =
          fromFirstLate found.1.clock.ns found.1.pending.dueQueue ++ put ∧
        ∀ later ∈ put, found.1.clock.ns < later.dueNs := by
  induction fuel generalizing found front back with
  | zero =>
      rw [List.length_eq_zero_iff.mp (Nat.le_zero.mp enough),
        List.nil_append] at queued
      have whole := fromFirstLate_append [] late
      rw [List.nil_append] at whole
      refine ⟨rfl, [], ?_, nofun⟩
      change found.1.pending.dueQueue = _
      rw [queued, whole, List.append_nil]
      rfl
  | succ fuel ih =>
      unfold takeDue
      cases heading : found.1.pending.dueQueue with
      | nil => exact ⟨rfl, [], by rw [heading]; rfl, nofun⟩
      | cons due rest =>
          dsimp only
          split_ifs with early
          · refine ⟨rfl, [], ?_, nofun⟩
            have stops : fromFirstLate found.1.clock.ns (due :: rest) =
                due :: rest :=
              List.dropWhile_cons_of_neg (by simpa using early)
            rw [heading, stops, List.append_nil]
          · have decision := decideDue_dueQueue (found.1.withPending
              { found.1.pending with dueQueue := rest }) link due
            generalize (found.1.withPending { found.1.pending with
              dueQueue := rest }).decideDue link due = decided at decision ⊢
            obtain ⟨sameClock, put, grown, putLate⟩ :
              decided.1.clock = found.1.clock ∧ ∃ put,
                decided.1.pending.dueQueue = rest ++ put ∧
                ∀ later ∈ put, found.1.clock.ns < later.dueNs := decision
            have passes : fromFirstLate found.1.clock.ns (due :: rest) =
                fromFirstLate found.1.clock.ns rest :=
              List.dropWhile_cons_of_pos (by simpa using early)
            have shorter := takeDue_split queued heading late early
            obtain ⟨front', queued', short⟩ := shorter
            obtain ⟨clock, put', grown', putLate'⟩ := ih
              (decided.1, found.2 ++ decided.2)
              (by rw [grown, queued', List.append_assoc])
              (by
                rw [sameClock]
                intro later member
                rcases List.mem_append.mp member with before | added
                · exact late later before
                · exact putLate later added)
              (Nat.le_of_succ_le_succ (short.trans enough))
            rw [sameClock] at clock grown' putLate'
            refine ⟨clock, put ++ put', ?_, ?_⟩
            · rw [grown', grown, passes, ← List.append_assoc,
                fromFirstLate_append rest putLate]
            · intro later member
              rcases List.mem_append.mp member with before | added
              · exact putLate later before
              · exact putLate' later added

/-! ## The pass -/

def DueInFront (s : RepairState) : Prop :=
  ∀ due ∈ fromFirstLate s.clock.ns s.pending.dueQueue,
    s.clock.ns < due.dueNs

/-- A pass that has no tile to decide about leaves the queue as it is. -/
def PassesOver (s : RepairState) : Prop :=
  s.totalTiles = 0 ∨ s.pending.count = 0

/-- The pass finds every due entry. -/
def FindsDue (s : RepairState) : Prop :=
  s.DueInFront ∧
    (s.PassesOver → ∀ due ∈ s.pending.dueQueue, s.clock.ns < due.dueNs)

instance (s : RepairState) : Decidable s.DueInFront :=
  inferInstanceAs (Decidable (∀ due ∈ _, _))

instance (s : RepairState) : Decidable s.PassesOver :=
  inferInstanceAs (Decidable (_ ∨ _))

instance (s : RepairState) : Decidable s.FindsDue :=
  inferInstanceAs (Decidable (_ ∧ (_ → _)))

theorem mem_fromFirstLate {now : Nat} {queue : List SummaryRepairDue}
    {due : SummaryRepairDue} (member : due ∈ fromFirstLate now queue) :
    due ∈ queue :=
  (List.dropWhile_sublist _).subset member

theorem promote_dueQueue (s : RepairState) (link : LinkTimers)
    (decides : ¬ s.PassesOver) :
    ∃ put, (s.promoteDeferredSummaryRetransmits link).pending.dueQueue =
        fromFirstLate s.clock.ns s.pending.dueQueue ++ put ∧
      ∀ later ∈ put, s.clock.ns < later.dueNs := by
  unfold promoteDeferredSummaryRetransmits
  split_ifs with skipped
  · have empty : s.pending.dueQueue = [] := by
      rcases skipped with none | none | none
      · exact absurd (.inl none) decides
      · exact absurd (.inr none) decides
      · exact List.isEmpty_iff.mp none
    exact ⟨[], by rw [empty]; rfl, nofun⟩
  · obtain ⟨clock, put, queue, notDue⟩ := takeDue_dueQueue link
      s.pending.dueQueue.length (s, [])
      (show s.pending.dueQueue = s.pending.dueQueue ++ [] from
        (List.append_nil _).symm) nofun (Nat.le_refl _)
    generalize takeDue link s.pending.dueQueue.length (s, []) = taken at *
    dsimp only at clock queue notDue ⊢
    split_ifs
    · exact ⟨put, queue, notDue⟩
    · have closed := taken.1.putsOff_closed
      obtain ⟨-, more, added, moreLate⟩ := closed.requestPromoted
        (closed.limitPromotion (putsOff_of_same rfl rfl)) link _
      refine ⟨put ++ more, ?_, ?_⟩
      · rw [added, queue, List.append_assoc]
      · intro later member
        rcases List.mem_append.mp member with before | after
        · exact notDue later before
        · rw [← clock]
          exact moreLate later after

/--
A promotion pass leaves no due entry exactly when every due entry stood in front
of those that were not due, and the pass had a tile to decide about.
-/
theorem promote_leaves_none_due_iff (s : RepairState) (link : LinkTimers) :
    (∀ due ∈ (s.promoteDeferredSummaryRetransmits link).pending.dueQueue,
      s.clock.ns < due.dueNs) ↔ s.FindsDue := by
  by_cases exceeds : s.PassesOver
  · have same : s.promoteDeferredSummaryRetransmits link = s := by
      unfold promoteDeferredSummaryRetransmits
      exact if_pos (exceeds.imp_right .inl)
    rw [same]
    constructor
    · intro late
      exact ⟨fun due member => late due (mem_fromFirstLate member),
        fun _ => late⟩
    · intro finds
      exact finds.2 exceeds
  · obtain ⟨put, queue, notDue⟩ := s.promote_dueQueue link exceeds
    rw [queue]
    constructor
    · intro late
      exact ⟨fun due member => late due (List.mem_append_left _ member),
        fun passesOver => absurd passesOver exceeds⟩
    · intro finds due member
      rcases List.mem_append.mp member with before | after
      · exact finds.1 due before
      · exact notDue due after

/-- Tile 0 is put off because a packet of it arrived; tile 1, missing since, is
queued behind it with the shorter grace of a summary. -/
def behindRetry : RepairState :=
  repairRun (init 2 1 oneSecond)
    [.offerSummary 1 [⟨0, 1⟩], .noteSummary shortTimers, .tick 149000000,
      .markInflight 0 1, .tick 1000000, .promote shortTimers,
      .offerSummary 1 [⟨1, 1⟩], .noteSummary shortTimers, .tick 159000000]

/-- At 1.309 s the pass leaves tile 1, due since 1.3 s. -/
theorem promote_leaves_tile_due :
    ⟨1, 1, 1300000000⟩ ∈
        (behindRetry.promoteDeferredSummaryRetransmits
          shortTimers).pending.dueQueue ∧
      behindRetry.clock.ns = 1309000000 ∧
      behindRetry.received 1 = 0 := by
  decide +kernel

def afterGrace : RepairState :=
  repairRun (init 2 1 oneSecond)
    [.offerSummary 1 [⟨0, 1⟩], .noteSummary shortTimers, .tick 200000000]

theorem promote_leaves_none_due_afterGrace :
    ∀ due ∈ (afterGrace.promoteDeferredSummaryRetransmits
        shortTimers).pending.dueQueue,
      afterGrace.clock.ns < due.dueNs :=
  (promote_leaves_none_due_iff afterGrace shortTimers).mpr (by decide +kernel)

end RepairState

end WayDisplay.Client
