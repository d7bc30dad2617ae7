import WayDisplay.Server.DirtyRegionSet

/-!
How long a region waits (`wd_dirty_region_scheduler.c`).

Once a region starves, a take returns only regions that are at least as old, so
their number bounds the takes that pass it over.
-/

namespace WayDisplay.Server

open Foundation

def SchedulerEvent.takes : SchedulerEvent → Nat
  | .take _ _ => 1
  | _ => 0

namespace DirtyRegionScheduler

/-- The order in which starving regions are taken. -/
def precedes (s : DirtyRegionScheduler) (other id : Nat) : Bool :=
  s.enqueuedNs other < s.enqueuedNs id ||
    s.enqueuedNs other == s.enqueuedNs id && other ≤ id

/-- The queued regions that are at least as old as `id`, which is one of them. -/
def ahead (s : DirtyRegionScheduler) (id : Nat) : Nat :=
  (List.range s.capacity).countP fun other =>
    s.queued other && s.precedes other id

variable {s : DirtyRegionScheduler} {q : RegionSet} {id now : Nat}

theorem Stands.take_precedes (stands : s.Stands q) (cursor : Nat)
    (queued : s.queued id = true)
    (starves : s.starvationNs ≠ 0 ∧ s.enqueuedNs id + s.starvationNs ≤ now) :
    ∃ heap region, s.queued region = true ∧ s.precedes region id = true ∧
      s.take cursor now =
        ({ s with heap := heap }.unqueue region, some region) := by
  rcases stands.sound.take_cases cursor now with ⟨idle, -⟩ |
    ⟨heap, region, isQueued, taken⟩
  · exact absurd (stands.sound.not_queued (by omega) id) (by simp [queued])
  refine ⟨heap, region, isQueued, ?_, taken⟩
  have answer := (stands.take cursor now).2
  rw [taken, RegionSet.take, RegionSet.choice] at answer
  cases found : q.oldest with
  | none => simp [found] at answer
  | some oldest =>
      have isOldest : q.IsOldest oldest :=
        of_decide_eq_true (@List.find?_some Nat _ _ (List.range q.capacity) found)
      have before := isOldest.2 id
        (stands.agrees.capacity ▸ stands.sound.inside id queued)
        ((stands.agrees.member id).trans queued)
      have time := stands.agrees.time stands.aged queued
      have starving : q.Starves oldest now := by
        rw [RegionSet.Starves, stands.agrees.starvationNs]
        omega
      simp only [found, if_pos starving, Option.some.injEq] at answer
      subst answer
      rw [stands.agrees.time stands.aged isQueued, time] at before
      simpa [precedes] using before

/-- `id` is left waiting: takes come when it starves and return others, and no
region that is as old enters. -/
def PassedOver (id : Nat) (s : DirtyRegionScheduler) : SchedulerEvent → Prop
  | .enqueue other now _ =>
      s.queued other = true ∨ s.enqueuedNs id < s.ageFor other now
  | .take cursor now => (s.starvationNs ≠ 0 ∧
      s.enqueuedNs id + s.starvationNs ≤ now) ∧ (s.take cursor now).2 ≠ some id
  | .forget other => other ≠ id
  | .reset => False

theorem forget_enqueuedNs {other region : Nat} (distinct : region ≠ other) :
    (s.forget other).enqueuedNs region = s.enqueuedNs region := by
  unfold forget
  split_ifs <;> simp [unqueue, distinct]

theorem Stands.passedOver (stands : s.Stands q) (queued : s.queued id = true)
    {event : SchedulerEvent} (waits : s.PassedOver id event) :
    (event.onScheduler s).1.queued id = true ∧
      (event.onScheduler s).1.ahead id + event.takes ≤ s.ahead id := by
  cases event with
  | enqueue other now grows =>
      dsimp only [SchedulerEvent.onScheduler, SchedulerEvent.takes,
        DirtyRegionScheduler.enqueue]
      split_ifs with outside known full
      · exact ⟨queued, le_rfl⟩
      · exact ⟨queued, le_rfl⟩
      · exact ⟨queued, le_rfl⟩
      · have distinct : id ≠ other := by
          rintro rfl
          exact known queued
        have later := waits.resolve_left known
        refine ⟨by simpa [distinct] using queued,
          List.countP_mono_left fun region _ => ?_⟩
        by_cases same : region = other
        · subst same
          simp [precedes, distinct, later.le.not_gt, later.ne']
        · simp [precedes, distinct, same]
  | take cursor now =>
      obtain ⟨heap, region, isQueued, before, taken⟩ :=
        stands.take_precedes cursor queued waits.1
      have distinct : region ≠ id := fun same =>
        waits.2 (by rw [taken, same])
      dsimp only [SchedulerEvent.onScheduler, SchedulerEvent.takes]
      rw [taken]
      refine ⟨by simpa [unqueue_queued, Ne.symm distinct] using queued, ?_⟩
      refine countP_range_lt_of_clear ?_ (stands.sound.inside region isQueued)
        (by rw [isQueued, before]; rfl) (by simp [unqueue_queued])
      intro other
      rw [unqueue_queued]
      simp only [Bool.and_eq_true]
      exact fun still => ⟨still.1.1, still.2⟩
  | forget other =>
      have still := stands.sound.forget_queued other
      change (s.forget other).queued id = true ∧
        (s.forget other).ahead id ≤ s.ahead id
      rw [still, queued, ahead, forget_capacity]
      refine ⟨by simpa using Ne.symm waits,
        List.countP_mono_left fun region _ member => ?_⟩
      rw [still, Bool.and_eq_true, Bool.and_eq_true, bne_iff_ne] at member
      rw [member.1.1, Bool.true_and, precedes,
        ← forget_enqueuedNs member.1.2, ← forget_enqueuedNs (Ne.symm waits)]
      exact member.2
  | reset => exact waits.elim

end DirtyRegionScheduler

open DirtyRegionScheduler in
/-- The number of takes that pass a region over, whatever led to its waiting. -/
theorem takes_lt_ahead {capacity starvationNs id : Nat}
    {before events : List SchedulerEvent}
    (queued : (schedulerRun capacity starvationNs before).scheduler.queued id =
      true)
    (waits : Along (fun s event => (event.onScheduler s).1) (PassedOver id)
      (schedulerRun capacity starvationNs before).scheduler events) :
    (events.map SchedulerEvent.takes).sum <
      (schedulerRun capacity starvationNs before).scheduler.ahead id := by
  have reached : ∃ q,
      (schedulerRun capacity starvationNs before).scheduler.Stands q :=
    @invariant_runFrom_of_step SchedulerRun _ _
      (fun run => ∃ q, run.scheduler.Stands q)
      (fun _ event => Exists.imp' _ fun _ stands => (stands_step stands event).1) _
      ⟨_, stands_create capacity starvationNs⟩ before
  obtain ⟨q, stands⟩ := reached
  generalize (schedulerRun capacity starvationNs before).scheduler = s at *
  induction events generalizing s q with
  | nil =>
      refine countP_range_pos.mpr ⟨id, stands.sound.inside id queued, ?_⟩
      simp [queued, precedes]
  | cons event rest ih =>
      obtain ⟨first, later⟩ := waits
      obtain ⟨still, falls⟩ := stands.passedOver queued first
      have others := ih _ _ still later (stands_step stands event).1
      rw [List.map_cons, List.sum_cons]
      omega

/-- Two older regions are taken first; one of them comes back as a young one. -/
theorem takes_lt_ahead_third :
    ([SchedulerEvent.take 0 20, .forget 5, .enqueue 5 21 true,
        .take 0 22].map SchedulerEvent.takes).sum <
      (schedulerRun 8 10 [.enqueue 5 1 true, .enqueue 3 2 true,
        .enqueue 6 3 true]).scheduler.ahead 6 :=
  takes_lt_ahead (by decide +kernel) ⟨⟨by decide +kernel, by decide +kernel⟩,
    show 5 ≠ 6 by decide, .inr (by decide +kernel),
    ⟨by decide +kernel, by decide +kernel⟩, trivial⟩

end WayDisplay.Server
