import Mathlib.Data.List.Chain
import WayDisplay.Common.AsyncTcpPolicy

/-!
Pacing of captured frames (`wd_frame_pacing.c`).

A frame is admitted when its deadline has come.  The next deadline is one
interval after the deadline, or after the frame itself if that was late by an
interval or more.  Both keep the deadlines at least an interval apart, and each
admission before the deadline of the next one.
-/

namespace WayDisplay.Server

open Common

def nsecPerSec : Nat := 1000000000

structure FramePacing where
  nextDeadlineNs : Nat
  lastAdmittedNs : Nat
  captureFps : Nat
  deriving DecidableEq, Repr

def addSaturating (time interval : Nat) : Nat :=
  if uint64Max - time < interval then uint64Max else time + interval

def frameIntervalNs (captureFps : Nat) : Nat :=
  let captureFps := if captureFps = 0 then 1 else captureFps
  (nsecPerSec + captureFps - 1) / captureFps

namespace FramePacing

def reset : FramePacing := ⟨0, 0, 0⟩

def start (now captureFps : Nat) : FramePacing where
  nextDeadlineNs := addSaturating now (frameIntervalNs captureFps)
  lastAdmittedNs := if now ≠ 0 then now else 1
  captureFps := captureFps

/-- Another rate moves the deadline to one interval after the last frame. -/
def withRate (state : FramePacing) (captureFps : Nat) : FramePacing :=
  if state.captureFps ≠ captureFps then
    { state with
      captureFps := captureFps
      nextDeadlineNs :=
        addSaturating state.lastAdmittedNs (frameIntervalNs captureFps) }
  else state

def admitAt (state : FramePacing) (now captureFps : Nat) : FramePacing :=
  let interval := frameIntervalNs captureFps
  { state with
    lastAdmittedNs := now
    nextDeadlineNs :=
      if now - state.nextDeadlineNs ≥ interval then addSaturating now interval
      else addSaturating state.nextDeadlineNs interval }

/-- `wd_frame_pacing_due`: the new state, and whether the frame is admitted. -/
def due (state : FramePacing) (now captureFps : Nat) : FramePacing × Bool :=
  let captureFps := if captureFps = 0 then 1 else captureFps
  if state.lastAdmittedNs = 0 then (start now captureFps, true)
  else
    let state := state.withRate captureFps
    if now < state.nextDeadlineNs then (state, false)
    else (state.admitAt now captureFps, true)

end FramePacing

/-! ## Admissions -/

/-- An admitted frame and the deadline it was held to; the first frame is held
to its own time. -/
structure Admission where
  time : Nat
  deadline : Nat
  deriving DecidableEq, Repr

def admissions (captureFps : Nat) : FramePacing → List Nat → List Admission
  | _, [] => []
  | state, now :: times =>
    match state.due now captureFps with
    | (next, false) => admissions captureFps next times
    | (next, true) =>
      ⟨now, if state.lastAdmittedNs = 0 then now
        else (state.withRate captureFps).nextDeadlineNs⟩ ::
          admissions captureFps next times

structure Follows (interval : Nat) (earlier later : Admission) : Prop where
  deadline : later.deadline =
    if earlier.deadline + interval ≤ earlier.time then earlier.time + interval
    else earlier.deadline + interval
  due : later.deadline ≤ later.time

namespace Follows

variable {interval : Nat} {earlier later : Admission}

theorem spaced (follows : Follows interval earlier later) :
    earlier.deadline + interval ≤ later.deadline := by
  have deadline := follows.deadline
  split_ifs at deadline <;> omega

theorem after (follows : Follows interval earlier later)
    (positive : 0 < interval) : earlier.time < later.deadline := by
  have deadline := follows.deadline
  split_ifs at deadline <;> omega

theorem reanchored (follows : Follows interval earlier later)
    (late : earlier.deadline + interval ≤ earlier.time) :
    earlier.time + interval ≤ later.time := by
  have deadline := follows.deadline
  have due := follows.due
  rw [if_pos late] at deadline
  omega

end Follows

section Chain

variable {interval : Nat} {log : List Admission} {first admission : Admission}

theorem deadline_of_chain (chain : (first :: log).IsChain (Follows interval))
    (n : Nat) (found : log[n]? = some admission) :
    first.deadline + (n + 1) * interval ≤ admission.deadline := by
  induction n generalizing first log with
  | zero =>
      cases log with
      | nil => cases found
      | cons second log =>
          obtain rfl := Option.some.inj found
          have spaced := (List.isChain_cons_cons.mp chain).1.spaced
          omega
  | succ n ih =>
      cases log with
      | nil => cases found
      | cons second log =>
          obtain ⟨follows, rest⟩ := List.isChain_cons_cons.mp chain
          have later := ih rest found
          have spaced := follows.spaced
          rw [Nat.succ_mul]
          omega

theorem due_of_chain (chain : (first :: log).IsChain (Follows interval))
    (n : Nat) (found : log[n]? = some admission) :
    admission.deadline ≤ admission.time := by
  induction n generalizing first log with
  | zero =>
      cases log with
      | nil => cases found
      | cons second log =>
          obtain rfl := Option.some.inj found
          exact (List.isChain_cons_cons.mp chain).1.due
  | succ n ih =>
      cases log with
      | nil => cases found
      | cons second log => exact ih (List.isChain_cons_cons.mp chain).2 found

/-- Of `n + 1` intervals after an admission, all but one have passed. -/
theorem span_of_chain (chain : (first :: log).IsChain (Follows interval))
    (positive : 0 < interval) (n : Nat) (found : log[n]? = some admission) :
    first.time + n * interval < admission.time := by
  have due := due_of_chain chain n found
  cases log with
  | nil => cases found
  | cons second log =>
      obtain ⟨follows, rest⟩ := List.isChain_cons_cons.mp chain
      have after := follows.after positive
      cases n with
      | zero =>
          obtain rfl := Option.some.inj found
          omega
      | succ n =>
          have later := deadline_of_chain rest n found
          omega

theorem isChain_drop (chain : log.IsChain (Follows interval)) (k : Nat)
    (found : log[k]? = some first) :
    (first :: log.drop (k + 1)).IsChain (Follows interval) := by
  have split : log.drop k = first :: log.drop (k + 1) := by
    obtain ⟨inside, rfl⟩ := List.getElem?_eq_some_iff.mp found
    exact List.drop_eq_getElem_cons inside
  exact split ▸ chain.drop k

end Chain

/-! ## Windows of a second -/

def window (log : List Admission) (start : Nat) : List Admission :=
  log.filter fun admission =>
    decide (start ≤ admission.time ∧ admission.time < start + nsecPerSec)

theorem window_of_chain {interval captureFps : Nat} {log : List Admission}
    (chain : log.IsChain (Follows interval)) (positive : 0 < interval)
    (second : nsecPerSec ≤ captureFps * interval) (start : Nat) :
    (window log start).length ≤ captureFps + 1 := by
  induction log with
  | nil => exact Nat.zero_le _
  | cons first log ih =>
      by_cases early : first.time < start
      · have skipped : window (first :: log) start = window log start :=
          List.filter_cons_of_neg (by simp; omega)
        rw [skipped]
        exact ih (List.isChain_cons.mp chain).2
      -- What comes `captureFps` admissions after this one is out of the second.
      · have gone : window (log.drop captureFps) start = [] := by
          refine List.filter_eq_nil_iff.mpr fun admission member => ?_
          obtain ⟨n, found⟩ := List.mem_iff_getElem?.mp member
          rw [List.getElem?_drop] at found
          have span := span_of_chain chain positive _ found
          rw [Nat.add_mul] at span
          simp only [decide_eq_true_eq]
          omega
        have split : window log start = window (log.take captureFps) start := by
          conv_lhs => rw [← List.take_append_drop captureFps log]
          rw [window, List.filter_append]
          exact (congrArg _ gone).trans (List.append_nil _)
        have few : (window log start).length ≤ captureFps := by
          rw [split]
          exact (List.length_filter_le _ _).trans (List.length_take_le _ _)
        have grows : (window (first :: log) start).length ≤
            (window log start).length + 1 := by
          rw [window, List.filter_cons]
          split_ifs
          · exact Nat.le_refl _
          · exact Nat.le_succ _
        omega

/-! ## Runs -/

structure Paced (captureFps : Nat) (admission : Admission)
    (state : FramePacing) : Prop where
  running : state.lastAdmittedNs ≠ 0
  rate : state.captureFps = captureFps
  deadline : state.nextDeadlineNs =
    if admission.deadline + frameIntervalNs captureFps ≤ admission.time then
      admission.time + frameIntervalNs captureFps
    else admission.deadline + frameIntervalNs captureFps

variable {captureFps : Nat}

theorem frameIntervalNs_eq (positive : 0 < captureFps) :
    frameIntervalNs captureFps =
      (nsecPerSec + captureFps - 1) / captureFps := by
  simp only [frameIntervalNs]
  rw [if_neg (by omega)]

theorem nsecPerSec_le (positive : 0 < captureFps) :
    nsecPerSec ≤ captureFps * frameIntervalNs captureFps := by
  rw [frameIntervalNs_eq positive]
  have rounded := Nat.lt_mul_div_succ (nsecPerSec + captureFps - 1) positive
  rw [Nat.mul_succ] at rounded
  omega

theorem frameIntervalNs_pos (positive : 0 < captureFps) :
    0 < frameIntervalNs captureFps := by
  have second := nsecPerSec_le positive
  rw [nsecPerSec] at second
  exact Nat.pos_of_ne_zero fun zero => by rw [zero] at second; omega

theorem frameIntervalNs_le (positive : 0 < captureFps) :
    frameIntervalNs captureFps ≤ nsecPerSec := by
  rw [frameIntervalNs_eq positive]
  refine Nat.div_le_of_le_mul ?_
  have wide := Nat.le_mul_of_pos_left (nsecPerSec - 1) positive
  rw [nsecPerSec, Nat.mul_sub_one] at *
  omega

theorem addSaturating_eq {time captureFps : Nat} (positive : 0 < captureFps)
    (early : time < 2 ^ 64 - nsecPerSec) :
    addSaturating time (frameIntervalNs captureFps) =
      time + frameIntervalNs captureFps := by
  have short := frameIntervalNs_le positive
  rw [addSaturating, uint64Max, if_neg (by omega)]

section Run

variable {captureFps : Nat} {state : FramePacing} {now : Nat}
  {admission : Admission}

theorem paced_start (positive : 0 < captureFps)
    (early : now < 2 ^ 64 - nsecPerSec) :
    Paced captureFps ⟨now, now⟩ (FramePacing.start now captureFps) := by
  have interval := frameIntervalNs_pos positive
  refine ⟨?_, rfl, ?_⟩
  · change (if now ≠ 0 then now else 1) ≠ 0
    split_ifs with zero
    · exact zero
    · decide
  · rw [if_neg (by dsimp only; omega)]
    exact addSaturating_eq positive early

theorem Paced.withRate (paced : Paced captureFps admission state) :
    state.withRate captureFps = state :=
  if_neg (not_not.mpr paced.rate)

theorem Paced.due (paced : Paced captureFps admission state)
    (positive : 0 < captureFps) :
    state.due now captureFps =
      if now < state.nextDeadlineNs then (state, false)
      else (state.admitAt now captureFps, true) := by
  have rate : (if captureFps = 0 then 1 else captureFps) = captureFps :=
    if_neg (by omega)
  simp only [FramePacing.due, rate, paced.running, if_false, paced.withRate]

theorem Paced.admitAt (paced : Paced captureFps admission state)
    (positive : 0 < captureFps) (early : now < 2 ^ 64 - nsecPerSec)
    (come : state.nextDeadlineNs ≤ now) :
    Follows (frameIntervalNs captureFps) admission
        ⟨now, state.nextDeadlineNs⟩ ∧
      Paced captureFps ⟨now, state.nextDeadlineNs⟩
        (state.admitAt now captureFps) := by
  have interval := frameIntervalNs_pos positive
  have later : 0 < state.nextDeadlineNs := by
    have deadline := paced.deadline
    split_ifs at deadline <;> omega
  refine ⟨⟨paced.deadline, come⟩, ?_, paced.rate, ?_⟩
  · change now ≠ 0
    omega
  · rw [FramePacing.admitAt, addSaturating_eq positive early,
      addSaturating_eq positive (by omega)]
    dsimp only
    split_ifs <;> omega

theorem Paced.isChain (paced : Paced captureFps admission state)
    (positive : 0 < captureFps) {times : List Nat}
    (early : ∀ now ∈ times, now < 2 ^ 64 - nsecPerSec) :
    (admission :: admissions captureFps state times).IsChain
      (Follows (frameIntervalNs captureFps)) := by
  induction times generalizing state admission with
  | nil => exact List.isChain_singleton _
  | cons now times ih =>
      have rest : ∀ now ∈ times, now < 2 ^ 64 - nsecPerSec :=
        fun now member => early now (List.mem_cons_of_mem _ member)
      by_cases soon : now < state.nextDeadlineNs
      · have held := (paced.due positive).trans (if_pos soon)
        simp only [admissions, held]
        exact ih paced rest
      · have admitted := (paced.due positive).trans (if_neg soon)
        obtain ⟨follows, next⟩ := paced.admitAt positive
          (early now List.mem_cons_self) (Nat.le_of_not_lt soon)
        simp only [admissions, admitted, paced.running, if_false,
          paced.withRate]
        exact List.isChain_cons_cons.mpr ⟨follows, ih next rest⟩

theorem admissions_reset (positive : 0 < captureFps) {times : List Nat}
    (early : ∀ now ∈ times, now < 2 ^ 64 - nsecPerSec) :
    (admissions captureFps .reset times).IsChain
        (Follows (frameIntervalNs captureFps)) ∧
      ∀ first, (admissions captureFps .reset times)[0]? = some first →
        first.deadline = first.time := by
  cases times with
  | nil =>
      refine ⟨List.isChain_nil, fun first found => ?_⟩
      cases found
  | cons now times =>
      have rate : (if captureFps = 0 then 1 else captureFps) = captureFps :=
        if_neg (by omega)
      have begun : admissions captureFps .reset (now :: times) =
          ⟨now, now⟩ ::
            admissions captureFps (.start now captureFps) times := by
        simp only [admissions, FramePacing.due, FramePacing.reset, rate,
          if_true]
      rw [begun]
      refine ⟨?_, fun first found => ?_⟩
      · exact (paced_start positive (early now List.mem_cons_self)).isChain
          positive fun later member =>
            early later (List.mem_cons_of_mem _ member)
      · obtain rfl := Option.some.inj found
        rfl

end Run

structure PacingLaw (captureFps : Nat) (log : List Admission) : Prop where
  fromFirst : ∀ n first admission, log[0]? = some first →
    log[n]? = some admission →
      first.time + n * frameIntervalNs captureFps ≤ admission.time
  /-- `n + 1` consecutive admissions span more than `n - 1` intervals. -/
  consecutive : ∀ k n earlier later, log[k]? = some earlier →
    log[k + n]? = some later →
      earlier.time + n * frameIntervalNs captureFps <
        later.time + frameIntervalNs captureFps
  inSecond : ∀ start, (window log start).length ≤ captureFps + 1
  late : ∀ k earlier later, log[k]? = some earlier →
    log[k + 1]? = some later →
      earlier.deadline + frameIntervalNs captureFps ≤ earlier.time →
        earlier.time + frameIntervalNs captureFps ≤ later.time

/-- The attempts need not even come in order. -/
theorem admissions_paced (captureFps : Nat) (positive : 0 < captureFps)
    (times : List Nat)
    (early : ∀ now ∈ times, now < 2 ^ 64 - nsecPerSec) :
    PacingLaw captureFps (admissions captureFps .reset times) := by
  obtain ⟨chain, onTime⟩ := admissions_reset positive early
  have interval := frameIntervalNs_pos positive
  generalize admissions captureFps .reset times = log at chain onTime ⊢
  constructor
  case fromFirst =>
    intro n first admission atFirst found
    have start := onTime first atFirst
    have linked := isChain_drop chain 0 atFirst
    cases n with
    | zero =>
        obtain rfl := Option.some.inj (atFirst.symm.trans found)
        omega
    | succ n =>
        have inside : (log.drop 1)[n]? = some admission := by
          rw [List.getElem?_drop, Nat.add_comm]
          exact found
        have later := deadline_of_chain linked n inside
        have due := due_of_chain linked n inside
        omega
  case consecutive =>
    intro k n earlier later atEarlier found
    cases n with
    | zero =>
        obtain rfl := Option.some.inj (atEarlier.symm.trans found)
        omega
    | succ n =>
        have inside : (log.drop (k + 1))[n]? = some later := by
          rw [List.getElem?_drop, Nat.add_assoc, Nat.add_comm 1]
          exact found
        have span := span_of_chain (isChain_drop chain k atEarlier) interval n
          inside
        rw [Nat.succ_mul]
        omega
  case inSecond =>
    exact window_of_chain chain interval (nsecPerSec_le positive)
  case late =>
    intro k earlier later atEarlier found wasLate
    have linked := isChain_drop chain k atEarlier
    have next : (log.drop (k + 1))[0]? = some later := by
      rw [List.getElem?_drop]
      exact found
    cases rest : log.drop (k + 1) with
    | nil =>
        rw [rest] at next
        cases next
    | cons second log =>
        rw [rest] at linked next
        obtain rfl := Option.some.inj next
        exact (List.isChain_cons_cons.mp linked).1.reanchored wasLate

/-- Sixty frames a second, with a frame refused, one a little late and one
after a pause. -/
theorem admissions_paced_sixty :
    PacingLaw 60 (admissions 60 .reset
      [0, 1, 16666667, 40000000, 50000001, 900000000, 901000000, 916666667]) :=
  admissions_paced 60 (by decide) _ (by decide)

end WayDisplay.Server
