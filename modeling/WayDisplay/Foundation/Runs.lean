import Mathlib.Algebra.Order.Ring.Nat
import Mathlib.Data.List.Basic

/-!
Finite runs of a transition function driven by a list of events.

A system of several threads is a step function on the shared state and an event
type with one constructor per atomic section.  An interleaving is a list of
events.  `Along` states a condition on every event in the state in which it is
taken, so that assumptions on the environment are assumptions on events.
-/

namespace WayDisplay.Foundation

universe u v

variable {State : Type u} {Event : Type v}

/-- The state reached by a list of events, taken from left to right. -/
def runFrom (step : State → Event → State) (s : State) (events : List Event) :
    State :=
  events.foldl step s

@[simp]
theorem runFrom_nil (step : State → Event → State) (s : State) :
    runFrom step s [] = s :=
  rfl

@[simp]
theorem runFrom_cons (step : State → Event → State) (s : State)
    (event : Event) (rest : List Event) :
    runFrom step s (event :: rest) = runFrom step (step s event) rest :=
  rfl

theorem runFrom_append (step : State → Event → State) (s : State)
    (first second : List Event) :
    runFrom step s (first ++ second) =
      runFrom step (runFrom step s first) second :=
  List.foldl_append

/-- Every event is permitted in the state in which it is taken. -/
def Along (step : State → Event → State) (permits : State → Event → Prop) :
    State → List Event → Prop
  | _, [] => True
  | s, event :: rest =>
      permits s event ∧ Along step permits (step s event) rest

variable {step : State → Event → State}

/--
Invariant rule: a property that each permitted event preserves holds at the end
of every permitted run, hence in every state such a run reaches.
-/
theorem invariant_runFrom {permits : State → Event → Prop} {inv : State → Prop}
    (preserved : ∀ s event, inv s → permits s event → inv (step s event))
    {s : State} {events : List Event} (initial : inv s)
    (along : Along step permits s events) :
    inv (runFrom step s events) := by
  induction events generalizing s with
  | nil => exact initial
  | cons event rest ih =>
      obtain ⟨permitted, later⟩ := along
      exact ih (preserved s event initial permitted) later

theorem along_and_of_imp {first second : State → Event → Prop} {given : Prop}
    {s : State} {events : List Event} (along : Along step first s events)
    (also : given → Along step second s events) :
    Along step (fun s event => first s event ∧ (given → second s event)) s
      events := by
  induction events generalizing s with
  | nil => trivial
  | cons event rest ih =>
      exact ⟨⟨along.1, fun holds => (also holds).1⟩,
        ih along.2 fun holds => (also holds).2⟩

/-- Invariant rule for a property that every event preserves. -/
theorem invariant_runFrom_of_step {inv : State → Prop}
    (preserved : ∀ s event, inv s → inv (step s event)) {s : State}
    (initial : inv s) (events : List Event) :
    inv (runFrom step s events) := by
  induction events generalizing s with
  | nil => exact initial
  | cons event rest ih => exact ih (preserved s event initial)

/--
Progress rule: a preorder that each permitted event follows in the states of an
invariant relates the two ends of every permitted run.
-/
theorem related_runFrom {permits : State → Event → Prop} {inv : State → Prop}
    (related : State → State → Prop) (refl : ∀ s, related s s)
    (trans : ∀ s t u, related s t → related t u → related s u)
    (preserved : ∀ s event, inv s → permits s event → inv (step s event))
    (follows : ∀ s event, inv s → permits s event → related s (step s event))
    {s : State} {events : List Event} (initial : inv s)
    (along : Along step permits s events) :
    related s (runFrom step s events) := by
  induction events generalizing s with
  | nil => exact refl s
  | cons event rest ih =>
      obtain ⟨permitted, later⟩ := along
      exact trans _ _ _ (follows s event initial permitted)
        (ih (preserved s event initial permitted) later)

/-- A condition on the events alone holds along any run of such events. -/
theorem along_of_forall (allowed : Event → Prop) {s : State}
    {events : List Event} (every : ∀ event ∈ events, allowed event) :
    Along step (fun _ event => allowed event) s events := by
  induction events generalizing s with
  | nil => trivial
  | cons event rest ih =>
      exact ⟨every event List.mem_cons_self,
        ih fun other member => every other (List.mem_cons_of_mem _ member)⟩

/-- Step rule: what each permitted event does in a state of the invariant. -/
theorem along_of_invariant {permits does : State → Event → Prop}
    {inv : State → Prop}
    (preserved : ∀ s event, inv s → permits s event → inv (step s event))
    (effect : ∀ s event, inv s → permits s event → does s event) {s : State}
    {events : List Event} (initial : inv s)
    (along : Along step permits s events) : Along step does s events := by
  induction events generalizing s with
  | nil => trivial
  | cons event rest ih =>
      obtain ⟨permitted, later⟩ := along
      exact ⟨effect s event initial permitted,
        ih (preserved s event initial permitted) later⟩

theorem along_append {permits : State → Event → Prop} {s : State}
    {first second : List Event} :
    Along step permits s (first ++ second) ↔
      Along step permits s first ∧
        Along step permits (runFrom step s first) second := by
  induction first generalizing s with
  | nil => simp [Along]
  | cons event rest ih => simp only [List.cons_append, Along, ih, runFrom_cons,
      and_assoc]

/--
Ranking rule: while a run stays inside, every counted event lowers a rank that
no event raises, so the rank bounds the counted events.
-/
theorem countP_add_rank_le {step : State → Event → State}
    {inside : State → Prop} (counted : Event → Bool) (rank : State → Nat)
    (falls : ∀ s event, inside s → inside (step s event) →
      rank (step s event) + (if counted event then 1 else 0) ≤ rank s)
    {s : State} {events : List Event} (enters : inside s)
    (stays : Along step (fun s event => inside (step s event)) s events) :
    events.countP counted + rank (runFrom step s events) ≤ rank s := by
  induction events generalizing s with
  | nil => simp
  | cons event rest ih =>
      obtain ⟨stayed, later⟩ := stays
      have first := falls s event enters stayed
      have others := ih stayed later
      rw [List.countP_cons, runFrom_cons]
      omega

/-- A condition that can be tested can be tested along a run. -/
instance decidableAlong (step : State → Event → State)
    (permits : State → Event → Prop)
    [∀ s event, Decidable (permits s event)] :
    ∀ s events, Decidable (Along step permits s events)
  | _, [] => isTrue trivial
  | s, event :: rest =>
      have := decidableAlong step permits (step s event) rest
      inferInstanceAs (Decidable (permits s event ∧
        Along step permits (step s event) rest))

end WayDisplay.Foundation
