import WayDisplay.Client.Reassembly.Repairs

/-!
The queue of repairs and its table (`queue_retransmit_tile_locked`,
`enqueue_retx_for_partial_timeout`, `clear_completed_repair_tracking_locked` and
`client_flush_retransmit_requests`).

Both producers take a tile without a queued generation for one that is not in
the queue.  A completion clears the generation and leaves the tile where it is.
-/

namespace WayDisplay.Client

open Foundation

structure RepairQueueState where
  repairs : RepairTracking
  received : Generations

inductive RepairQueueEvent where
  | summary (tileId generation : Nat)
  | partialTimeout (tileId generation : Nat)
  | complete (tileId generation : Nat)
  | flush (input : FlushInput)

namespace RepairQueueState

def initial : RepairQueueState := ⟨.initial, fun _ => 0⟩

def step (totalTiles : Nat) (s : RepairQueueState) :
    RepairQueueEvent → RepairQueueState
  | .summary tileId generation =>
      if tileId ≥ totalTiles ∨ generation = 0 then s
      else { s with repairs := s.repairs.enqueue tileId generation }
  | .partialTimeout tileId generation =>
      { s with
        repairs := RepairTracking.repairBaseTile s.received totalTiles generation
          s.repairs tileId }
  | .complete tileId generation =>
      let received := Function.update s.received tileId
        (max (s.received tileId) generation)
      ⟨RepairTracking.clearCompleted received s.repairs tileId, received⟩
  | .flush input =>
      { s with
        repairs := (s.repairs.flush s.received totalTiles input
          s.repairs.retxQueue.length []).1 }

def AnswersNone (s : RepairQueueState) : RepairQueueEvent → Prop
  | .complete tileId generation =>
      s.repairs.retxQueuedGeneration tileId = 0 ∨
        max (s.received tileId) generation <
          s.repairs.retxQueuedGeneration tileId
  | _ => True

instance (s : RepairQueueState) (event : RepairQueueEvent) :
    Decidable (s.AnswersNone event) :=
  match event with
  | .complete _ _ => inferInstanceAs (Decidable (_ ∨ _))
  | .summary _ _ | .partialTimeout _ _ | .flush _ => isTrue trivial

end RepairQueueState

namespace RepairTracking

variable {totalTiles : Nat} {repairs other : RepairTracking}

/-- A tile stands in the queue once, and only with a queued generation. -/
structure Single (repairs : RepairTracking) : Prop where
  nodup : repairs.retxQueue.Nodup
  waits : ∀ tileId ∈ repairs.retxQueue, repairs.retxQueuedGeneration tileId ≠ 0

theorem SameQueue.single (same : repairs.SameQueue other)
    (single : repairs.Single) : other.Single := by
  constructor
  · rw [same.1]
    exact single.nodup
  · rw [same.1, same.2]
    exact single.waits

theorem Single.enqueue (single : repairs.Single) {tileId generation : Nat}
    (positive : generation ≠ 0) :
    (repairs.enqueue tileId generation).Single := by
  constructor
  · unfold RepairTracking.enqueue
    dsimp only
    split
    · rename_i idle
      have absent : tileId ∉ repairs.retxQueue :=
        fun member => single.waits tileId member idle
      exact List.concat_eq_append ▸ single.nodup.concat absent
    · exact single.nodup
  · intro waiting member
    rw [enqueue_generation]
    split
    · omega
    · rename_i differs
      refine single.waits waiting ?_
      unfold RepairTracking.enqueue at member
      dsimp only at member
      split at member
      · exact (List.mem_append.mp member).resolve_right fun last =>
          differs (List.mem_singleton.mp last)
      · exact member

theorem Single.repairBaseTile (single : repairs.Single)
    (received : Generations) (generation tileId : Nat) :
    (RepairTracking.repairBaseTile received totalTiles generation repairs
      tileId).Single := by
  unfold RepairTracking.repairBaseTile
  split
  · exact (clearRetxInflight_sameQueue _ _).single single
  · rename_i missing
    exact (clearRetxInflight_sameQueue _ _).single (single.enqueue (by omega))

theorem Single.flushed {tileId : Nat} {rest : List Nat}
    {received : Generations} {input : FlushInput}
    {outcome : RepairTracking × Option (Nat × Nat)} (single : repairs.Single)
    (first : repairs.retxQueue = tileId :: rest)
    (flushed : Flushed received totalTiles input
      { repairs with retxQueue := rest } tileId outcome) :
    outcome.1.Single := by
  obtain ⟨nodup, waits⟩ := single
  rw [first] at nodup waits
  obtain ⟨apart, nodup⟩ := List.nodup_cons.mp nodup
  have later := fun other member => waits other (List.mem_cons_of_mem _ member)
  -- The generations of the tiles behind the first are as they were.
  have dequeued : ∀ other ∈ rest,
      Function.update repairs.retxQueuedGeneration tileId 0 other ≠ 0 := by
    intro other member
    have differs : other ≠ tileId := fun same => apart (same ▸ member)
    rw [Function.update_of_ne differs]
    exact later other member
  cases flushed with
  | passed => exact ⟨nodup, later⟩
  | dropped => exact ⟨nodup, dequeued⟩
  | putBack =>
      have again : (rest ++ [tileId]).Nodup :=
        List.concat_eq_append ▸ nodup.concat apart
      refine ⟨again, ?_⟩
      intro other member
      refine waits other ?_
      rcases List.mem_append.mp member with behind | last
      · exact List.mem_cons_of_mem _ behind
      · exact List.mem_singleton.mp last ▸ List.mem_cons_self
  | asked => exact ⟨nodup, dequeued⟩

theorem clearCompleted_sameQueue {received : Generations} {tileId : Nat}
    (waits : repairs.retxQueuedGeneration tileId = 0 ∨
      received tileId < repairs.retxQueuedGeneration tileId) :
    repairs.SameQueue (clearCompleted received repairs tileId) := by
  refine ⟨rfl, if_neg ?_⟩
  simp only [Bool.and_eq_true, decide_eq_true_eq]
  omega

theorem Single.length_le (single : repairs.Single)
    (listed : repairs.Listed totalTiles) :
    repairs.retxQueue.length ≤ totalTiles := by
  have inside : repairs.retxQueue ⊆ List.range totalTiles := fun tileId member =>
    List.mem_range.mpr (listed tileId (single.waits tileId member)).2
  simpa using (single.nodup.subperm inside).length_le

end RepairTracking

namespace RepairQueueState

variable {totalTiles : Nat} {s : RepairQueueState} {event : RepairQueueEvent}

theorem listed_step (listed : s.repairs.Listed totalTiles) :
    (s.step totalTiles event).repairs.Listed totalTiles := by
  cases event with
  | summary tileId generation =>
      rw [step]
      split
      · exact listed
      · rename_i inside
        exact listed.enqueue (by omega) generation
  | partialTimeout tileId generation => exact listed.repairBaseTile tileId
  | complete tileId generation => exact listed.clearCompleted _ tileId
  | flush input => exact listed.flush _ input _ []

theorem single_step (single : s.repairs.Single) (answers : s.AnswersNone event) :
    (s.step totalTiles event).repairs.Single := by
  cases event with
  | summary tileId generation =>
      rw [step]
      split
      · exact single
      · rename_i inside
        exact single.enqueue (by omega)
  | partialTimeout tileId generation =>
      exact single.repairBaseTile s.received generation tileId
  | complete tileId generation =>
      refine (RepairTracking.clearCompleted_sameQueue ?_).single single
      rw [Function.update_self]
      exact answers
  | flush input =>
      exact RepairTracking.flush_invariant s.received totalTiles input
        (P := fun repairs _ => repairs.Single)
        (fun _ _ _ _ _ first flushed single => single.flushed first flushed)
        _ single

def reached (totalTiles : Nat) (events : List RepairQueueEvent) :
    RepairTracking :=
  (runFrom (step totalTiles) initial events).repairs

/-- While completions answer no waiting repair, the queue holds each tile once
and no more tiles than there are. -/
theorem repairQueue_single (totalTiles : Nat) (events : List RepairQueueEvent)
    (answers : Along (step totalTiles) AnswersNone initial events) :
    (reached totalTiles events).retxQueue.Nodup ∧
      (∀ tileId, (reached totalTiles events).retxQueuedGeneration tileId ≠ 0 →
        tileId ∈ (reached totalTiles events).retxQueue) ∧
      (reached totalTiles events).retxQueue.length ≤ totalTiles := by
  have listed : (reached totalTiles events).Listed totalTiles :=
    @invariant_runFrom_of_step _ _ (step totalTiles)
      (fun s => s.repairs.Listed totalTiles) (fun _ _ => listed_step) initial
      RepairTracking.initial_listed events
  have single : (reached totalTiles events).Single :=
    @invariant_runFrom _ _ (step totalTiles) AnswersNone
      (fun s => s.repairs.Single) (fun _ _ => single_step) initial events
      ⟨List.nodup_nil, fun _ member => absurd member List.not_mem_nil⟩ answers
  exact ⟨single.nodup, fun tileId queued => (listed tileId queued).1,
    single.length_le listed⟩

/-- A repair is answered before it is asked for, and the tile goes missing
again. -/
theorem answeredRepair_queued_twice :
    (reached 1 [.summary 0 1, .complete 0 1, .summary 0 2]).retxQueue =
      [0, 0] :=
  rfl

/-- One completion is too old for the waiting repair, and one comes when the
repair has been asked for. -/
theorem repairQueue_single_twoTiles :
    (reached 2 [.summary 0 3, .partialTimeout 1 2, .complete 0 1, .summary 0 4,
        .flush ⟨1000, 50, 50⟩, .complete 0 4, .summary 0 5]).retxQueue.Nodup ∧
      (reached 2 [.summary 0 3, .partialTimeout 1 2, .complete 0 1,
        .summary 0 4, .flush ⟨1000, 50, 50⟩, .complete 0 4,
        .summary 0 5]).retxQueue = [0] :=
  ⟨(repairQueue_single 2 _ (by decide)).1, by decide⟩

end RepairQueueState

end WayDisplay.Client
