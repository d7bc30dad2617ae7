import WayDisplay.Client.Reassembly.Flush
import WayDisplay.Client.Repairs.Queueing

/-!
The content epoch that a request for repair is stamped with.

The entries of a request were queued earlier than the epoch is read, and an epoch
that is opened in between leaves the queue as it is.  The stamp is right in every
run in which an epoch is opened only while nothing waits to be requested.
-/

namespace WayDisplay.Client

open Common Foundation

namespace RepairTracking

def Known (known : Nat × Nat → Prop) (repairs : RepairTracking) : Prop :=
  ∀ tileId ∈ repairs.retxQueue, repairs.retxQueuedGeneration tileId ≠ 0 →
    known (tileId, repairs.retxQueuedGeneration tileId)

section

variable {known : Nat × Nat → Prop} {repairs : RepairTracking}

theorem Known.mono {more : Nat × Nat → Prop} (recorded : repairs.Known known)
    (grows : ∀ entry, known entry → more entry) : repairs.Known more :=
  fun tileId listed waiting => grows _ (recorded tileId listed waiting)

theorem Known.enqueue (recorded : repairs.Known known) {tileId generation : Nat}
    (here : known (tileId, generation)) :
    (repairs.enqueue tileId generation).Known known := by
  intro other listed waiting
  dsimp only [RepairTracking.enqueue] at listed waiting ⊢
  rw [Function.update_apply] at waiting ⊢
  by_cases own : other = tileId
  · subst own
    rw [if_pos rfl]
    by_cases free : repairs.retxQueuedGeneration other = 0
    · rwa [free, Nat.zero_max]
    · rw [if_neg free] at listed
      rcases Nat.le_total (repairs.retxQueuedGeneration other) generation with
        raised | kept
      · rwa [Nat.max_eq_right raised]
      · rw [Nat.max_eq_left kept]
        exact recorded other listed free
  · rw [if_neg own] at waiting ⊢
    refine recorded other ?_ waiting
    split_ifs at listed
    · rcases List.mem_append.mp listed with before | added
      · exact before
      · exact absurd (List.mem_singleton.mp added) own
    · exact listed

theorem Known.lower {repairs' : RepairTracking} (recorded : repairs.Known known)
    (queue : ∀ tileId ∈ repairs'.retxQueue, tileId ∈ repairs.retxQueue)
    (generations : ∀ tileId, repairs'.retxQueuedGeneration tileId = 0 ∨
      repairs'.retxQueuedGeneration tileId =
        repairs.retxQueuedGeneration tileId) :
    repairs'.Known known := by
  intro tileId listed waiting
  rcases generations tileId with zero | same
  · exact absurd zero waiting
  · rw [same] at waiting ⊢
    exact recorded tileId (queue tileId listed) waiting

theorem dequeued_generation (repairs : RepairTracking) (tileId other : Nat) :
    (repairs.dequeued tileId).retxQueuedGeneration other = 0 ∨
      (repairs.dequeued tileId).retxQueuedGeneration other =
        repairs.retxQueuedGeneration other := by
  dsimp only [dequeued]
  rw [Function.update_apply]
  split_ifs
  · exact .inl rfl
  · exact .inr rfl

theorem clearCompleted_generation (received : Generations)
    (repairs : RepairTracking) (tileId other : Nat) :
    (clearCompleted received repairs tileId).retxQueuedGeneration other = 0 ∨
      (clearCompleted received repairs tileId).retxQueuedGeneration other =
        repairs.retxQueuedGeneration other := by
  dsimp only [clearCompleted]
  split_ifs
  · rw [Function.update_apply]
    split_ifs
    · exact .inl rfl
    · exact .inr rfl
  · exact .inr rfl

theorem Known.flush (recorded : repairs.Known known) (received : Generations)
    (totalTiles : Nat) (input : FlushInput) (pending : Nat) :
    (repairs.flush received totalTiles input pending []).1.Known known ∧
      ∀ entry ∈ (repairs.flush received totalTiles input pending []).2,
        known entry := by
  apply flush_invariant received totalTiles input
    (P := fun repairs entries => repairs.Known known ∧
      ∀ entry ∈ entries, known entry)
  case initially => exact ⟨recorded, nofun⟩
  case tileStep =>
    rintro repairs entries tileId rest outcome first flushed ⟨recorded, taken⟩
    have shorter : RepairTracking.Known known
        { repairs with retxQueue := rest } :=
      recorded.lower (fun other listed => first ▸ .tail _ listed)
        fun _ => .inr rfl
    have head : tileId ∈ repairs.retxQueue := first ▸ .head _
    cases flushed with
    | passed outside => exact ⟨shorter, by rwa [Option.toList, List.append_nil]⟩
    | dropped answered =>
        exact ⟨shorter.lower (fun _ listed => listed)
          (dequeued_generation _ tileId), by
            rwa [Option.toList, List.append_nil]⟩
    | putBack waiting waits =>
        refine ⟨?_, by rwa [Option.toList, List.append_nil]⟩
        intro other listed queued
        rcases List.mem_append.mp listed with before | added
        · exact shorter other before queued
        · rw [List.mem_singleton.mp added] at queued ⊢
          exact recorded tileId head queued
    | asked due =>
        refine ⟨shorter.lower (fun _ listed => listed)
          (dequeued_generation _ tileId), ?_⟩
        intro entry member
        rcases List.mem_append.mp member with before | added
        · exact taken entry before
        · rw [Option.toList, List.mem_singleton] at added
          rw [added]
          exact recorded tileId head due.2.1

end

end RepairTracking

/-! ## Epochs -/

def ReaderPhase.collected : ReaderPhase → List (Nat × Nat)
  | .sending entries => entries
  | _ => []

namespace RepairState

def Stamped (trace : RepairTrace) : Prop :=
  ∀ request ∈ trace.sent, ∀ entry ∈ request.entries,
    ⟨entry.1, entry.2, request.contentEpoch⟩ ∈ trace.queued

instance (trace : RepairTrace) : Decidable (Stamped trace) :=
  inferInstanceAs (Decidable (∀ _ ∈ _, _))

def NothingWaits (s : RepairState) : Prop :=
  (∀ tileId ∈ s.repairs.retxQueue, s.repairs.retxQueuedGeneration tileId = 0) ∧
    s.reader.collected = []

instance (s : RepairState) : Decidable s.NothingWaits :=
  inferInstanceAs (Decidable (_ ∧ _))

def OpensEpoch (s : RepairState) : RepairEvent → Prop
  | .acceptEpoch epoch owner => s.remote.judge epoch owner = .advanced
  | .offerSummary epoch entries =>
      (∀ entry ∈ entries, entry.tileId < s.totalTiles) ∧
        s.remote.judge epoch .tiles = .advanced
  | .resetEpoch epoch => epoch ≠ 0 ∧ epoch ≠ s.remote.epoch
  | _ => False

instance (s : RepairState) : DecidablePred s.OpensEpoch
  | .acceptEpoch _ _ => inferInstanceAs (Decidable (_ = _))
  | .offerSummary _ _ => inferInstanceAs (Decidable (_ ∧ _))
  | .resetEpoch _ => inferInstanceAs (Decidable (_ ∧ _))
  | .tick _ | .noteSummary _ | .promote _ | .collect _ | .send _
  | .completeTiles _ _ | .partialTimeout _ _ | .markInflight _ _
  | .clearInflight _ _ | .applyConfig _ | .connect _ _ =>
      inferInstanceAs (Decidable False)

/-- An epoch is opened only while nothing waits to be requested. -/
def EpochSettled (s : RepairState) (event : RepairEvent) : Prop :=
  s.OpensEpoch event → s.NothingWaits

instance (s : RepairState) (event : RepairEvent) :
    Decidable (s.EpochSettled event) :=
  inferInstanceAs (Decidable (_ → _))

def QueuedNow (s : RepairState) (entry : Nat × Nat) : Prop :=
  ⟨entry.1, entry.2, s.remote.epoch⟩ ∈ s.trace.queued

structure StampSound (s : RepairState) : Prop where
  waiting : s.repairs.Known s.QueuedNow
  collected : ∀ entry ∈ s.reader.collected, s.QueuedNow entry
  stamped : Stamped s.trace

section

variable {s t : RepairState}

theorem StampSound.kept (sound : s.StampSound)
    (epoch : t.remote.epoch = s.remote.epoch)
    (repairs : t.repairs = s.repairs)
    (collected : t.reader.collected = s.reader.collected)
    (queued : t.trace.queued = s.trace.queued)
    (sent : t.trace.sent = s.trace.sent) : t.StampSound := by
  have same : t.QueuedNow = s.QueuedNow := by
    funext entry
    unfold QueuedNow
    rw [epoch, queued]
  refine ⟨?_, ?_, ?_⟩
  · rw [repairs, same]
    exact sound.waiting
  · rw [collected, same]
    exact sound.collected
  · unfold Stamped
    rw [sent, queued]
    exact sound.stamped

/-- Where nothing waits, no repair is stamped with an epoch that is opened
now. -/
theorem StampSound.opened (sound : s.StampSound)
    (idle : ∀ tileId ∈ t.repairs.retxQueue,
      t.repairs.retxQueuedGeneration tileId = 0)
    (collected : t.reader.collected = [])
    (queued : t.trace.queued = s.trace.queued)
    (sent : t.trace.sent = s.trace.sent) : t.StampSound := by
  refine ⟨?_, ?_, ?_⟩
  · intro tileId listed waiting
    exact absurd (idle tileId listed) waiting
  · rw [collected]
    nofun
  · unfold Stamped
    rw [sent, queued]
    exact sound.stamped

theorem StampSound.queueing (sound : s.StampSound) (queues : s.Queueing t) :
    t.StampSound := by
  induction queues with
  | refl => exact sound
  | timers earlier pending notBeforeNs ih => exact ih.kept rfl rfl rfl rfl rfl
  | inflight earlier generations times ih =>
      exact ⟨ih.waiting, ih.collected, ih.stamped⟩
  | @queue t earlier tileId generation ih =>
      have grows : ∀ entry, t.QueuedNow entry → RepairState.QueuedNow
          { t with
            repairs := t.repairs.enqueue tileId generation
            trace := t.noteQueued tileId generation } entry :=
        fun entry before => List.mem_append_left _ before
      refine ⟨?_, ?_, ?_⟩
      · apply (ih.waiting.mono grows).enqueue
        exact List.mem_append_right _ (List.mem_singleton_self _)
      · intro entry member
        exact grows entry (ih.collected entry member)
      · intro request member entry inside
        exact List.mem_append_left _ (ih.stamped request member entry inside)

theorem StampSound.collectRequests (sound : s.StampSound) (link : LinkTimers) :
    (s.collectRequests link).StampSound := by
  obtain ⟨waiting, taken⟩ := sound.waiting.flush s.received s.totalTiles
    (s.flushInput link) s.repairs.retxQueue.length
  refine ⟨waiting, ?_, sound.stamped⟩
  unfold RepairState.collectRequests
  dsimp only
  split_ifs
  · nofun
  · exact taken

theorem StampSound.sendRequest (sound : s.StampSound)
    {entries : List (Nat × Nat)} (sending : s.reader = .sending entries)
    (queued : Bool) : (s.sendRequest entries queued).StampSound := by
  have collected := sound.collected
  rw [sending] at collected
  cases queued with
  | false => exact ⟨sound.waiting, nofun, sound.stamped⟩
  | true =>
      refine ⟨sound.waiting, nofun, ?_⟩
      intro request member entry inside
      rcases List.mem_append.mp member with before | added
      · exact sound.stamped request before entry inside
      · rw [List.mem_singleton.mp added] at inside ⊢
        exact collected entry inside

theorem StampSound.completeTiles (sound : s.StampSound) (tileIds : List Nat)
    (generation : Nat) : (s.completeTiles tileIds generation).StampSound := by
  refine ⟨?_, sound.collected, sound.stamped⟩
  have waiting := sound.waiting
  change RepairTracking.Known s.QueuedNow (List.foldl _ s.repairs tileIds)
  generalize s.repairs = repairs at waiting ⊢
  generalize ClientState.markCompletedBaseGenerations s.received tileIds
    generation = received
  induction tileIds generalizing repairs with
  | nil => exact waiting
  | cons tileId rest ih =>
      exact ih _ (waiting.lower (fun _ listed => listed)
        (RepairTracking.clearCompleted_generation received repairs tileId))

theorem StampSound.acceptContentEpoch (sound : s.StampSound) {epoch : Nat}
    {owner : ContentOwner}
    (settled : s.remote.judge epoch owner = .advanced → s.NothingWaits) :
    (s.acceptContentEpoch epoch owner).StampSound := by
  unfold RepairState.acceptContentEpoch
  split
  next advanced =>
      obtain ⟨idle, collected⟩ := settled advanced
      exact sound.opened idle collected rfl rfl
  next => exact sound

theorem StampSound.resetContentEpoch (sound : s.StampSound) {epoch : Nat}
    (settled : epoch ≠ 0 ∧ epoch ≠ s.remote.epoch → s.NothingWaits)
    (owner : ContentOwner) :
    (s.resetContentEpoch epoch owner).StampSound := by
  unfold RepairState.resetContentEpoch
  split_ifs with zero
  · exact sound
  · by_cases same : epoch = s.remote.epoch
    · exact sound.kept same rfl rfl rfl rfl
    · obtain ⟨idle, collected⟩ := settled ⟨zero, same⟩
      exact sound.opened idle collected rfl rfl

theorem StampSound.withReader (sound : s.StampSound) {reader : ReaderPhase}
    (collected : reader.collected = []) :
    (s.withReader reader).StampSound := by
  refine ⟨sound.waiting, ?_, sound.stamped⟩
  change ∀ entry ∈ reader.collected, _
  rw [collected]
  nofun

theorem StampSound.offerSummary (sound : s.StampSound) {epoch : Nat}
    {entries : List SummaryEntry}
    (settled : s.EpochSettled (.offerSummary epoch entries)) :
    (s.offerSummary epoch entries).StampSound := by
  unfold RepairState.offerSummary
  split_ifs with outside
  · exact sound
  · split
    · exact sound
    · apply StampSound.withReader _ rfl
      apply sound.acceptContentEpoch
      intro advanced
      refine settled ⟨?_, advanced⟩
      intro entry member
      by_contra beyond
      exact outside (List.any_eq_true.mpr
        ⟨entry, member, decide_eq_true (Nat.not_lt.mp beyond)⟩)

theorem StampSound.step (sound : s.StampSound) (event : RepairEvent)
    (settled : s.EpochSettled event) : (s.step event).StampSound := by
  have acts := s.step_acts event
  generalize s.step event = t at acts ⊢
  cases acts with
  | ignored => exact sound
  | tick elapsed => exact sound.kept rfl rfl rfl rfl rfl
  | offerSummary epoch entries idle => exact sound.offerSummary settled
  | @noteSummary link totalTiles read entries noting =>
      exact (sound.queueing
        (queueing_noteSummary s link read.ns totalTiles entries)).withReader rfl
  | promote link idle => exact sound.queueing (queueing_promote s link)
  | collect link idle => exact sound.collectRequests link
  | send queued sending => exact sound.sendRequest sending queued
  | completeTiles tileIds generation idle =>
      exact sound.completeTiles tileIds generation
  | partialTimeout tileId generation idle =>
      exact sound.queueing (queueing_partialTimeout s tileId generation)
  | markInflight tileId generation =>
      exact sound.queueing (Queueing.refl.inflight _ _)
  | clearInflight tileId generation =>
      exact sound.queueing (Queueing.refl.clearInflight tileId generation)
  | acceptEpoch epoch owner => exact sound.acceptContentEpoch settled
  | applyConfig totalTiles =>
      exact ⟨nofun, sound.collected, sound.stamped⟩
  | resetEpoch epoch => exact sound.resetContentEpoch settled .tiles
  | connect totalTiles contentEpoch =>
      unfold RepairState.resetContentEpoch
      split_ifs
      · exact sound.opened nofun rfl rfl rfl
      · exact sound.opened nofun rfl rfl rfl

/-- Every entry of a sent request was queued in the epoch of its header, in every
run in which epochs are opened only while nothing waits. -/
theorem sent_stamped (totalTiles contentEpoch : Nat) (clock : MonotonicClock)
    {events : List RepairEvent}
    (settled : Along RepairState.step EpochSettled
      (init totalTiles contentEpoch clock) events) :
    Stamped (repairRun (init totalTiles contentEpoch clock) events).trace := by
  have initial : (init totalTiles contentEpoch clock).StampSound :=
    ⟨nofun, nofun, nofun⟩
  exact (invariant_runFrom (fun _ event sound settled =>
    sound.step event settled) initial settled).stamped

end

theorem sent_stamped_oneAfterTheOther :
    Along RepairState.step EpochSettled (init 8 1 oneSecond)
      [.partialTimeout 0 5, .collect shortTimers, .send true,
        .acceptEpoch 2 .tiles, .tick 300000000, .partialTimeout 0 6,
        .collect shortTimers, .send true] ∧
      Stamped (repairRun (init 8 1 oneSecond)
        [.partialTimeout 0 5, .collect shortTimers, .send true,
          .acceptEpoch 2 .tiles, .tick 300000000, .partialTimeout 0 6,
          .collect shortTimers, .send true]).trace ∧
      (repairRun (init 8 1 oneSecond)
        [.partialTimeout 0 5, .collect shortTimers, .send true,
          .acceptEpoch 2 .tiles, .tick 300000000, .partialTimeout 0 6,
          .collect shortTimers, .send true]).trace.sent =
        [⟨1, [(0, 5)]⟩, ⟨2, [(0, 6)]⟩] :=
  ⟨by decide +kernel, sent_stamped 8 1 oneSecond (by decide +kernel),
    by decide +kernel⟩

/-- A repair that a summary of epoch 1 asked for is sent as one of epoch 2: after
a summary of epoch 2, or when a configuration sets the epoch between the two
halves of the flush. -/
theorem repair_stamped_with_later_epoch :
    (¬Stamped (repairRun (init 8 1 oneSecond)
        [.offerSummary 1 [⟨0, 5⟩], .noteSummary shortTimers, .tick 200000000,
          .offerSummary 1 [⟨0, 5⟩], .noteSummary shortTimers,
          .offerSummary 2 [⟨1, 3⟩], .noteSummary shortTimers,
          .collect shortTimers, .send true]).trace) ∧
      ¬Stamped (repairRun (init 8 1 oneSecond)
        [.applyConfig 8, .partialTimeout 0 5, .collect shortTimers,
          .resetEpoch 2, .send true]).trace := by
  decide +kernel

end RepairState

end WayDisplay.Client
