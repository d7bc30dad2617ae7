import WayDisplay.Server.Audio.RingFifo

/-!
The queue that the PCM ring implements.

The queue has no slots and no positions.  Its two sides still have a beginning
and an end of each call, because the other side can act in between; copying
single frames cannot be seen.
-/

namespace WayDisplay.Server.Audio

open WayDisplay.Foundation
open WayDisplay.Foundation.SharedRing

universe u

variable {Sample : Type u}

inductive QueueReader
  | idle
  | taking (count : Nat)
  | dropping (count : Nat)
  deriving DecidableEq, Repr

structure FrameQueue (Sample : Type u) where
  capacity : Nat
  channels : Nat
  frames : List (AudioFrame Sample)
  writing : Option (List (AudioFrame Sample))
  reading : QueueReader
  written : List (AudioFrame Sample)
  deriving DecidableEq

def FrameQueue.init (capacity channels : Nat) : FrameQueue Sample :=
  ⟨capacity, channels, [], none, .idle, []⟩

/-! ## Operations -/

def FrameQueue.admits (queue : FrameQueue Sample) (call : WriteCall Sample) :
    Bool :=
  call.frames != 0 && decide (call.frames ≤ queue.capacity) &&
    call.argumentsValid queue.channels &&
    decide (call.frames ≤ queue.capacity - queue.frames.length)

def FrameQueue.startWrite (mixer : Mixer Sample) (queue : FrameQueue Sample)
    (call : WriteCall Sample) : FrameQueue Sample :=
  if queue.writing.isNone && queue.admits call then
    { queue with writing := some (call.items mixer queue.channels) }
  else queue

def FrameQueue.publish (queue : FrameQueue Sample) : FrameQueue Sample :=
  match queue.writing with
  | none => queue
  | some items =>
      { queue with
        frames := queue.frames ++ items
        writing := none
        written := queue.written ++ items }

def FrameQueue.startTake (queue : FrameQueue Sample) (count : Nat) :
    FrameQueue Sample :=
  if queue.reading = .idle ∧ count ≠ 0 ∧ count ≤ queue.frames.length then
    { queue with reading := .taking count }
  else queue

def FrameQueue.front (queue : FrameQueue Sample) (count : Nat) :
    List (AudioFrame Sample) :=
  queue.frames.take count

def FrameQueue.removeFront (queue : FrameQueue Sample) (count : Nat) :
    FrameQueue Sample :=
  { queue with
    frames := queue.frames.drop count
    reading := .idle }

def FrameQueue.startDrop (queue : FrameQueue Sample) : FrameQueue Sample :=
  if queue.reading = .idle then
    { queue with reading := .dropping queue.frames.length }
  else queue

def FrameQueue.finishReading (queue : FrameQueue Sample) :
    FrameQueue Sample :=
  match queue.reading with
  | .idle => queue
  | .taking count => queue.removeFront count
  | .dropping count => queue.removeFront count

/-! ## The ring implements the queue -/

def queueWriting : Writer (AudioFrame Sample) →
    Option (List (AudioFrame Sample))
  | .idle => none
  | .storing items _ => some items

def queueReading (read : Nat) : Reader (AudioFrame Sample) → QueueReader
  | .idle => .idle
  | .fetching count _ => .taking count
  | .dropping seen => .dropping (seen - read)

def RingRun.queue (run : RingRun Sample) : FrameQueue Sample where
  capacity := run.audio.ring.capacity
  channels := run.audio.channels
  frames := run.queued
  writing := queueWriting run.audio.ring.writer
  reading := queueReading run.audio.ring.read run.audio.ring.reader
  written := run.written

def RingRun.queueStep (mixer : Mixer Sample) (run : RingRun Sample) :
    RingEvent Sample → FrameQueue Sample
  | .write call => run.queue.startWrite mixer call
  | .store => run.queue
  | .publish =>
      match run.audio.ring.writer with
      | .idle => run.queue
      | .storing items stored =>
          if stored = items.length then run.queue.publish else run.queue
  | .read frames => run.queue.startTake frames
  | .fetch => run.queue
  | .finishRead =>
      match run.audio.ring.reader with
      | .fetching count fetched =>
          if fetched.length = count then run.queue.finishReading else run.queue
      | _ => run.queue
  | .dropAll => run.queue.startDrop
  | .finishDrop =>
      match run.audio.ring.reader with
      | .dropping _ => run.queue.finishReading
      | _ => run.queue

variable {capacity : Nat} {run : RingRun Sample}

theorem RingSound.queued_length (sound : RingSound capacity run) :
    run.queued.length = run.audio.ring.write - run.audio.ring.read := by
  rw [sound.queued_eq, List.length_drop, sound.holds.length]

theorem RingSound.admits_iff (sound : RingSound capacity run)
    (narrow : capacity < 2 ^ 32) (call : WriteCall Sample) :
    run.queue.admits call = true ↔
      ¬(call.frames = 0 ∨ call.frames > run.audio.ring.capacity ∨
        call.argumentsValid run.audio.channels = false) ∧
      run.audio.hasNoRoom call.frames = false := by
  have bounded := sound.holds.bounded
  have small := sound.capacity ▸ narrow
  have length : run.queue.frames.length =
      run.audio.ring.write - run.audio.ring.read := sound.queued_length
  have inside : run.audio.ring.write - run.audio.ring.read ≤
      run.audio.ring.capacity := by omega
  rw [FrameQueue.admits, length, AudioRing.hasNoRoom,
    queuedDistance_eq sound.holds small, Nat.mod_eq_of_lt (by omega)]
  simp only [RingRun.queue, Bool.and_eq_true, bne_iff_ne, ne_eq,
    Bool.or_eq_false_iff, decide_eq_false_iff_not, Nat.not_lt,
    not_or, Bool.not_eq_false, gt_iff_lt]
  constructor
  · rintro ⟨⟨⟨some, fits⟩, valid⟩, room⟩
    exact ⟨⟨some, of_decide_eq_true fits, valid⟩, inside,
      of_decide_eq_true room⟩
  · rintro ⟨⟨some, fits, valid⟩, -, room⟩
    exact ⟨⟨⟨some, decide_eq_true fits⟩, valid⟩, decide_eq_true room⟩

theorem RingSound.write_queue (sound : RingSound capacity run)
    (narrow : capacity < 2 ^ 32) (mixer : Mixer Sample)
    (call : WriteCall Sample) :
    (run.write mixer call).queue = run.queue.startWrite mixer call := by
  have admits := sound.admits_iff narrow call
  unfold FrameQueue.startWrite RingRun.write
  cases phase : run.audio.ring.writer with
  | storing items stored =>
      exact (if_neg (by simp [RingRun.queue, queueWriting, phase])).symm
  | idle =>
      have free : run.queue.writing.isNone = true := by
        simp [RingRun.queue, queueWriting, phase]
      rw [free, Bool.true_and]
      dsimp only
      by_cases invalid : call.frames = 0 ∨
          call.frames > run.audio.ring.capacity ∨
          call.argumentsValid run.audio.channels = false
      · rw [if_pos invalid, if_neg fun admitted =>
          (admits.mp admitted).1 invalid]
      rw [if_neg invalid]
      cases full : run.audio.hasNoRoom call.frames with
      | true =>
          rw [if_pos rfl, if_neg fun admitted =>
            absurd ((admits.mp admitted).2.symm.trans full) (by decide)]
          rfl
      | false =>
          rw [if_neg Bool.false_ne_true, if_pos (admits.mpr ⟨invalid, full⟩)]
          rfl

theorem RingSound.read_queue (sound : RingSound capacity run)
    (narrow : capacity < 2 ^ 32) (count : Nat) :
    (run.read count).queue = run.queue.startTake count := by
  have distance := queuedDistance_eq sound.holds (sound.capacity ▸ narrow)
  have length : run.queue.frames.length =
      run.audio.ring.write - run.audio.ring.read := sound.queued_length
  unfold FrameQueue.startTake RingRun.read
  rw [distance, length]
  cases phase : run.audio.ring.reader with
  | idle =>
      have free : run.queue.reading = .idle := by
        simp [RingRun.queue, queueReading, phase]
      dsimp only
      by_cases none : count = 0
      · rw [if_pos none, if_neg fun takes => takes.2.1 none]
      rw [if_neg none]
      by_cases short : run.audio.ring.write - run.audio.ring.read < count
      · rw [if_pos short, if_neg fun takes => Nat.not_le_of_lt short takes.2.2]
      · rw [if_neg short, if_pos ⟨free, none, Nat.le_of_not_lt short⟩]
        rfl
  | fetching other fetched =>
      exact (if_neg (by simp [RingRun.queue, queueReading, phase])).symm
  | dropping seen =>
      exact (if_neg (by simp [RingRun.queue, queueReading, phase])).symm

theorem RingSound.advance_queue {capacity position : Nat}
    {run : RingRun Sample} (sound : RingSound capacity run)
    {consumed : Consumed Sample}
    (later : RingSound capacity
      ((run.setRing (run.audio.ring.advance position)).logConsumed consumed))
    (after : run.audio.ring.read ≤ position) :
    ((run.setRing (run.audio.ring.advance position)).logConsumed
        consumed).queue =
      run.queue.removeFront (position - run.audio.ring.read) := by
  have rest : ((run.setRing (run.audio.ring.advance position)).logConsumed
      consumed).queued =
        run.queued.drop (position - run.audio.ring.read) := by
    rw [later.queued_eq, sound.queued_eq, List.drop_drop,
      Nat.add_sub_cancel' after]
    rfl
  unfold RingRun.queue FrameQueue.removeFront
  rw [rest]
  rfl

theorem RingSound.step_queue (sound : RingSound capacity run)
    (narrow : capacity < 2 ^ 32) (mixer : Mixer Sample)
    (event : RingEvent Sample) :
    (run.step mixer event).queue = run.queueStep mixer event := by
  have law := sound.law narrow mixer
  cases event with
  | write call => exact sound.write_queue narrow mixer call
  | store =>
      have same := (law.quiet .store rfl).1
      dsimp only [RingRun.step, RingRun.queueStep] at same ⊢
      unfold RingRun.queue
      rw [same]
      unfold RingRun.store
      cases phase : run.audio.ring.writer with
      | idle => simp [phase]
      | storing items stored =>
          dsimp only
          split
          · simp [phase]
          · rfl
  | publish =>
      dsimp only [RingRun.step, RingRun.queueStep, RingRun.publish]
      cases phase : run.audio.ring.writer with
      | idle => rfl
      | storing items stored =>
          dsimp only
          by_cases complete : stored = items.length
          · rw [if_pos complete, if_pos complete]
            have published := (law.publishes items (complete ▸ phase)).2
            rw [RingRun.publish, phase] at published
            dsimp only at published
            rw [if_pos complete] at published
            have writing : run.queue.writing = some items := by
              simp [RingRun.queue, queueWriting, phase]
            rw [FrameQueue.publish, writing, RingRun.queue, published]
            rfl
          · rw [if_neg complete, if_neg complete]
  | read frames => exact sound.read_queue narrow frames
  | fetch =>
      have same := (law.quiet .fetch rfl).1
      dsimp only [RingRun.step, RingRun.queueStep] at same ⊢
      unfold RingRun.queue
      rw [same]
      unfold RingRun.fetch
      cases phase : run.audio.ring.reader with
      | idle => simp [phase]
      | dropping seen => simp [phase]
      | fetching count fetched =>
          dsimp only
          split
          · rfl
          · simp [phase]
  | finishRead =>
      have later := sound.finishRead
      dsimp only [RingRun.step, RingRun.queueStep]
      unfold RingRun.finishRead at later ⊢
      cases phase : run.audio.ring.reader with
      | idle => rfl
      | dropping seen => rfl
      | fetching count fetched =>
          rw [phase] at later
          dsimp only at later ⊢
          by_cases complete : fetched.length = count
          · rw [if_pos complete] at later ⊢
            rw [if_pos complete, sound.advance_queue later
              (Nat.le_add_right _ _), Nat.add_sub_cancel_left]
            simp [FrameQueue.finishReading, RingRun.queue, queueReading, phase]
          · rw [if_neg complete, if_neg complete]
  | dropAll =>
      dsimp only [RingRun.step, RingRun.queueStep]
      unfold RingRun.dropAll FrameQueue.startDrop
      cases phase : run.audio.ring.reader with
      | idle =>
          have free : run.queue.reading = .idle := by
            simp [RingRun.queue, queueReading, phase]
          have length : run.queue.frames.length =
              run.audio.ring.write - run.audio.ring.read := sound.queued_length
          rw [if_pos free, length]
          rfl
      | fetching count fetched =>
          rw [if_neg]
          simp [RingRun.queue, queueReading, phase]
      | dropping seen =>
          rw [if_neg]
          simp [RingRun.queue, queueReading, phase]
  | finishDrop =>
      have later := sound.finishDrop
      have within := sound.holds.reader
      dsimp only [RingRun.step, RingRun.queueStep]
      unfold RingRun.finishDrop at later ⊢
      cases phase : run.audio.ring.reader with
      | idle => rfl
      | fetching count fetched => rfl
      | dropping seen =>
          rw [phase] at later within
          dsimp only at later ⊢
          rw [sound.advance_queue later within.1]
          simp [FrameQueue.finishReading, RingRun.queue, queueReading, phase]

/-- Every step of the ring is a step of the queue or none at all, and a read
returns the front of the queue. -/
theorem ringRun_refines_queue (mixer : Mixer Sample) (capacity : UInt32)
    (channels : Nat) (events : List (RingEvent Sample)) :
    Along (RingRun.step mixer)
        (fun run event =>
          (run.step mixer event).queue = run.queueStep mixer event ∧
            ∀ count fetched, run.audio.ring.reader = .fetching count fetched →
              fetched.length = count → fetched = run.queue.front count)
        (.init mixer capacity.toNat channels) events ∧
      (RingRun.init mixer capacity.toNat channels).queue =
        .init capacity.toNat channels := by
  have narrow := capacity.toNat_lt
  refine ⟨along_of_invariant (fun _ event sound _ =>
    RingSound.step narrow mixer event sound) (fun run event sound _ =>
      ⟨sound.step_queue narrow mixer event, fun count fetched fetching done => ?_⟩)
    (ringSound_init mixer capacity.toNat channels)
    (along_of_forall (fun _ => True) fun _ _ => trivial), rfl⟩
  have front := (sound.law narrow mixer).reads count fetched fetching done
  exact (front ▸ List.take_left' done).symm

end WayDisplay.Server.Audio
