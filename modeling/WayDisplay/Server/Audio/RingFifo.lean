import WayDisplay.Server.Audio.Ring

/-!
The PCM ring is a bounded queue of frames with their timestamps.

In every interleaving of the producer and the consumer, what was written is
what was read or dropped, in order, followed by what the slots still hold.
-/

namespace WayDisplay.Server.Audio

open WayDisplay.Foundation
open WayDisplay.Foundation.SharedRing

universe u

variable {Sample : Type u}

/-! ## Timestamps -/

def Consecutive (frames : List (AudioFrame Sample)) : Prop :=
  (frames.map AudioFrame.pts).IsChain fun pts next => next = pts + 1

theorem scanFrom_later (frame : Nat) (scan : PtsScan) (rest : List UInt64) :
    (scanFrom (frame + 1) scan rest).first = scan.first ∧
      ((scanFrom (frame + 1) scan rest).contiguous = true ↔
        scan.contiguous = true ∧
          (scan.previous :: rest).IsChain fun pts next => next = pts + 1) := by
  induction rest generalizing frame scan with
  | nil => simp [scanFrom]
  | cons pts rest ih =>
      obtain ⟨first, contiguous⟩ := ih (frame + 1) (scan.step (frame + 1) pts)
      refine ⟨first, ?_⟩
      rw [scanFrom, contiguous, List.isChain_cons_cons]
      by_cases next : pts = scan.previous + 1
      · simp [PtsScan.step, next]
      · simp [PtsScan.step, next]

theorem scanPts_cons (frame : AudioFrame Sample)
    (rest : List (AudioFrame Sample)) :
    (scanPts (frame :: rest)).first = frame.pts ∧
      ((scanPts (frame :: rest)).contiguous = true ↔
        Consecutive (frame :: rest)) := by
  have later := scanFrom_later 0 (PtsScan.step ⟨true, 0, 0⟩ 0 frame.pts)
    (rest.map AudioFrame.pts)
  refine ⟨later.1, later.2.trans ?_⟩
  simp [PtsScan.step, Consecutive]

theorem Consecutive.pts_eq {frames : List (AudioFrame Sample)}
    (consecutive : Consecutive frames) {index : Nat}
    {first frame : AudioFrame Sample} (head : frames[0]? = some first)
    (found : frames[index]? = some frame) :
    frame.pts = first.pts + UInt64.ofNat index := by
  induction index generalizing frame with
  | zero =>
      obtain rfl := Option.some.inj (head.symm.trans found)
      simp
  | succ index ih =>
      obtain ⟨bound, rfl⟩ := List.getElem?_eq_some_iff.mp found
      have before : frames[index]? = some frames[index] :=
        List.getElem?_eq_getElem (by omega)
      have step := List.isChain_iff_getElem.mp consecutive index
        (by rw [List.length_map]; exact bound)
      rw [List.getElem_map, List.getElem_map, ih before] at step
      rw [step, UInt64.ofNat_add, UInt64.add_assoc]
      rfl

/-! ## The invariant of a run -/

def Consumed.Reported : Consumed Sample → Prop
  | .read frames firstPts continuity =>
      (∃ first rest, frames = first :: rest ∧ firstPts = first.pts) ∧
        (continuity = true ↔ Consecutive frames)
  | .dropped _ => True

structure RingSound (capacity : Nat) (run : RingRun Sample) : Prop where
  holds : Holds run.audio.ring run.written
  capacity : run.audio.ring.capacity = capacity
  consumed : run.consumed.flatMap Consumed.frames =
    run.written.take run.audio.ring.read
  observed : ∀ seen, run.audio.ring.reader = .dropping seen →
    run.observed = (run.written.drop run.audio.ring.read).take
      (seen - run.audio.ring.read)
  asked : ∀ count fetched, run.audio.ring.reader = .fetching count fetched →
    0 < count
  reported : ∀ consumed ∈ run.consumed, consumed.Reported

theorem ringSound_init (mixer : Mixer Sample) (capacity channels : Nat) :
    RingSound capacity (.init mixer capacity channels) where
  holds := holds_empty _ _
  capacity := rfl
  consumed := rfl
  observed _ dropping := nomatch dropping
  asked _ _ fetching := nomatch fetching
  reported _ member := absurd member List.not_mem_nil

theorem queuedDistance_eq {ring : SharedRing.Ring (AudioFrame Sample)}
    {log : List (AudioFrame Sample)} (holds : Holds ring log)
    (narrow : ring.capacity < 2 ^ 32) :
    queuedDistance ring = ring.write - ring.read := by
  have ordered := holds.ordered
  have bounded := holds.bounded
  unfold queuedDistance
  rw [show ring.write + 2 ^ 64 - ring.read =
      ring.write - ring.read + 2 ^ 64 by omega, Nat.add_mod_right]
  exact Nat.mod_eq_of_lt (by omega)

theorem AudioRing.room_of_not {audio : AudioRing Sample}
    {log : List (AudioFrame Sample)} {frames : Nat}
    (holds : Holds audio.ring log) (narrow : audio.ring.capacity < 2 ^ 32)
    (fits : audio.hasNoRoom frames = false) :
    audio.ring.write + frames ≤ audio.ring.read + audio.ring.capacity := by
  have ordered := holds.ordered
  have bounded := holds.bounded
  rw [AudioRing.hasNoRoom, queuedDistance_eq holds narrow,
    Nat.mod_eq_of_lt (by omega)] at fits
  simp only [Bool.or_eq_false_iff, decide_eq_false_iff_not] at fits
  omega

variable {capacity : Nat} {run : RingRun Sample}

theorem RingSound.queued_eq (sound : RingSound capacity run) :
    run.queued = run.written.drop run.audio.ring.read := by
  have ordered := sound.holds.ordered
  have length := sound.holds.length
  apply List.ext_getElem?
  intro index
  rw [List.getElem?_drop, RingRun.queued, List.getElem?_map]
  by_cases inside : index < run.audio.ring.write - run.audio.ring.read
  · rw [List.getElem?_range inside, sound.holds.content _
      (Nat.le_add_right _ _) (by omega)]
    rfl
  · rw [List.getElem?_eq_none (by rw [List.length_range]; omega),
      List.getElem?_eq_none (by omega)]
    rfl

/-! ## Steps -/

theorem RingSound.setRing (sound : RingSound capacity run)
    {ring : SharedRing.Ring (AudioFrame Sample)}
    (holds : Holds ring run.written)
    (same : ring.capacity = run.audio.ring.capacity)
    (read : ring.read = run.audio.ring.read)
    (reader : ring.reader = run.audio.ring.reader) :
    RingSound capacity (run.setRing ring) where
  holds := holds
  capacity := same.trans sound.capacity
  consumed := by
    show _ = run.written.take ring.read
    rw [read]
    exact sound.consumed
  observed seen dropping := by
    show _ = (run.written.drop ring.read).take (seen - ring.read)
    rw [read]
    exact sound.observed seen (reader ▸ dropping)
  asked count fetched fetching :=
    sound.asked count fetched (reader ▸ fetching)
  reported := sound.reported

theorem RingSound.write (sound : RingSound capacity run)
    (narrow : capacity < 2 ^ 32) (mixer : Mixer Sample)
    (call : WriteCall Sample) :
    RingSound capacity (run.write mixer call) := by
  unfold RingRun.write
  split
  · exact sound
  split
  · exact sound
  split
  · exact ⟨sound.holds, sound.capacity, sound.consumed, sound.observed,
      sound.asked, sound.reported⟩
  · next fits =>
      refine sound.setRing (sound.holds.startStore ?_) rfl rfl rfl
      rw [WriteCall.items_length]
      exact AudioRing.room_of_not sound.holds (sound.capacity ▸ narrow)
        (Bool.not_eq_true _ ▸ fits)

theorem RingSound.store (sound : RingSound capacity run) :
    RingSound capacity run.store := by
  unfold RingRun.store
  split
  · exact sound
  next items stored storing =>
  split
  · exact sound
  · next item next =>
      exact sound.setRing (sound.holds.storeItem storing next) rfl rfl rfl

theorem RingSound.publish (sound : RingSound capacity run) :
    RingSound capacity run.publish := by
  unfold RingRun.publish
  split
  · exact sound
  next items stored storing =>
  split
  · next complete =>
      subst complete
      have ordered := sound.holds.ordered
      have length := sound.holds.length
      have early : run.audio.ring.read ≤ run.written.length := by omega
      exact {
        holds := sound.holds.publish storing
        capacity := sound.capacity
        consumed := by
          show _ = (run.written ++ items).take run.audio.ring.read
          rw [List.take_append_of_le_length early]
          exact sound.consumed
        observed := by
          intro seen dropping
          have within := sound.holds.reader
          rw [show run.audio.ring.reader = .dropping seen from dropping]
            at within
          show run.observed = List.take (seen - run.audio.ring.read)
            (List.drop run.audio.ring.read (run.written ++ items))
          rw [List.drop_append_of_le_length early,
            List.take_append_of_le_length (by
              have bound := within.2
              rw [List.length_drop]
              omega)]
          exact sound.observed seen dropping
        asked := sound.asked
        reported := sound.reported }
  · exact sound

theorem RingSound.read (sound : RingSound capacity run)
    (narrow : capacity < 2 ^ 32) (frames : Nat) :
    RingSound capacity (run.read frames) := by
  unfold RingRun.read
  split
  · split
    · exact sound
    next some =>
    split
    · exact sound
    · next enough =>
        have ordered := sound.holds.ordered
        rw [queuedDistance_eq sound.holds (sound.capacity ▸ narrow)] at enough
        exact {
          holds := sound.holds.startFetch (by omega)
          capacity := sound.capacity
          consumed := sound.consumed
          observed := fun _ dropping => nomatch dropping
          asked := by
            intro count fetched fetching
            obtain ⟨rfl, -⟩ := Reader.fetching.inj fetching
            exact Nat.pos_of_ne_zero some
          reported := sound.reported }
  · exact sound

theorem RingSound.fetch (sound : RingSound capacity run) :
    RingSound capacity run.fetch := by
  unfold RingRun.fetch
  split
  · next count fetched fetching =>
      split
      · next more =>
          exact {
            holds := sound.holds.fetchItem fetching more
            capacity := sound.capacity
            consumed := sound.consumed
            observed := fun _ dropping => nomatch dropping
            asked := by
              intro other later again
              obtain ⟨rfl, -⟩ := Reader.fetching.inj again
              exact sound.asked _ _ fetching
            reported := sound.reported }
      · exact sound
  · exact sound

theorem RingSound.advance {capacity : Nat} {run : RingRun Sample}
    (sound : RingSound capacity run) {position : Nat}
    (after : run.audio.ring.read ≤ position)
    (within : position ≤ run.audio.ring.write) {consumed : Consumed Sample}
    (block : consumed.frames =
      (run.written.drop run.audio.ring.read).take
        (position - run.audio.ring.read))
    (reported : consumed.Reported) :
    RingSound capacity
      ((run.setRing (run.audio.ring.advance position)).logConsumed
        consumed) where
  holds := sound.holds.advance after within
  capacity := sound.capacity
  consumed := by
    show List.flatMap _ (run.consumed ++ [consumed]) =
      run.written.take position
    rw [List.flatMap_append, sound.consumed, List.flatMap_singleton, block,
      ← List.take_add, Nat.add_sub_cancel' after]
  observed _ dropping := nomatch dropping
  asked _ _ fetching := nomatch fetching
  reported other member := by
    rcases List.mem_append.mp member with old | new
    · exact sound.reported other old
    · rw [List.mem_singleton.mp new]
      exact reported

theorem RingSound.finishRead (sound : RingSound capacity run) :
    RingSound capacity run.finishRead := by
  unfold RingRun.finishRead
  split
  · next count fetched fetching =>
      split
      · next complete =>
          obtain ⟨equal, -, within⟩ := sound.holds.fetched_eq fetching
          refine sound.advance (Nat.le_add_right _ _) within ?_ ?_
          · rw [Nat.add_sub_cancel_left, ← complete]
            exact equal
          · have some := sound.asked count fetched fetching
            cases fetched with
            | nil =>
                rw [← complete] at some
                exact absurd some (Nat.lt_irrefl 0)
            | cons first rest =>
                obtain ⟨pts, contiguous⟩ := scanPts_cons first rest
                exact ⟨⟨first, rest, rfl, pts⟩, contiguous⟩
      · exact sound
  · exact sound

theorem RingSound.dropAll (sound : RingSound capacity run) :
    RingSound capacity run.dropAll := by
  unfold RingRun.dropAll
  split
  · exact {
      holds := sound.holds.startDrop
      capacity := sound.capacity
      consumed := sound.consumed
      observed := by
        intro seen dropping
        obtain rfl : run.audio.ring.write = seen := Reader.dropping.inj dropping
        have length := sound.holds.length
        show run.queued = List.take (run.audio.ring.write -
          run.audio.ring.read) (run.written.drop run.audio.ring.read)
        rw [List.take_of_length_le (by rw [List.length_drop]; omega)]
        exact sound.queued_eq
      asked := fun _ _ fetching => nomatch fetching
      reported := sound.reported }
  · exact sound

theorem RingSound.finishDrop (sound : RingSound capacity run) :
    RingSound capacity run.finishDrop := by
  unfold RingRun.finishDrop
  split
  · next seen dropping =>
      have within := sound.holds.reader
      rw [dropping] at within
      exact sound.advance within.1 within.2 (sound.observed seen dropping)
        trivial
  · exact sound

theorem RingSound.step (narrow : capacity < 2 ^ 32) (mixer : Mixer Sample)
    (event : RingEvent Sample) (sound : RingSound capacity run) :
    RingSound capacity (run.step mixer event) := by
  cases event with
  | write call => exact sound.write narrow mixer call
  | store => exact sound.store
  | publish => exact sound.publish
  | read frames => exact sound.read narrow frames
  | fetch => exact sound.fetch
  | finishRead => exact sound.finishRead
  | dropAll => exact sound.dropAll
  | finishDrop => exact sound.finishDrop

theorem ringRun_sound (narrow : capacity < 2 ^ 32) (mixer : Mixer Sample)
    (channels : Nat) (events : List (RingEvent Sample)) :
    RingSound capacity (ringRun mixer capacity channels events) :=
  invariant_runFrom_of_step
    (fun _ event => RingSound.step narrow mixer event)
    (ringSound_init mixer capacity channels) events

/-! ## The bounded queue -/

/-- The events that end a call and change what is queued. -/
def RingEvent.finishes : RingEvent Sample → Bool
  | .publish => true
  | .finishRead => true
  | .finishDrop => true
  | _ => false

structure RingLaw (mixer : Mixer Sample) (capacity : Nat)
    (run : RingRun Sample) : Prop where
  /-- In write order, none lost and none twice. -/
  fifo : run.written = run.consumed.flatMap Consumed.frames ++ run.queued
  bounded : run.queued.length ≤ capacity
  /-- The timestamp and the flag returned by every read. -/
  reported : ∀ consumed ∈ run.consumed, consumed.Reported
  /-- A write is refused with nothing changed but the count of overruns, or
  starts storing all its frames. -/
  writes : ∀ call, run.write mixer call = run ∨
    run.write mixer call = run.countOverrun ∨
    (run.audio.ring.writer = .idle ∧ run.write mixer call = run.setRing
      (run.audio.ring.startStore (call.items mixer run.audio.channels)))
  /-- Frames stored become readable all at once. -/
  publishes : ∀ items, run.audio.ring.writer = .storing items items.length →
    run.publish.written = run.written ++ items ∧
      run.publish.queued = run.queued ++ items
  /-- A read that is done takes its frames off the front. -/
  reads : ∀ count fetched, run.audio.ring.reader = .fetching count fetched →
    fetched.length = count → run.queued = fetched ++ run.finishRead.queued
  /-- A drop takes what was stored when it began. -/
  drops : (run.audio.ring.reader = .idle → run.dropAll.observed = run.queued) ∧
    ∀ seen, run.audio.ring.reader = .dropping seen →
      run.queued = run.observed ++ run.finishDrop.queued
  /-- Every other step leaves the queue alone. -/
  quiet : ∀ event : RingEvent Sample, event.finishes = false →
    (run.step mixer event).queued = run.queued ∧
      (run.step mixer event).written = run.written ∧
      (run.step mixer event).consumed = run.consumed
  /-- The slot being stored is not one of those being read. -/
  apart : ∀ items stored count fetched,
    run.audio.ring.writer = .storing items stored → stored < items.length →
    run.audio.ring.reader = .fetching count fetched → ∀ index < count,
      (run.audio.ring.read + index) % run.audio.ring.capacity ≠
        (run.audio.ring.write + stored) % run.audio.ring.capacity

theorem RingSound.queued_of_same {run after : RingRun Sample}
    (sound : RingSound capacity run) (later : RingSound capacity after)
    (written : after.written = run.written)
    (read : after.audio.ring.read = run.audio.ring.read) :
    after.queued = run.queued := by
  rw [later.queued_eq, sound.queued_eq, written, read]

theorem RingSound.queued_of_advance {capacity position : Nat}
    {run : RingRun Sample} (sound : RingSound capacity run)
    {consumed : Consumed Sample}
    (later : RingSound capacity
      ((run.setRing (run.audio.ring.advance position)).logConsumed consumed))
    (after : run.audio.ring.read ≤ position)
    {block : List (AudioFrame Sample)}
    (equal : block = (run.written.drop run.audio.ring.read).take
      (position - run.audio.ring.read)) :
    run.queued = block ++
      ((run.setRing (run.audio.ring.advance position)).logConsumed
        consumed).queued := by
  have rest : (run.written.drop run.audio.ring.read).drop
      (position - run.audio.ring.read) = run.written.drop position := by
    rw [List.drop_drop, Nat.add_sub_cancel' after]
  rw [later.queued_eq, sound.queued_eq, equal]
  exact ((congrArg _ rest.symm).trans (List.take_append_drop _ _)).symm

theorem RingRun.step_quiet (mixer : Mixer Sample) (run : RingRun Sample)
    {event : RingEvent Sample} (goesOn : event.finishes = false) :
    (run.step mixer event).written = run.written ∧
      (run.step mixer event).consumed = run.consumed ∧
      (run.step mixer event).audio.ring.read = run.audio.ring.read := by
  cases event with
  | publish => exact absurd goesOn (by simp [RingEvent.finishes])
  | finishRead => exact absurd goesOn (by simp [RingEvent.finishes])
  | finishDrop => exact absurd goesOn (by simp [RingEvent.finishes])
  | write call =>
      dsimp only [RingRun.step, RingRun.write]
      split
      · exact ⟨rfl, rfl, rfl⟩
      · split
        · exact ⟨rfl, rfl, rfl⟩
        · split <;> exact ⟨rfl, rfl, rfl⟩
  | store =>
      dsimp only [RingRun.step, RingRun.store]
      split
      · exact ⟨rfl, rfl, rfl⟩
      · split <;> exact ⟨rfl, rfl, rfl⟩
  | read frames =>
      dsimp only [RingRun.step, RingRun.read]
      split
      · split
        · exact ⟨rfl, rfl, rfl⟩
        · split <;> exact ⟨rfl, rfl, rfl⟩
      · exact ⟨rfl, rfl, rfl⟩
  | fetch =>
      dsimp only [RingRun.step, RingRun.fetch]
      split
      · split <;> exact ⟨rfl, rfl, rfl⟩
      · exact ⟨rfl, rfl, rfl⟩
  | dropAll =>
      dsimp only [RingRun.step, RingRun.dropAll]
      split <;> exact ⟨rfl, rfl, rfl⟩

theorem RingSound.law (sound : RingSound capacity run)
    (narrow : capacity < 2 ^ 32) (mixer : Mixer Sample) :
    RingLaw mixer capacity run := by
  have queued := sound.queued_eq
  exact {
    fifo := by rw [sound.consumed, queued, List.take_append_drop]
    bounded := by
      have bounded := sound.holds.bounded
      rw [sound.capacity] at bounded
      rw [queued, List.length_drop, sound.holds.length]
      omega
    reported := sound.reported
    writes := by
      intro call
      unfold RingRun.write
      split
      · exact .inl rfl
      next idle =>
      split
      · exact .inl rfl
      split
      · exact .inr (.inl rfl)
      · exact .inr (.inr ⟨idle, rfl⟩)
    publishes := by
      intro items storing
      have later := sound.publish.queued_eq
      have step : run.publish =
          (run.setRing (run.audio.ring.publish items)).logWrite items := by
        rw [RingRun.publish, storing]
        exact if_pos rfl
      have early : run.audio.ring.read ≤ run.written.length := by
        rw [sound.holds.length]
        exact sound.holds.ordered
      rw [step] at later ⊢
      refine ⟨rfl, later.trans ?_⟩
      rw [queued]
      exact List.drop_append_of_le_length early
    reads := by
      intro count fetched fetching complete
      have later := sound.finishRead
      obtain ⟨equal, -, -⟩ := sound.holds.fetched_eq fetching
      rw [RingRun.finishRead, fetching] at later ⊢
      dsimp only at later ⊢
      rw [if_pos complete] at later ⊢
      refine sound.queued_of_advance later (Nat.le_add_right _ _) ?_
      rw [Nat.add_sub_cancel_left, ← complete]
      exact equal
    drops := by
      refine ⟨fun idle => ?_, fun seen dropping => ?_⟩
      · rw [RingRun.dropAll, idle]
      · have later := sound.finishDrop
        have within := sound.holds.reader
        rw [dropping] at within
        rw [RingRun.finishDrop, dropping] at later ⊢
        exact sound.queued_of_advance later within.1
          (sound.observed seen dropping)
    quiet := by
      intro event goesOn
      obtain ⟨written, consumed, read⟩ := run.step_quiet mixer goesOn
      exact ⟨sound.queued_of_same (sound.step narrow mixer event) written read,
        written, consumed⟩
    apart := by
      intro items stored count fetched storing more fetching index before
      obtain ⟨-, -, within⟩ := sound.holds.fetched_eq fetching
      exact sound.holds.slot_apart storing more (Nat.le_add_right _ _)
        (by omega) }

theorem ringLaw_of_run (mixer : Mixer Sample) (capacity : UInt32)
    (channels : Nat) (events : List (RingEvent Sample)) :
    RingLaw mixer capacity.toNat
      (ringRun mixer capacity.toNat channels events) :=
  (ringRun_sound capacity.toNat_lt mixer channels events).law
    capacity.toNat_lt mixer

def numberMixer : Mixer Nat := ⟨0, fun left right => (left + right) / 2⟩

example :
    (ringRun numberMixer 4 1
      [.write (.writeCapture (some [2, 4, 6, 8]) 2 2 false 10), .store,
       .read 2, .store, .publish, .read 2, .fetch,
       .write (.write (some [7, 7, 7]) 3 20), .fetch,
       .finishRead]).consumed.map Consumed.frames =
      [[⟨[3], 10⟩, ⟨[7], 11⟩]] := by
  decide +kernel

end WayDisplay.Server.Audio
