import WayDisplay.Foundation.Bitmap
import WayDisplay.Foundation.Flags

/-!
The scheduler of dirty regions (`wd_dirty_region_scheduler.c`).

A region is queued once.  It is taken in the order of its number after the last
one taken, unless the region that has waited longest has waited too long.  The
heap that finds the latter keeps entries of regions that are not queued any more;
they are dropped when they come to the top.
-/

namespace WayDisplay.Server

open Foundation

structure DirtyRegionHeapEntry where
  enqueuedNs : Nat
  serial : Nat
  regionId : Nat
  deriving DecidableEq, Repr

structure DirtyRegionScheduler where
  capacity : Nat
  starvationNs : Nat
  count : Nat
  queued : Nat → Bool
  enqueuedNs : Nat → Nat
  serial : Nat → Nat
  queuedBits : Bitmap
  heap : Array DirtyRegionHeapEntry

/-! ## The heap -/

def DirtyRegionHeapEntry.less (entry other : DirtyRegionHeapEntry) : Bool :=
  if entry.enqueuedNs ≠ other.enqueuedNs then
    entry.enqueuedNs < other.enqueuedNs
  else entry.regionId < other.regionId

namespace DirtyRegionScheduler

def lessAt (heap : Array DirtyRegionHeapEntry) (i j : Nat) : Bool :=
  match heap[i]?, heap[j]? with
  | some entry, some other => entry.less other
  | _, _ => false

/-- The index halves in every round, so it serves as the fuel. -/
def heapSiftUp : Nat → Nat → Array DirtyRegionHeapEntry →
    Array DirtyRegionHeapEntry
  | 0, _, heap => heap
  | fuel + 1, index, heap =>
      if index = 0 then heap
      else
        let parent := (index - 1) / 2
        if lessAt heap index parent then
          heapSiftUp fuel parent (heap.swapIfInBounds index parent)
        else heap

def heapSmallest (heap : Array DirtyRegionHeapEntry) (index : Nat) : Nat :=
  let left := index * 2 + 1
  let right := left + 1
  let smallest :=
    if left < heap.size ∧ lessAt heap left index then left else index
  if right < heap.size ∧ lessAt heap right smallest then right else smallest

def heapSiftDown : Nat → Nat → Array DirtyRegionHeapEntry →
    Array DirtyRegionHeapEntry
  | 0, _, heap => heap
  | fuel + 1, index, heap =>
      if heapSmallest heap index = index then heap
      else
        heapSiftDown fuel (heapSmallest heap index)
          (heap.swapIfInBounds index (heapSmallest heap index))

def heapPush (heap : Array DirtyRegionHeapEntry)
    (entry : DirtyRegionHeapEntry) : Array DirtyRegionHeapEntry :=
  heapSiftUp heap.size heap.size (heap.push entry)

def heapPop (heap : Array DirtyRegionHeapEntry) : Array DirtyRegionHeapEntry :=
  match heap.back? with
  | none => heap
  | some last =>
      let rest := heap.pop
      if rest.size = 0 then rest
      else heapSiftDown rest.size 0 (rest.setIfInBounds 0 last)

def heapEntryCurrent (s : DirtyRegionScheduler) (entry : DirtyRegionHeapEntry) :
    Bool :=
  entry.regionId < s.capacity && s.queued entry.regionId &&
    s.serial entry.regionId = entry.serial &&
    s.enqueuedNs entry.regionId = entry.enqueuedNs

def heapPruneFrom : Nat → DirtyRegionScheduler → DirtyRegionScheduler
  | 0, s => s
  | fuel + 1, s =>
      match s.heap[0]? with
      | none => s
      | some entry =>
          if s.heapEntryCurrent entry then s
          else heapPruneFrom fuel { s with heap := heapPop s.heap }

def heapPrune (s : DirtyRegionScheduler) : DirtyRegionScheduler :=
  heapPruneFrom s.heap.size s

/-! ## Operations -/

/-- A scheduler that could not be made behaves like one without regions. -/
def create (capacity starvationNs : Nat) : DirtyRegionScheduler where
  capacity
  starvationNs
  count := 0
  queued := fun _ => false
  enqueuedNs := fun _ => 0
  serial := fun _ => 0
  queuedBits := .empty
  heap := #[]

/-- Serials survive, so that old entries of the heap stay outdated. -/
def reset (s : DirtyRegionScheduler) : DirtyRegionScheduler :=
  { s with
    queued := fun _ => false
    enqueuedNs := fun _ => 0
    queuedBits := .empty
    count := 0
    heap := #[] }

/-- A region that was taken and not forgotten keeps its age. -/
def ageFor (s : DirtyRegionScheduler) (regionId now : Nat) : Nat :=
  if s.enqueuedNs regionId ≠ 0 then s.enqueuedNs regionId
  else if now ≠ 0 then now else 1

def nextSerial (s : DirtyRegionScheduler) (regionId : Nat) : Nat :=
  if (s.serial regionId + 1) % 2 ^ 32 = 0 then 1
  else (s.serial regionId + 1) % 2 ^ 32

/--
`grows` says whether the heap finds room for the entry.  Where it does not, the
queued set is taken back and only the serial has moved.
-/
def enqueue (s : DirtyRegionScheduler) (regionId now : Nat) (grows : Bool) :
    DirtyRegionScheduler × Bool :=
  if regionId ≥ s.capacity then (s, false)
  else if s.queued regionId then (s, true)
  else if !grows then
    ({ s with
      serial := Function.update s.serial regionId (s.nextSerial regionId) },
      false)
  else
    ({ s with
      enqueuedNs := Function.update s.enqueuedNs regionId (s.ageFor regionId now)
      serial := Function.update s.serial regionId (s.nextSerial regionId)
      queued := Function.update s.queued regionId true
      queuedBits := s.queuedBits.set regionId
      count := s.count + 1
      heap := heapPush s.heap
        ⟨s.ageFor regionId now, s.nextSerial regionId, regionId⟩ }, true)

def unqueue (s : DirtyRegionScheduler) (regionId : Nat) : DirtyRegionScheduler :=
  { s with
    queued := Function.update s.queued regionId false
    queuedBits := s.queuedBits.clear regionId
    count := s.count - 1 }

def findNextQueued (s : DirtyRegionScheduler) (cursor : Nat) : Option Nat :=
  if s.count = 0 then none
  else
    (s.queuedBits.scan s.capacity ((cursor + 1) % s.capacity) s.capacity).orElse
      fun _ => s.queuedBits.scan s.capacity 0 ((cursor + 1) % s.capacity)

def starving (s : DirtyRegionScheduler) (now : Nat) : Option Nat :=
  match s.heap[0]? with
  | none => none
  | some oldest =>
      if s.starvationNs ≠ 0 ∧ now ≥ oldest.enqueuedNs ∧
          now - oldest.enqueuedNs ≥ s.starvationNs then some oldest.regionId
      else none

def takeSelected (s : DirtyRegionScheduler) :
    Option Nat → DirtyRegionScheduler × Option Nat
  | none => (s, none)
  | some selected =>
      if !s.queued selected then (s, none)
      else (s.unqueue selected, some selected)

def take (s : DirtyRegionScheduler) (cursor now : Nat) :
    DirtyRegionScheduler × Option Nat :=
  if s.count = 0 then (s, none)
  else
    s.heapPrune.takeSelected ((s.heapPrune.starving now).orElse fun _ =>
      s.heapPrune.findNextQueued cursor)

def forget (s : DirtyRegionScheduler) (regionId : Nat) : DirtyRegionScheduler :=
  if regionId ≥ s.capacity then s
  else
    let s := if s.queued regionId then s.unqueue regionId else s
    { s with
      enqueuedNs := Function.update s.enqueuedNs regionId 0
      serial := Function.update s.serial regionId
        ((s.serial regionId + 1) % 2 ^ 32) }

/-! ## The queued set -/

structure Sound (s : DirtyRegionScheduler) : Prop where
  counted : s.count = (List.range s.capacity).countP s.queued
  bits : ∀ id, s.queuedBits.test id = s.queued id
  inside : ∀ id, s.queued id = true → id < s.capacity

theorem sound_create (capacity starvationNs : Nat) :
    (create capacity starvationNs).Sound where
  counted := by simp [create]
  bits := fun id => Bitmap.test_empty id
  inside := fun _ queued => by simp [create] at queued

theorem sound_reset (s : DirtyRegionScheduler) : s.reset.Sound where
  counted := by simp [reset]
  bits := fun id => Bitmap.test_empty id
  inside := fun _ queued => by simp [reset] at queued

variable {s : DirtyRegionScheduler} {regionId cursor now : Nat}

theorem Sound.count_pos_iff (sound : s.Sound) :
    0 < s.count ↔ ∃ id, s.queued id = true := by
  rw [sound.counted, countP_range_pos]
  constructor
  · rintro ⟨id, -, queued⟩
    exact ⟨id, queued⟩
  · rintro ⟨id, queued⟩
    exact ⟨id, sound.inside id queued, queued⟩

theorem Sound.not_queued (sound : s.Sound) (idle : s.count = 0) (id : Nat) :
    s.queued id = false := by
  by_contra queued
  have some : 0 < s.count :=
    sound.count_pos_iff.mpr ⟨id, by simpa using queued⟩
  omega

theorem unqueue_queued (s : DirtyRegionScheduler) (regionId id : Nat) :
    (s.unqueue regionId).queued id = (s.queued id && id != regionId) := by
  by_cases same : id = regionId
  · simp [unqueue, same]
  · simp [unqueue, same]

theorem Sound.unqueue (sound : s.Sound) (queued : s.queued regionId = true) :
    (s.unqueue regionId).Sound where
  counted := by
    have left := countP_range_clear (sound.inside regionId queued) queued
    change s.count - 1 = _
    rw [sound.counted, ← left]
    rfl
  bits := fun id => by
    change (s.queuedBits.clear regionId).test id = _
    rw [Bitmap.test_clear, sound.bits id, unqueue_queued]
    rfl
  inside := fun id member => by
    rw [unqueue_queued, Bool.and_eq_true] at member
    exact sound.inside id member.1

/-! ### Enqueueing -/

@[simp]
theorem enqueue_capacity (s : DirtyRegionScheduler) (regionId now : Nat)
    (grows : Bool) : (s.enqueue regionId now grows).1.capacity = s.capacity := by
  unfold enqueue
  split_ifs <;> rfl

theorem enqueue_queued (s : DirtyRegionScheduler) (regionId now id : Nat) :
    (s.enqueue regionId now true).1.queued id =
      (s.queued id || (decide (regionId < s.capacity) && id == regionId)) := by
  unfold enqueue
  split_ifs with outside queued
  · simp [Nat.not_lt.mpr outside]
  · by_cases same : id = regionId
    · simp [same, queued]
    · simp [same]
  · contradiction
  · by_cases same : id = regionId
    · simp [same, Nat.lt_of_not_le outside]
    · simp [same]

theorem Sound.enqueue (sound : s.Sound) (regionId now : Nat) :
    (s.enqueue regionId now true).1.Sound := by
  by_cases outside : regionId ≥ s.capacity
  · rw [DirtyRegionScheduler.enqueue, if_pos outside]
    exact sound
  by_cases queued : s.queued regionId = true
  · rw [DirtyRegionScheduler.enqueue, if_neg outside, if_pos queued]
    exact sound
  constructor
  · rw [enqueue_capacity, DirtyRegionScheduler.enqueue, if_neg outside,
      if_neg queued]
    have entered := countP_range_set (Nat.lt_of_not_le outside)
      (Bool.eq_false_iff.mpr queued)
    change s.count + 1 = _
    rw [sound.counted, ← entered]
    rfl
  · intro id
    rw [enqueue_queued, ← sound.bits id, DirtyRegionScheduler.enqueue,
      if_neg outside, if_neg queued]
    change (s.queuedBits.set regionId).test id = _
    rw [Bitmap.test_set, decide_eq_true (Nat.lt_of_not_le outside),
      Bool.true_and]
    rfl
  · intro id member
    rw [enqueue_queued, Bool.or_eq_true, Bool.and_eq_true, beq_iff_eq] at member
    rw [enqueue_capacity]
    rcases member with member | ⟨-, rfl⟩
    · exact sound.inside id member
    · exact Nat.lt_of_not_le outside

/-! ### Forgetting -/

@[simp]
theorem forget_capacity (s : DirtyRegionScheduler) (regionId : Nat) :
    (s.forget regionId).capacity = s.capacity := by
  unfold forget
  split_ifs <;> rfl

theorem Sound.forget_queued (sound : s.Sound) (regionId id : Nat) :
    (s.forget regionId).queued id = (s.queued id && id != regionId) := by
  by_cases queued : s.queued regionId = true
  · rw [forget, if_neg (Nat.not_le.mpr (sound.inside regionId queued)),
      if_pos queued]
    exact unqueue_queued s regionId id
  · have same : (s.forget regionId).queued = s.queued := by
      rw [forget, if_neg queued]
      split_ifs <;> rfl
    rw [same]
    by_cases other : id = regionId
    · subst other
      simp [Bool.eq_false_iff.mpr queued]
    · simp [other]

theorem Sound.forget (sound : s.Sound) (regionId : Nat) :
    (s.forget regionId).Sound := by
  by_cases outside : regionId ≥ s.capacity
  · rw [DirtyRegionScheduler.forget, if_pos outside]
    exact sound
  · by_cases queued : s.queued regionId = true
    · rw [DirtyRegionScheduler.forget, if_neg outside, if_pos queued]
      have left := sound.unqueue queued
      exact ⟨left.counted, left.bits, left.inside⟩
    · rw [DirtyRegionScheduler.forget, if_neg outside, if_neg queued]
      exact ⟨sound.counted, sound.bits, sound.inside⟩

/-! ### Taking -/

theorem heapSiftDown_size (fuel index : Nat)
    (heap : Array DirtyRegionHeapEntry) :
    (heapSiftDown fuel index heap).size = heap.size := by
  induction fuel generalizing index heap with
  | zero => rfl
  | succ fuel ih =>
      unfold heapSiftDown
      split
      · rfl
      · rw [ih, Array.size_swapIfInBounds]

theorem heapPop_size (heap : Array DirtyRegionHeapEntry) :
    (heapPop heap).size = heap.size - 1 := by
  unfold heapPop
  split
  · next empty =>
    rw [Array.back?_eq_none_iff] at empty
    simp [empty]
  · simp only
    split_ifs
    · exact Array.size_pop
    · rw [heapSiftDown_size, Array.size_setIfInBounds, Array.size_pop]

theorem heapPruneFrom_eq (fuel : Nat) (s : DirtyRegionScheduler) :
    ∃ heap, heapPruneFrom fuel s = { s with heap := heap } ∧
      (s.heap.size ≤ fuel → ∀ entry, heap[0]? = some entry →
        s.heapEntryCurrent entry = true) := by
  induction fuel generalizing s with
  | zero =>
      refine ⟨s.heap, rfl, fun small entry top => ?_⟩
      rw [Array.getElem?_eq_none (by omega)] at top
      contradiction
  | succ fuel ih =>
      unfold heapPruneFrom
      split
      · next empty =>
        exact ⟨s.heap, rfl, fun _ entry top => by simp [empty] at top⟩
      · next oldest found =>
        split_ifs with current
        · refine ⟨s.heap, rfl, fun _ entry top => ?_⟩
          rw [found, Option.some.injEq] at top
          exact top ▸ current
        · obtain ⟨heap, pruned, top⟩ := ih { s with heap := heapPop s.heap }
          refine ⟨heap, pruned, fun small => top ?_⟩
          rw [heapPop_size]
          omega

theorem starving_queued {heap : Array DirtyRegionHeapEntry}
    (current : ∀ entry, heap[0]? = some entry →
      s.heapEntryCurrent entry = true)
    (selected : { s with heap := heap }.starving now = some regionId) :
    s.queued regionId = true := by
  unfold starving at selected
  split at selected
  · contradiction
  · next oldest top =>
    split_ifs at selected
    rw [Option.some.injEq] at selected
    have valid := current oldest top
    simp only [heapEntryCurrent, Bool.and_eq_true] at valid
    exact selected ▸ valid.1.1.2

theorem Sound.findNextQueued_queued (sound : s.Sound) (busy : 0 < s.count)
    (cursor : Nat) :
    ∃ id, s.findNextQueued cursor = some id ∧ s.queued id = true := by
  obtain ⟨member, queued⟩ := sound.count_pos_iff.mp busy
  have inside := sound.inside member queued
  have start : (cursor + 1) % s.capacity < s.capacity :=
    Nat.mod_lt _ (by omega)
  have high : s.queuedBits.IsLeast ((cursor + 1) % s.capacity) s.capacity _ :=
    Bitmap.scan_isLeast (Nat.le_refl s.capacity)
  have low : s.queuedBits.IsLeast 0 ((cursor + 1) % s.capacity) _ :=
    Bitmap.scan_isLeast (Nat.le_of_lt start)
  rw [findNextQueued, if_neg (by omega)]
  revert high low
  cases s.queuedBits.scan s.capacity ((cursor + 1) % s.capacity) s.capacity with
  | some id =>
      intro high _
      exact ⟨id, rfl, sound.bits id ▸ high.1⟩
  | none =>
      rw [Option.orElse_none]
      cases s.queuedBits.scan s.capacity 0 ((cursor + 1) % s.capacity) with
      | some id =>
          intro _ low
          exact ⟨id, rfl, sound.bits id ▸ low.1⟩
      | none =>
          intro high low
          rw [← sound.bits member] at queued
          by_cases before : member < (cursor + 1) % s.capacity
          · rw [low member (Nat.zero_le _) before] at queued
            contradiction
          · rw [high member (Nat.le_of_not_lt before) inside] at queued
            contradiction

theorem takeSelected_queued (queued : s.queued regionId = true) :
    s.takeSelected (some regionId) = (s.unqueue regionId, some regionId) := by
  simp [takeSelected, queued]

theorem Sound.take_cases (sound : s.Sound) (cursor now : Nat) :
    (s.count = 0 ∧ s.take cursor now = (s, none)) ∨
      ∃ heap id, s.queued id = true ∧
        s.take cursor now = ({ s with heap := heap }.unqueue id, some id) := by
  by_cases idle : s.count = 0
  · left
    rw [take, if_pos idle]
    exact ⟨idle, rfl⟩
  · right
    obtain ⟨heap, pruned, current⟩ := heapPruneFrom_eq s.heap.size s
    have same : s.heapPrune = { s with heap := heap } := pruned
    have kept : { s with heap := heap }.Sound :=
      ⟨sound.counted, sound.bits, sound.inside⟩
    rw [take, if_neg idle, same]
    cases first : { s with heap := heap }.starving now with
    | some id =>
        have queued := starving_queued (current (Nat.le_refl _)) first
        exact ⟨heap, id, queued, takeSelected_queued queued⟩
    | none =>
        obtain ⟨id, found, queued⟩ :=
          kept.findNextQueued_queued (Nat.pos_of_ne_zero idle) cursor
        rw [Option.orElse_none, found]
        exact ⟨heap, id, queued, takeSelected_queued queued⟩

end DirtyRegionScheduler

end WayDisplay.Server
