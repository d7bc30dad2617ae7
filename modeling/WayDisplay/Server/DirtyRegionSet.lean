import WayDisplay.Foundation.BinaryHeap
import WayDisplay.Foundation.Runs
import WayDisplay.Server.DirtyRegionScheduler

/-!
The scheduler of dirty regions is a set of regions with ages.

`RegionSet` says what the scheduler is for: a set, and for each region the time
since when it waits.  The oldest member comes first once it has waited too long,
else the next member after the cursor, going round.  The scheduler with its flags,
bitmap and heap gives the same answers in every run.
-/

namespace WayDisplay.Server

open Foundation

structure RegionSet where
  capacity : Nat
  starvationNs : Nat
  member : Nat → Bool
  since : Nat → Option Nat

namespace RegionSet

def create (capacity starvationNs : Nat) : RegionSet :=
  ⟨capacity, starvationNs, fun _ => false, fun _ => none⟩

def time (q : RegionSet) (id : Nat) : Nat :=
  (q.since id).getD 0

/-- A region waits since it was first enqueued; `stamp` reads the clock. -/
def enqueue (stamp : Nat → Nat) (q : RegionSet) (id now : Nat) (grows : Bool) :
    RegionSet × Bool :=
  if id ≥ q.capacity then (q, false)
  else if q.member id then (q, true)
  else if !grows then (q, false)
  else
    ({ q with
      member := Function.update q.member id true
      since := Function.update q.since id
        (some ((q.since id).getD (stamp now))) }, true)

/-- The member with the least time, and the least number among those. -/
def IsOldest (q : RegionSet) (id : Nat) : Prop :=
  q.member id = true ∧ ∀ other < q.capacity, q.member other = true →
    q.time id < q.time other ∨ q.time id = q.time other ∧ id ≤ other

instance (q : RegionSet) (id : Nat) : Decidable (q.IsOldest id) :=
  inferInstanceAs (Decidable (_ ∧ ∀ other < q.capacity, _ → _))

def oldest (q : RegionSet) : Option Nat :=
  (List.range q.capacity).find? fun id => q.IsOldest id

def round (q : RegionSet) (cursor : Nat) : List Nat :=
  (List.range q.capacity).map fun k => (cursor + 1 + k) % q.capacity

def next (q : RegionSet) (cursor : Nat) : Option Nat :=
  (q.round cursor).find? q.member

def Starves (q : RegionSet) (id now : Nat) : Prop :=
  q.starvationNs ≠ 0 ∧ now ≥ q.time id ∧ now - q.time id ≥ q.starvationNs

instance (q : RegionSet) (id now : Nat) : Decidable (q.Starves id now) :=
  inferInstanceAs (Decidable (_ ∧ _ ∧ _))

def choice (q : RegionSet) (cursor now : Nat) : Option Nat :=
  match q.oldest with
  | none => none
  | some id => if q.Starves id now then some id else q.next cursor

def remove (q : RegionSet) (id : Nat) : RegionSet :=
  { q with member := Function.update q.member id false }

def take (q : RegionSet) (cursor now : Nat) : RegionSet × Option Nat :=
  match q.choice cursor now with
  | none => (q, none)
  | some id => (q.remove id, some id)

def forget (q : RegionSet) (id : Nat) : RegionSet :=
  if id ≥ q.capacity then q
  else
    { q.remove id with
      since := Function.update q.since id none }

def reset (q : RegionSet) : RegionSet :=
  create q.capacity q.starvationNs

end RegionSet

namespace DirtyRegionScheduler

/-! ## The heap of the scheduler -/

theorem lessAt_eq (heap : Array DirtyRegionHeapEntry) (i j : Nat) :
    lessAt heap i j =
      BinaryHeap.lessAt DirtyRegionHeapEntry.less heap i j := by
  unfold lessAt BinaryHeap.lessAt
  cases heap[i]? <;> cases heap[j]? <;> rfl

theorem heapSmallest_eq (heap : Array DirtyRegionHeapEntry) (index : Nat) :
    heapSmallest heap index =
      BinaryHeap.smallest DirtyRegionHeapEntry.less heap index := by
  simp only [heapSmallest, BinaryHeap.smallest, lessAt_eq]

theorem heapSiftUp_eq (fuel index : Nat) (heap : Array DirtyRegionHeapEntry) :
    heapSiftUp fuel index heap =
      BinaryHeap.siftUp DirtyRegionHeapEntry.less fuel index heap := by
  induction fuel generalizing index heap with
  | zero => rfl
  | succ fuel ih =>
      unfold heapSiftUp BinaryHeap.siftUp
      simp only [ih, lessAt_eq]

theorem heapSiftDown_eq (fuel index : Nat) (heap : Array DirtyRegionHeapEntry) :
    heapSiftDown fuel index heap =
      BinaryHeap.siftDown DirtyRegionHeapEntry.less fuel index heap := by
  induction fuel generalizing index heap with
  | zero => rfl
  | succ fuel ih =>
      unfold heapSiftDown BinaryHeap.siftDown
      simp only [ih, heapSmallest_eq]

theorem heapPush_eq (heap : Array DirtyRegionHeapEntry)
    (entry : DirtyRegionHeapEntry) :
    heapPush heap entry =
      BinaryHeap.push DirtyRegionHeapEntry.less heap entry :=
  heapSiftUp_eq _ _ _

theorem heapPop_eq (heap : Array DirtyRegionHeapEntry) :
    heapPop heap = BinaryHeap.pop DirtyRegionHeapEntry.less heap := by
  unfold heapPop BinaryHeap.pop
  cases heap.back? with
  | none => rfl
  | some last => simp only [heapSiftDown_eq]

theorem less_iff (entry other : DirtyRegionHeapEntry) :
    entry.less other = true ↔ entry.enqueuedNs < other.enqueuedNs ∨
      entry.enqueuedNs = other.enqueuedNs ∧ entry.regionId < other.regionId := by
  unfold DirtyRegionHeapEntry.less
  split <;> simp only [decide_eq_true_eq] <;> omega

theorem orders_less : BinaryHeap.Orders DirtyRegionHeapEntry.less where
  asymm := by
    intro entry other is
    rw [less_iff] at is
    rw [← Bool.not_eq_true, less_iff]
    omega
  trans := by
    intro entry other third first second
    rw [← Bool.not_eq_true, less_iff] at first second ⊢
    omega

def entryOf (s : DirtyRegionScheduler) (id : Nat) : DirtyRegionHeapEntry :=
  ⟨s.enqueuedNs id, s.serial id, id⟩

structure Aged (s : DirtyRegionScheduler) : Prop where
  ordered : BinaryHeap.Ordered DirtyRegionHeapEntry.less s.heap
  held : ∀ id, s.queued id = true → s.entryOf id ∈ s.heap
  aged : ∀ id, s.queued id = true → s.enqueuedNs id ≠ 0

variable {id : Nat} {s : DirtyRegionScheduler}

theorem entryOf_current (sound : s.Sound) (queued : s.queued id = true) :
    s.heapEntryCurrent (s.entryOf id) = true := by
  simp [heapEntryCurrent, entryOf, queued, sound.inside id queued]

variable {top : DirtyRegionHeapEntry}

theorem Aged.heapPop (aged : s.Aged) (sound : s.Sound)
    (isTop : s.heap[0]? = some top) (outdated : s.heapEntryCurrent top ≠ true) :
    Aged { s with heap := heapPop s.heap } where
  ordered := by
    rw [heapPop_eq]
    exact aged.ordered.pop orders_less
  held := by
    intro id queued
    rw [heapPop_eq]
    refine BinaryHeap.mem_pop_of_mem isTop (aged.held id queued) ?_
    rintro rfl
    exact outdated (entryOf_current sound queued)
  aged := aged.aged

theorem Aged.heapPruneFrom (aged : s.Aged) (sound : s.Sound) (fuel : Nat) :
    (heapPruneFrom fuel s).Aged := by
  induction fuel generalizing s with
  | zero => exact aged
  | succ fuel ih =>
      unfold DirtyRegionScheduler.heapPruneFrom
      split
      · exact aged
      · rename_i top isTop
        split
        · exact aged
        · rename_i outdated
          exact ih (aged.heapPop sound isTop outdated)
            ⟨sound.counted, sound.bits, sound.inside⟩

/-! ## What the scheduler stands for -/

def age (s : DirtyRegionScheduler) (id : Nat) : Option Nat :=
  if s.enqueuedNs id = 0 then none else some (s.enqueuedNs id)

structure Agrees (s : DirtyRegionScheduler) (q : RegionSet) : Prop where
  capacity : q.capacity = s.capacity
  starvationNs : q.starvationNs = s.starvationNs
  member : ∀ id, q.member id = s.queued id
  since : ∀ id, q.since id = s.age id

variable {s : DirtyRegionScheduler} {q : RegionSet}

theorem Agrees.time (agrees : s.Agrees q) (aged : s.Aged)
    (queued : s.queued id = true) : q.time id = s.enqueuedNs id := by
  rw [RegionSet.time, agrees.since, age, if_neg (aged.aged id queued)]
  rfl

theorem find?_unique {l : List Nat} {p : Nat → Bool} (member : id ∈ l)
    (holds : p id = true) (only : ∀ other ∈ l, p other = true → other = id) :
    l.find? p = some id := by
  cases found : l.find? p with
  | none => exact absurd holds (List.find?_eq_none.mp found id member)
  | some other =>
      rw [only other (List.mem_of_find?_eq_some found)
        (List.find?_some found)]

theorem Agrees.isOldest (agrees : s.Agrees q) (aged : s.Aged)
    (isTop : s.heap[0]? = some top) (current : s.heapEntryCurrent top = true) :
    q.IsOldest top.regionId ∧ q.time top.regionId = top.enqueuedNs ∧
      top.regionId < s.capacity := by
  simp only [heapEntryCurrent, Bool.and_eq_true, decide_eq_true_eq] at current
  obtain ⟨⟨⟨inside, queued⟩, -⟩, sameAge⟩ := current
  have time := agrees.time aged queued
  rw [sameAge] at time
  refine ⟨⟨(agrees.member _).trans queued, fun other _ isMember => ?_⟩, time,
    inside⟩
  have otherQueued := (agrees.member other).symm.trans isMember
  obtain ⟨i, found⟩ := Array.mem_iff_getElem?.mp (aged.held other otherQueued)
  have least := aged.ordered.top_least orders_less i
  rw [BinaryHeap.lessAt, found, isTop, ← Bool.not_eq_true, less_iff] at least
  rw [time, agrees.time aged otherQueued]
  change ¬(s.enqueuedNs other < top.enqueuedNs ∨
    s.enqueuedNs other = top.enqueuedNs ∧ other < top.regionId) at least
  omega

theorem isOldest_unique {id other : Nat} (oldest : q.IsOldest id)
    (inside : id < q.capacity) (otherOldest : q.IsOldest other)
    (otherInside : other < q.capacity) : other = id := by
  have first := oldest.2 other otherInside otherOldest.1
  have second := otherOldest.2 id inside oldest.1
  omega

theorem Agrees.oldest (agrees : s.Agrees q) (aged : s.Aged)
    (isTop : s.heap[0]? = some top) (current : s.heapEntryCurrent top = true) :
    q.oldest = some top.regionId := by
  obtain ⟨oldest, -, inside⟩ := agrees.isOldest aged isTop current
  rw [← agrees.capacity] at inside
  refine find?_unique (List.mem_range.mpr inside) (decide_eq_true oldest) ?_
  intro other member isOldest
  exact isOldest_unique oldest inside (of_decide_eq_true isOldest)
    (List.mem_range.mp member)

/-! ## The round -/

theorem round_eq (q : RegionSet) (cursor : Nat) (some : 0 < q.capacity) :
    q.round cursor =
      List.range' ((cursor + 1) % q.capacity)
          (q.capacity - (cursor + 1) % q.capacity) ++
        List.range' 0 ((cursor + 1) % q.capacity) := by
  have start := Nat.mod_lt (cursor + 1) some
  apply List.ext_getElem
  · simp [RegionSet.round]
    omega
  · intro k inside _
    simp only [RegionSet.round, List.length_map, List.length_range] at inside
    rw [List.getElem_append]
    simp only [RegionSet.round, List.getElem_map, List.getElem_range,
      List.getElem_range', List.length_range', Nat.one_mul]
    rw [Nat.add_mod, Nat.mod_eq_of_lt inside]
    split
    · rename_i high
      exact Nat.mod_eq_of_lt (by omega)
    · rename_i low
      rw [Nat.mod_eq_sub_mod (by omega), Nat.mod_eq_of_lt (by omega)]
      omega

theorem find?_of_isLeast {words : Bitmap} {start finish : Nat}
    {result : Option Nat} (least : words.IsLeast start finish result) :
    (List.range' start (finish - start)).find? words.test = result := by
  cases result with
  | none =>
      refine List.find?_range'_eq_none.mpr fun id low high => ?_
      rw [least id low (by omega)]
      rfl
  | some id =>
      obtain ⟨test, low, high, before⟩ := least
      refine List.find?_range'_eq_some.mpr ⟨test, ?_, fun other above below => ?_⟩
      · exact List.mem_range'_1.mpr ⟨low, by omega⟩
      · rw [before other above below]
        rfl

theorem Agrees.findNextQueued (agrees : s.Agrees q) (sound : s.Sound)
    (busy : s.count ≠ 0) (cursor : Nat) :
    s.findNextQueued cursor = q.next cursor := by
  obtain ⟨id, queued⟩ := sound.count_pos_iff.mp (Nat.pos_of_ne_zero busy)
  have some : 0 < s.capacity := Nat.zero_lt_of_lt (sound.inside id queued)
  have start := Nat.mod_lt (cursor + 1) some
  have tests : q.member = s.queuedBits.test := by
    funext other
    rw [agrees.member, sound.bits]
  have leastHigh : s.queuedBits.IsLeast ((cursor + 1) % s.capacity) s.capacity
      _ := Bitmap.scan_isLeast (Nat.le_refl s.capacity)
  have leastLow : s.queuedBits.IsLeast 0 ((cursor + 1) % s.capacity) _ :=
    Bitmap.scan_isLeast (Nat.le_of_lt start)
  have high := find?_of_isLeast leastHigh
  have low := find?_of_isLeast leastLow
  rw [DirtyRegionScheduler.findNextQueued, if_neg busy, RegionSet.next,
    round_eq q cursor (agrees.capacity ▸ some), agrees.capacity, tests,
    List.find?_append, high]
  rw [Nat.sub_zero] at low
  rw [low]
  cases s.queuedBits.scan s.capacity ((cursor + 1) % s.capacity) s.capacity <;>
    rfl

/-! ## Operations -/

structure Stands (s : DirtyRegionScheduler) (q : RegionSet) : Prop where
  sound : s.Sound
  aged : s.Aged
  agrees : s.Agrees q

/-- A clock at zero counts as one, since an age of zero means none. -/
def clockStamp (now : Nat) : Nat :=
  if now ≠ 0 then now else 1

theorem ageFor_eq (s : DirtyRegionScheduler) (id now : Nat) :
    s.ageFor id now = (s.age id).getD (clockStamp now) := by
  unfold ageFor age clockStamp
  by_cases fresh : s.enqueuedNs id = 0 <;> simp [fresh]

theorem ageFor_ne_zero (s : DirtyRegionScheduler) (id now : Nat) :
    s.ageFor id now ≠ 0 := by
  unfold ageFor
  split
  · assumption
  split
  · assumption
  · exact Nat.one_ne_zero

theorem Stands.refused (stands : s.Stands q) (idle : s.queued id ≠ true)
    (serial : Nat) :
    Stands { s with serial := Function.update s.serial id serial } q where
  sound := ⟨stands.sound.counted, stands.sound.bits, stands.sound.inside⟩
  aged := by
    refine ⟨stands.aged.ordered, fun other queued => ?_, stands.aged.aged⟩
    have differs : other ≠ id := fun same => idle (same ▸ queued)
    rw [entryOf]
    change ⟨s.enqueuedNs other, Function.update s.serial id serial other, other⟩ ∈
      s.heap
    rw [Function.update_of_ne differs]
    exact stands.aged.held other queued
  agrees := ⟨stands.agrees.capacity, stands.agrees.starvationNs,
    stands.agrees.member, stands.agrees.since⟩

theorem Stands.enter (stands : s.Stands q) (inside : id < s.capacity)
    (idle : s.queued id ≠ true) (now : Nat) :
    Stands (s.enqueue id now true).1 (q.enqueue clockStamp id now true).1 := by
  have sound := stands.sound.enqueue id now
  have outside : ¬id ≥ q.capacity := by
    rw [stands.agrees.capacity]
    omega
  have absent : ¬q.member id = true := by rwa [stands.agrees.member]
  have grown : ¬(!true) = true := by decide
  rw [RegionSet.enqueue, if_neg outside, if_neg absent, if_neg grown]
  rw [enqueue, if_neg (Nat.not_le.mpr inside), if_neg idle, if_neg grown]
    at sound ⊢
  refine ⟨sound, ⟨?_, ?_, ?_⟩, ⟨stands.agrees.capacity,
    stands.agrees.starvationNs, ?_, ?_⟩⟩
  · rw [heapPush_eq]
    exact stands.aged.ordered.push orders_less _
  · intro other queued
    rw [heapPush_eq, BinaryHeap.mem_push]
    by_cases same : other = id
    · right
      subst same
      simp [entryOf]
    · left
      have before : s.queued other = true := by simpa [same] using queued
      have held := stands.aged.held other before
      simpa [entryOf, same] using held
  · intro other queued
    by_cases same : other = id
    · subst same
      simpa using ageFor_ne_zero s other now
    · have before : s.queued other = true := by simpa [same] using queued
      simpa [same] using stands.aged.aged other before
  · intro other
    by_cases same : other = id
    · simp [same]
    · simpa [same] using stands.agrees.member other
  · intro other
    by_cases same : other = id
    · subst same
      have positive := ageFor_ne_zero s other now
      rw [age]
      simp [stands.agrees.since, ageFor_eq] at positive ⊢
      simp [positive]
    · simpa [same, age] using stands.agrees.since other

theorem Stands.enqueue (stands : s.Stands q) (id now : Nat) (grows : Bool) :
    Stands (s.enqueue id now grows).1 (q.enqueue clockStamp id now grows).1 ∧
      (s.enqueue id now grows).2 = (q.enqueue clockStamp id now grows).2 := by
  by_cases outside : id ≥ s.capacity
  · rw [DirtyRegionScheduler.enqueue, if_pos outside, RegionSet.enqueue,
      if_pos (stands.agrees.capacity ▸ outside)]
    exact ⟨stands, rfl⟩
  have outsideSet : ¬id ≥ q.capacity := stands.agrees.capacity ▸ outside
  by_cases queued : s.queued id = true
  · rw [DirtyRegionScheduler.enqueue, if_neg outside, if_pos queued,
      RegionSet.enqueue, if_neg outsideSet,
      if_pos ((stands.agrees.member id).trans queued)]
    exact ⟨stands, rfl⟩
  have absent : ¬q.member id = true := by rwa [stands.agrees.member]
  cases grows with
  | false =>
      have stuck : (!false) = true := rfl
      rw [DirtyRegionScheduler.enqueue, if_neg outside, if_neg queued,
        if_pos stuck, RegionSet.enqueue, if_neg outsideSet, if_neg absent,
        if_pos stuck]
      exact ⟨stands.refused queued _, rfl⟩
  | true =>
      refine ⟨stands.enter (Nat.lt_of_not_le outside) queued now, ?_⟩
      have grown : ¬(!true) = true := by decide
      rw [DirtyRegionScheduler.enqueue, if_neg outside, if_neg queued,
        if_neg grown, RegionSet.enqueue, if_neg outsideSet, if_neg absent,
        if_neg grown]

theorem Stands.unqueue (stands : s.Stands q) (queued : s.queued id = true) :
    Stands (s.unqueue id) (q.remove id) := by
  have was : ∀ other, (s.unqueue id).queued other = true →
      s.queued other = true := by
    intro other still
    rw [unqueue_queued, Bool.and_eq_true] at still
    exact still.1
  refine ⟨stands.sound.unqueue queued, ⟨stands.aged.ordered,
    fun other still => stands.aged.held other (was other still),
    fun other still => stands.aged.aged other (was other still)⟩,
    ⟨stands.agrees.capacity, stands.agrees.starvationNs, fun other => ?_,
      stands.agrees.since⟩⟩
  by_cases same : other = id
  · simp [RegionSet.remove, DirtyRegionScheduler.unqueue, same]
  · simpa [RegionSet.remove, DirtyRegionScheduler.unqueue, same] using
      stands.agrees.member other

theorem Stands.selected (stands : s.Stands q) (busy : s.count ≠ 0)
    (current : ∀ top, s.heap[0]? = some top → s.heapEntryCurrent top = true)
    (cursor now : Nat) :
    (s.starving now).orElse (fun _ => s.findNextQueued cursor) =
      q.choice cursor now := by
  obtain ⟨id, queued⟩ := stands.sound.count_pos_iff.mp (Nat.pos_of_ne_zero busy)
  obtain ⟨i, found⟩ := Array.mem_iff_getElem?.mp (stands.aged.held id queued)
  have inside := (Array.getElem?_eq_some_iff.mp found).1
  have isTop : s.heap[0]? = some s.heap[0] :=
    Array.getElem?_eq_getElem (Nat.zero_lt_of_lt inside)
  obtain ⟨-, time, -⟩ := stands.agrees.isOldest stands.aged isTop
    (current _ isTop)
  rw [starving, RegionSet.choice,
    stands.agrees.oldest stands.aged isTop (current _ isTop), isTop]
  dsimp only
  have starves : q.Starves s.heap[0].regionId now ↔ s.starvationNs ≠ 0 ∧
      now ≥ s.heap[0].enqueuedNs ∧
      now - s.heap[0].enqueuedNs ≥ s.starvationNs := by
    rw [← stands.agrees.starvationNs, ← time]
    rfl
  by_cases waits : q.Starves s.heap[0].regionId now
  · rw [if_pos (starves.mp waits), if_pos waits]
    rfl
  · rw [if_neg (starves.not.mp waits), if_neg waits]
    exact stands.agrees.findNextQueued stands.sound busy cursor

theorem Stands.idle_choice (stands : s.Stands q) (idle : s.count = 0)
    (cursor now : Nat) : q.choice cursor now = none := by
  have none : q.oldest = none := by
    refine List.find?_eq_none.mpr fun id _ isOldest => ?_
    have member := (of_decide_eq_true isOldest).1
    rw [stands.agrees.member, stands.sound.not_queued idle id] at member
    cases member
  rw [RegionSet.choice, none]

theorem Stands.take (stands : s.Stands q) (cursor now : Nat) :
    Stands (s.take cursor now).1 (q.take cursor now).1 ∧
      (s.take cursor now).2 = (q.take cursor now).2 := by
  by_cases idle : s.count = 0
  · rw [DirtyRegionScheduler.take, if_pos idle, RegionSet.take,
      stands.idle_choice idle]
    exact ⟨stands, rfl⟩
  obtain ⟨heap, pruned, current⟩ := heapPruneFrom_eq s.heap.size s
  have agedPruned := stands.aged.heapPruneFrom stands.sound s.heap.size
  rw [pruned] at agedPruned
  have standing : Stands { s with heap := heap } q :=
    ⟨⟨stands.sound.counted, stands.sound.bits, stands.sound.inside⟩, agedPruned,
      ⟨stands.agrees.capacity, stands.agrees.starvationNs, stands.agrees.member,
        stands.agrees.since⟩⟩
  have busy : { s with heap := heap }.count ≠ 0 := idle
  have selected := standing.selected busy (current (Nat.le_refl _)) cursor now
  rw [DirtyRegionScheduler.take, if_neg idle, heapPrune, pruned, selected,
    RegionSet.take]
  cases choice : q.choice cursor now with
  | none => exact ⟨standing, rfl⟩
  | some id =>
      have queued : { s with heap := heap }.queued id = true := by
        rcases first : { s with heap := heap }.starving now with _ | other
        · obtain ⟨other, found, isQueued⟩ :=
            standing.sound.findNextQueued_queued (Nat.pos_of_ne_zero busy) cursor
          rw [first, found, choice] at selected
          exact (Option.some.inj selected) ▸ isQueued
        · have isQueued := starving_queued (current (Nat.le_refl _)) first
          rw [first, choice] at selected
          exact (Option.some.inj selected) ▸ isQueued
      rw [takeSelected_queued queued]
      exact ⟨standing.unqueue queued, rfl⟩

theorem Stands.forget (stands : s.Stands q) (id : Nat) :
    Stands (s.forget id) (q.forget id) := by
  by_cases outside : id ≥ s.capacity
  · rw [DirtyRegionScheduler.forget, if_pos outside, RegionSet.forget,
      if_pos (stands.agrees.capacity ▸ outside)]
    exact stands
  have sound := stands.sound.forget id
  have queued := stands.sound.forget_queued id
  have heap : (s.forget id).heap = s.heap := by
    rw [DirtyRegionScheduler.forget, if_neg outside]
    dsimp only
    split <;> rfl
  have kept : ∀ other, other ≠ id →
      (s.forget id).enqueuedNs other = s.enqueuedNs other ∧
        (s.forget id).serial other = s.serial other := by
    intro other differs
    rw [DirtyRegionScheduler.forget, if_neg outside]
    dsimp only
    split <;>
      exact ⟨Function.update_of_ne differs _ _, Function.update_of_ne differs _ _⟩
  have cleared : (s.forget id).enqueuedNs id = 0 := by
    rw [DirtyRegionScheduler.forget, if_neg outside]
    dsimp only
    split <;> exact Function.update_self _ _ _
  have was : ∀ other, (s.forget id).queued other = true →
      s.queued other = true ∧ other ≠ id := by
    intro other still
    rw [queued, Bool.and_eq_true, bne_iff_ne] at still
    exact still
  have capacity : (s.forget id).capacity = s.capacity := forget_capacity s id
  have starvationNs : (s.forget id).starvationNs = s.starvationNs := by
    rw [DirtyRegionScheduler.forget, if_neg outside]
    dsimp only
    split <;> rfl
  rw [RegionSet.forget, if_neg (stands.agrees.capacity ▸ outside)]
  refine ⟨sound, ⟨heap ▸ stands.aged.ordered, fun other still => ?_,
    fun other still => ?_⟩, ⟨stands.agrees.capacity.trans capacity.symm,
      stands.agrees.starvationNs.trans starvationNs.symm, fun other => ?_,
      fun other => ?_⟩⟩
  · obtain ⟨before, differs⟩ := was other still
    rw [entryOf, (kept other differs).1, (kept other differs).2, heap]
    exact stands.aged.held other before
  · obtain ⟨before, differs⟩ := was other still
    rw [(kept other differs).1]
    exact stands.aged.aged other before
  · rw [queued]
    by_cases same : other = id
    · simp [RegionSet.remove, same]
    · have differs : (other != id) = true := bne_iff_ne.mpr same
      rw [differs, Bool.and_true, ← stands.agrees.member]
      simp [RegionSet.remove, same]
  · by_cases same : other = id
    · subst same
      simp [age, cleared]
    · rw [age, (kept other same).1]
      simpa [same, age] using stands.agrees.since other

theorem Stands.reset (stands : s.Stands q) : Stands s.reset q.reset where
  sound := sound_reset s
  aged := by
    refine ⟨fun i _ => BinaryHeap.lessAt_outside (Nat.zero_le i),
      fun id queued => ?_, fun id queued => ?_⟩
    · cases queued
    · cases queued
  agrees := ⟨stands.agrees.capacity, stands.agrees.starvationNs, fun _ => rfl,
    fun _ => rfl⟩

theorem stands_create (capacity starvationNs : Nat) :
    Stands (create capacity starvationNs)
      (RegionSet.create capacity starvationNs) where
  sound := sound_create capacity starvationNs
  aged := by
    refine ⟨fun i _ => BinaryHeap.lessAt_outside (Nat.zero_le i),
      fun id queued => ?_, fun id queued => ?_⟩
    · cases queued
    · cases queued
  agrees := ⟨rfl, rfl, fun _ => rfl, fun _ => rfl⟩

end DirtyRegionScheduler

/-! ## Whole runs -/

inductive SchedulerEvent where
  | enqueue (id now : Nat) (grows : Bool)
  | take (cursor now : Nat)
  | forget (id : Nat)
  | reset
  deriving DecidableEq, Repr

inductive SchedulerAnswer where
  | enqueued (accepted : Bool)
  | taken (region : Option Nat)
  | done
  deriving DecidableEq, Repr

def SchedulerEvent.onScheduler (s : DirtyRegionScheduler) :
    SchedulerEvent → DirtyRegionScheduler × SchedulerAnswer
  | .enqueue id now grows =>
      ((s.enqueue id now grows).1, .enqueued (s.enqueue id now grows).2)
  | .take cursor now => ((s.take cursor now).1, .taken (s.take cursor now).2)
  | .forget id => (s.forget id, .done)
  | .reset => (s.reset, .done)

def SchedulerEvent.onSet (stamp : Nat → Nat) (q : RegionSet) :
    SchedulerEvent → RegionSet × SchedulerAnswer
  | .enqueue id now grows =>
      ((q.enqueue stamp id now grows).1,
        .enqueued (q.enqueue stamp id now grows).2)
  | .take cursor now => ((q.take cursor now).1, .taken (q.take cursor now).2)
  | .forget id => (q.forget id, .done)
  | .reset => (q.reset, .done)

def SchedulerEvent.enters (s : DirtyRegionScheduler) :
    SchedulerEvent → List Nat
  | .enqueue id now grows =>
      if !s.queued id && (s.enqueue id now grows).2 then [id] else []
  | _ => []

structure SchedulerRun where
  scheduler : DirtyRegionScheduler
  answers : List SchedulerAnswer
  entered : List Nat

def SchedulerRun.step (run : SchedulerRun) (event : SchedulerEvent) :
    SchedulerRun where
  scheduler := (event.onScheduler run.scheduler).1
  answers := run.answers ++ [(event.onScheduler run.scheduler).2]
  entered := run.entered ++ event.enters run.scheduler

def schedulerRun (capacity starvationNs : Nat) (events : List SchedulerEvent) :
    SchedulerRun :=
  runFrom SchedulerRun.step ⟨.create capacity starvationNs, [], []⟩ events

def setStep (stamp : Nat → Nat) (run : RegionSet × List SchedulerAnswer)
    (event : SchedulerEvent) : RegionSet × List SchedulerAnswer :=
  ((event.onSet stamp run.1).1, run.2 ++ [(event.onSet stamp run.1).2])

def setRun (stamp : Nat → Nat) (capacity starvationNs : Nat)
    (events : List SchedulerEvent) : RegionSet × List SchedulerAnswer :=
  runFrom (setStep stamp) (.create capacity starvationNs, []) events

open DirtyRegionScheduler in
theorem stands_step {s : DirtyRegionScheduler} {q : RegionSet}
    (stands : s.Stands q) (event : SchedulerEvent) :
    Stands (event.onScheduler s).1 (event.onSet clockStamp q).1 ∧
      (event.onScheduler s).2 = (event.onSet clockStamp q).2 := by
  cases event with
  | enqueue id now grows =>
      obtain ⟨stands', same⟩ := stands.enqueue id now grows
      exact ⟨stands', congrArg SchedulerAnswer.enqueued same⟩
  | take cursor now =>
      obtain ⟨stands', same⟩ := stands.take cursor now
      exact ⟨stands', congrArg SchedulerAnswer.taken same⟩
  | forget id => exact ⟨stands.forget id, rfl⟩
  | reset => exact ⟨stands.reset, rfl⟩

def DirtyRegionScheduler.presence (s : DirtyRegionScheduler) (id : Nat) : Nat :=
  if s.queued id then 1 else 0

open DirtyRegionScheduler in
theorem presence_step {s : DirtyRegionScheduler} (sound : s.Sound)
    (event : SchedulerEvent) (id : Nat) :
    [(event.onScheduler s).2].count (.taken (some id)) +
        (event.onScheduler s).1.presence id ≤
      s.presence id + (event.enters s).count id := by
  cases event with
  | enqueue other now grows =>
      simp only [SchedulerEvent.onScheduler, SchedulerEvent.enters, presence,
        DirtyRegionScheduler.enqueue]
      split
      · simp
      split
      · rename_i queued
        simp [queued]
      split
      · simp
      · rename_i queued _
        by_cases same : id = other
        · subst same
          simp [queued]
        · simp [same, queued, Ne.symm same]
  | take cursor now =>
      rcases sound.take_cases cursor now with ⟨-, none⟩ | ⟨heap, other, queued, some⟩
      · simp [SchedulerEvent.onScheduler, SchedulerEvent.enters, none]
      · simp only [SchedulerEvent.onScheduler, SchedulerEvent.enters, some,
          presence, unqueue_queued]
        by_cases same : other = id
        · subst same
          simp [queued]
        · simp [same, Ne.symm same]
  | forget other =>
      simp only [SchedulerEvent.onScheduler, SchedulerEvent.enters, presence,
        sound.forget_queued]
      cases s.queued id <;> cases id != other <;> simp
  | reset => simp [SchedulerEvent.onScheduler, presence, DirtyRegionScheduler.reset]

structure SchedulerLaw (run : SchedulerRun)
    (spec : RegionSet × List SchedulerAnswer) : Prop where
  /-- Each call has answered as the set does. -/
  answers : run.answers = spec.2
  flags : ∀ id, run.scheduler.queued id = spec.1.member id
  bitmap : ∀ id, run.scheduler.queuedBits.test id = spec.1.member id
  count : run.scheduler.count =
    (List.range run.scheduler.capacity).countP spec.1.member
  inside : ∀ id, spec.1.member id = true → id < run.scheduler.capacity
  ages : ∀ id, run.scheduler.age id = spec.1.since id
  /-- The next take succeeds exactly when the set is not empty. -/
  takes : ∀ cursor now, (run.scheduler.take cursor now).2.isSome = true ↔
    ∃ id, spec.1.member id = true
  /-- A region was not returned more often than it was put in. -/
  returned : ∀ id, run.answers.count (.taken (some id)) +
    run.scheduler.presence id ≤ run.entered.count id

open DirtyRegionScheduler in
/--
In every run the scheduler answers as a set of regions with the times of their
first enqueue, where a clock at zero counts as one.
-/
theorem schedulerLaw_of_run (capacity starvationNs : Nat)
    (events : List SchedulerEvent) :
    SchedulerLaw (schedulerRun capacity starvationNs events)
      (setRun clockStamp capacity starvationNs events) := by
  have reached : ∀ (run : SchedulerRun) spec,
      Stands run.scheduler spec.1 → run.answers = spec.2 →
      (∀ id, run.answers.count (.taken (some id)) + run.scheduler.presence id ≤
        run.entered.count id) →
      Stands (runFrom SchedulerRun.step run events).scheduler
          (runFrom (setStep clockStamp) spec events).1 ∧
        (runFrom SchedulerRun.step run events).answers =
          (runFrom (setStep clockStamp) spec events).2 ∧
        ∀ id, (runFrom SchedulerRun.step run events).answers.count
            (.taken (some id)) +
          (runFrom SchedulerRun.step run events).scheduler.presence id ≤
            (runFrom SchedulerRun.step run events).entered.count id := by
    induction events with
    | nil => exact fun run spec stands same returned => ⟨stands, same, returned⟩
    | cons event rest ih =>
        intro run spec stands same returned
        obtain ⟨stands', answer⟩ := stands_step stands event
        refine ih (run.step event) (setStep clockStamp spec event) stands' ?_ ?_
        · rw [SchedulerRun.step, setStep, same, answer]
        · intro id
          have before := returned id
          have now := presence_step stands.sound event id
          simp only [SchedulerRun.step, List.count_append]
          omega
  obtain ⟨stands, same, returned⟩ := reached ⟨.create capacity starvationNs, [],
    []⟩ (.create capacity starvationNs, []) (stands_create capacity starvationNs)
    rfl fun id => by simp [presence, create]
  change Stands (schedulerRun capacity starvationNs events).scheduler
    (setRun clockStamp capacity starvationNs events).1 at stands
  refine ⟨same, fun id => (stands.agrees.member id).symm,
    fun id => (stands.sound.bits id).trans (stands.agrees.member id).symm, ?_,
    fun id member => stands.sound.inside id
      ((stands.agrees.member id).symm.trans member),
    fun id => (stands.agrees.since id).symm, fun cursor now => ?_, returned⟩
  · rw [stands.sound.counted]
    exact List.countP_congr fun id _ => by rw [stands.agrees.member]
  · have members : (∃ id, (setRun clockStamp capacity starvationNs
        events).1.member id = true) ↔
        0 < (schedulerRun capacity starvationNs events).scheduler.count := by
      rw [stands.sound.count_pos_iff]
      exact exists_congr fun id => by rw [stands.agrees.member]
    rw [members]
    rcases stands.sound.take_cases cursor now with ⟨idle, none⟩ |
      ⟨heap, id, queued, some⟩
    · rw [none]
      exact iff_of_false Bool.false_ne_true (by omega)
    · rw [some]
      exact iff_of_true rfl (stands.sound.count_pos_iff.mpr ⟨id, queued⟩)

def enqueuedAtZero : List SchedulerEvent :=
  [.enqueue 5 0 true, .enqueue 3 1 true, .take 3 11]

/-- By the times of the calls region 5 is older, and region 3 is taken. -/
theorem enqueuedAtZero_answers :
    (schedulerRun 8 10 enqueuedAtZero).answers =
        [.enqueued true, .enqueued true, .taken (some 3)] ∧
      (setRun id 8 10 enqueuedAtZero).2 =
        [.enqueued true, .enqueued true, .taken (some 5)] := by
  decide +kernel

end WayDisplay.Server
