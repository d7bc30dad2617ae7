import Mathlib.Algebra.Order.Ring.Nat
import Mathlib.Data.List.Basic
import Mathlib.Data.List.Nodup

/-!
A byte stream that carries whole frames in first-in, first-out order.

Frames are admitted to a queue, the bytes of the frame at the head move to the
wire in one or more pieces, and the head leaves the queue once all of its bytes
have moved.  A frame may also be withdrawn.  The stream keeps its framing as
long as no frame is withdrawn after one of its bytes reached the wire.
-/

namespace WayDisplay.Foundation

universe u

variable {α : Type u}

/-- A frame in the queue; `sent` of its bytes are on the wire. -/
structure QueuedFrame (α : Type u) where
  key : Nat
  body : List α
  sent : Nat
  deriving DecidableEq, Repr

structure Withdrawal where
  key : Nat
  sent : Nat
  position : Nat
  deriving DecidableEq, Repr

structure FramedStream (α : Type u) where
  nextKey : Nat
  wire : List α
  queue : List (QueuedFrame α)
  admitted : List (Nat × List α)
  finished : List (Nat × List α)
  withdrawn : List Withdrawal
  deriving DecidableEq, Repr

namespace FramedStream

def empty (nextKey : Nat) : FramedStream α :=
  ⟨nextKey, [], [], [], [], []⟩

def push (stream : FramedStream α) (body : List α) : FramedStream α :=
  { stream with
    nextKey := stream.nextKey + 1
    queue := stream.queue ++ [⟨stream.nextKey, body, 0⟩]
    admitted := stream.admitted ++ [(stream.nextKey, body)] }

def accept (stream : FramedStream α) (count : Nat) : FramedStream α :=
  match stream.queue with
  | [] => stream
  | head :: rest =>
      { stream with
        wire := stream.wire ++ (head.body.drop head.sent).take count
        queue := { head with sent := head.sent + count } :: rest }

def finish (stream : FramedStream α) : FramedStream α :=
  match stream.queue with
  | [] => stream
  | head :: rest =>
      { stream with
        queue := rest
        finished := stream.finished ++ [(head.key, head.body)] }

def withdraw (stream : FramedStream α) (frame : QueuedFrame α) :
    FramedStream α :=
  { stream with
    queue := stream.queue.filter fun other => other.key ≠ frame.key
    withdrawn :=
      stream.withdrawn ++ [⟨frame.key, frame.sent, stream.wire.length⟩] }

def kept (stream : FramedStream α) : List (Nat × List α) :=
  stream.admitted.filter fun frame =>
    stream.withdrawn.all fun w => w.key ≠ frame.1 || w.sent ≠ 0

/--
The wire is a prefix of the kept frames, and nothing follows a frame that was
cut off in the middle.
-/
def Framed (stream : FramedStream α) : Prop :=
  stream.wire <+: (stream.kept.map Prod.snd).flatten ∧
    ∀ w ∈ stream.withdrawn, 0 < w.sent → stream.wire.length = w.position

def entries (stream : FramedStream α) : List (Nat × List α) :=
  stream.queue.map fun frame => (frame.key, frame.body)

def headSent : List (QueuedFrame α) → List α
  | [] => []
  | head :: _ => head.body.take head.sent

structure Intact (stream : FramedStream α) : Prop where
  withdrawnUnsent : ∀ w ∈ stream.withdrawn, w.sent = 0
  keptOrder : stream.kept = stream.finished ++ stream.entries
  wireBytes :
    stream.wire =
      (stream.finished.map Prod.snd).flatten ++ headSent stream.queue
  tailUnsent : ∀ frame ∈ stream.queue.tail, frame.sent = 0
  keysDistinct : (stream.admitted.map Prod.fst).Nodup
  keysOld : ∀ frame ∈ stream.admitted, frame.1 < stream.nextKey
  withdrawnOld : ∀ w ∈ stream.withdrawn, w.key < stream.nextKey

theorem headSent_isInitial (queue : List (QueuedFrame α)) :
    headSent queue <+: (queue.map QueuedFrame.body).flatten := by
  cases queue with
  | nil => simp [headSent]
  | cons head rest =>
      simp only [headSent, List.map_cons, List.flatten_cons]
      exact (List.take_prefix _ _).trans (List.prefix_append _ _)

variable {stream : FramedStream α}

theorem Intact.framed (intact : stream.Intact) :
    stream.Framed := by
  constructor
  · rw [intact.keptOrder, intact.wireBytes]
    simp only [List.map_append, List.flatten_append, entries, List.map_map]
    exact List.prefix_append_right_inj _ |>.mpr
      (headSent_isInitial stream.queue)
  · intro w member positive
    have unsent := intact.withdrawnUnsent w member
    omega

theorem intact_empty (nextKey : Nat) :
    (empty nextKey : FramedStream α).Intact := by
  constructor <;> simp [empty, kept, entries, headSent]

theorem Intact.push (intact : stream.Intact) (body : List α) :
    (stream.push body).Intact := by
  have keptPush :
      (stream.push body).kept = stream.kept ++ [(stream.nextKey, body)] := by
    simp only [kept, FramedStream.push, List.filter_append]
    congr 1
    simp only [List.filter_cons, List.filter_nil]
    rw [if_pos]
    simp only [List.all_eq_true, Bool.or_eq_true, decide_eq_true_eq]
    intro w member
    exact Or.inl (Nat.ne_of_lt (intact.withdrawnOld w member))
  constructor
  · exact intact.withdrawnUnsent
  · rw [keptPush, intact.keptOrder]
    simp [entries, FramedStream.push]
  · cases hqueue : stream.queue with
    | nil => simp [FramedStream.push, hqueue, headSent, intact.wireBytes]
    | cons head rest =>
        simp [FramedStream.push, hqueue, headSent, intact.wireBytes]
  · intro frame member
    cases hqueue : stream.queue with
    | nil => simp [FramedStream.push, hqueue] at member
    | cons head rest =>
        simp only [FramedStream.push, hqueue, List.cons_append, List.tail_cons,
          List.mem_append, List.mem_singleton] at member
        rcases member with old | rfl
        · exact intact.tailUnsent frame (by simpa [hqueue] using old)
        · rfl
  · simp only [FramedStream.push, List.map_append, List.map_cons, List.map_nil]
    refine List.nodup_append.mpr ⟨intact.keysDistinct, by simp, ?_⟩
    intro key old key' new
    simp only [List.mem_singleton] at new
    obtain ⟨frame, member, rfl⟩ := List.mem_map.mp old
    exact new ▸ Nat.ne_of_lt (intact.keysOld frame member)
  · intro frame member
    simp only [FramedStream.push, List.mem_append, List.mem_singleton] at member ⊢
    rcases member with old | rfl
    · exact Nat.lt_succ_of_lt (intact.keysOld frame old)
    · exact Nat.lt_succ_self _
  · intro w member
    exact Nat.lt_succ_of_lt (intact.withdrawnOld w member)

theorem Intact.accept (intact : stream.Intact) (count : Nat) :
    (stream.accept count).Intact := by
  cases hqueue : stream.queue with
  | nil => simpa [FramedStream.accept, hqueue] using intact
  | cons head rest =>
      have wireBytes := intact.wireBytes
      simp only [hqueue, headSent] at wireBytes
      simp only [FramedStream.accept, hqueue]
      refine ⟨intact.withdrawnUnsent, ?_, ?_, ?_, intact.keysDistinct,
        intact.keysOld, intact.withdrawnOld⟩
      · have order := intact.keptOrder
        simpa [kept, entries, hqueue] using order
      · simp only [headSent, wireBytes, List.append_assoc, List.take_add]
      · simpa [hqueue] using intact.tailUnsent

theorem headSent_eq_nil {queue : List (QueuedFrame α)}
    (unsent : ∀ frame ∈ queue, frame.sent = 0) : headSent queue = [] := by
  cases queue with
  | nil => rfl
  | cons head rest => simp [headSent, unsent head List.mem_cons_self]

theorem Intact.finish (intact : stream.Intact) {head : QueuedFrame α}
    {rest : List (QueuedFrame α)} (hqueue : stream.queue = head :: rest)
    (complete : head.body.length ≤ head.sent) : stream.finish.Intact := by
  have tailUnsent : ∀ frame ∈ rest, frame.sent = 0 := by
    simpa [hqueue] using intact.tailUnsent
  have wireBytes := intact.wireBytes
  simp only [hqueue, headSent, List.take_of_length_le complete] at wireBytes
  simp only [FramedStream.finish, hqueue]
  refine ⟨intact.withdrawnUnsent, ?_, ?_, ?_, intact.keysDistinct,
    intact.keysOld, intact.withdrawnOld⟩
  · have order := intact.keptOrder
    simpa [kept, entries, hqueue] using order
  · simp [headSent_eq_nil tailUnsent, wireBytes]
  · intro frame member
    exact tailUnsent frame (List.mem_of_mem_tail member)

theorem Intact.keptKeysDistinct (intact : stream.Intact) :
    ((stream.finished ++ stream.entries).map Prod.fst).Nodup := by
  rw [← intact.keptOrder]
  exact intact.keysDistinct.sublist (List.filter_sublist.map Prod.fst)

theorem kept_withdraw (stream : FramedStream α) {frame : QueuedFrame α}
    (unsent : frame.sent = 0) :
    (stream.withdraw frame).kept =
      stream.kept.filter fun other => other.1 ≠ frame.key := by
  simp only [kept, FramedStream.withdraw, List.filter_filter]
  congr 1
  funext other
  simp only [List.all_append, List.all_cons, List.all_nil, unsent]
  simp [Bool.and_comm, eq_comm]

theorem Intact.withdraw (intact : stream.Intact) {frame : QueuedFrame α}
    (member : frame ∈ stream.queue) (unsent : frame.sent = 0) :
    (stream.withdraw frame).Intact := by
  have distinct := intact.keptKeysDistinct
  rw [List.map_append, List.nodup_append] at distinct
  obtain ⟨-, entryKeys, disjoint⟩ := distinct
  have frameKey : frame.key ∈ stream.entries.map Prod.fst := by
    simp only [entries, List.map_map, List.mem_map]
    exact ⟨frame, member, rfl⟩
  have finishedKept :
      (stream.finished.filter fun other => other.1 ≠ frame.key) =
        stream.finished := by
    refine List.filter_eq_self.mpr fun other inFinished => ?_
    simpa using disjoint other.1 (List.mem_map_of_mem inFinished) _ frameKey
  refine ⟨?_, ?_, ?_, ?_, intact.keysDistinct, intact.keysOld, ?_⟩
  · intro w inWithdrawn
    simp only [FramedStream.withdraw, List.mem_append, List.mem_singleton]
      at inWithdrawn
    rcases inWithdrawn with old | rfl
    · exact intact.withdrawnUnsent w old
    · exact unsent
  · rw [kept_withdraw stream unsent, intact.keptOrder, List.filter_append,
      finishedKept]
    simp [entries, FramedStream.withdraw, List.filter_map, Function.comp_def]
  · rw [show (stream.withdraw frame).wire = stream.wire from rfl,
      intact.wireBytes]
    congr 1
    simp only [FramedStream.withdraw]
    cases hqueue : stream.queue with
    | nil => simp [hqueue] at member
    | cons head rest =>
        have tailUnsent : ∀ other ∈ rest, other.sent = 0 := by
          simpa [hqueue] using intact.tailUnsent
        by_cases same : head.key = frame.key
        · -- the head itself is withdrawn: keys are distinct, so it is `frame`
          have headIs : head = frame := by
            rw [hqueue, List.mem_cons] at member
            rcases member with isHead | inRest
            · exact isHead.symm
            · simp only [entries, hqueue, List.map_cons, List.nodup_cons,
                List.map_map, List.mem_map] at entryKeys
              exact False.elim (entryKeys.1 ⟨frame, inRest, same.symm⟩)
          rw [List.filter_cons_of_neg (by simp [same])]
          rw [headSent_eq_nil fun other inFilter =>
            tailUnsent other (List.mem_of_mem_filter inFilter)]
          simp [headSent, headIs, unsent]
        · rw [List.filter_cons_of_pos (by simpa using same)]
          rfl
  · intro other inTail
    refine intact.tailUnsent other ?_
    cases hqueue : stream.queue with
    | nil => simp [FramedStream.withdraw, hqueue] at inTail
    | cons head rest =>
        simp only [FramedStream.withdraw, hqueue, List.filter_cons] at inTail
        split at inTail
        · exact List.mem_of_mem_filter inTail
        · exact List.mem_of_mem_filter (List.mem_of_mem_tail inTail)
  · intro w inWithdrawn
    simp only [FramedStream.withdraw, List.mem_append, List.mem_singleton]
      at inWithdrawn
    rcases inWithdrawn with old | rfl
    · exact intact.withdrawnOld w old
    · have inAdmitted : frame.key ∈ stream.admitted.map Prod.fst := by
        have inKept : frame.key ∈ stream.kept.map Prod.fst := by
          rw [intact.keptOrder, List.map_append]
          exact List.mem_append_right _ frameKey
        exact (List.filter_sublist.map Prod.fst).subset inKept
      obtain ⟨admitted, inList, hkey⟩ := List.mem_map.mp inAdmitted
      exact hkey ▸ intact.keysOld admitted inList

end FramedStream

end WayDisplay.Foundation
