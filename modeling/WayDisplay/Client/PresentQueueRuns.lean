import Mathlib.Algebra.Order.Ring.Nat
import Mathlib.Data.List.Induction
import Mathlib.Data.List.Nodup
import WayDisplay.Client.PresentQueue
import WayDisplay.Foundation.Runs

/-!
The present queue over whole runs.

A replacement leaves the middle of the queue and stands at its end, so that the
last upload over a pixel is always the one accepted last.
-/

namespace WayDisplay.Client

open Common Foundation

variable {Pixel : Type} {upload : ClientTileUpload Pixel}

namespace ClientTileUpload

def key (upload : ClientTileUpload Pixel) : Rect × Nat :=
  (upload.rect, upload.ownershipEpoch)

theorem replaces_iff {other : ClientTileUpload Pixel} :
    upload.replaces other = true ↔ other.key = upload.key := by
  simp [replaces, key]

def lastCovering (point : Point) (uploads : List (ClientTileUpload Pixel)) :
    Option (ClientTileUpload Pixel) :=
  (uploads.filter (·.layer.covers point)).getLast?

def applied (image : Image Pixel) (uploads : List (ClientTileUpload Pixel)) :
    Image Pixel :=
  uploads.foldl (fun image upload => paint image upload.layer) image

theorem applied_of_lastCovering {image : Image Pixel} {point : Point}
    {uploads : List (ClientTileUpload Pixel)}
    (last : lastCovering point uploads = some upload) :
    applied image uploads point = upload.layer.value point := by
  induction uploads using List.reverseRecOn with
  | nil => cases last
  | append_singleton before final ih =>
      rw [applied, List.foldl_append, List.foldl_cons, List.foldl_nil, paint]
      rw [lastCovering, List.filter_append] at last
      by_cases covers : final.layer.covers point = true
      · rw [if_pos covers]
        simp only [List.filter_cons, covers, if_true, List.filter_nil,
          List.getLast?_concat, Option.some.injEq] at last
        rw [last]
      · rw [if_neg covers]
        simp only [List.filter_cons, covers, List.filter_nil, List.append_nil,
          Bool.false_eq_true, if_false] at last
        exact ih last

end ClientTileUpload

open ClientTileUpload

namespace ClientTilePresentQueue

variable {queue : ClientTilePresentQueue Pixel}

def sized (maxItems maxBytes : Nat) : ClientTilePresentQueue Pixel where
  maxItems := if maxItems = 0 then 1 else maxItems
  maxBytes := if maxBytes = 0 then 1 else maxBytes
  bytes := 0
  uploads := []

inductive Placing (queue : ClientTilePresentQueue Pixel)
    (upload : ClientTileUpload Pixel) :
    ClientTilePresentQueue Pixel × ClientTilePresentPushResult ×
      ClientTileUpload Pixel → Prop
  | refused {result : ClientTilePresentPushResult} (not : result ≠ .queued) :
      Placing queue upload (queue, result, upload)
  | replaced {before after : List (ClientTileUpload Pixel)}
      {old : ClientTileUpload Pixel}
      (split : queue.uploads = before ++ old :: after)
      (same : old.key = upload.key)
      (room : queue.bytes - old.byteSize + upload.byteSize ≤ queue.maxBytes) :
      Placing queue upload
        ((queue.remove before after old).append upload, .queued,
          upload.movedFrom)
  | appended (fresh : ∀ other ∈ queue.uploads, other.key ≠ upload.key)
      (items : queue.uploads.length < queue.maxItems)
      (room : queue.bytes + upload.byteSize ≤ queue.maxBytes) :
      Placing queue upload (queue.append upload, .queued, upload.movedFrom)

theorem splitLast_none {α : Type} {wanted : α → Bool} {items : List α}
    (none : splitLast wanted items = none) :
    ∀ item ∈ items, wanted item = false := by
  induction items with
  | nil => simp
  | cons item rest ih =>
      rw [splitLast] at none
      cases later : splitLast wanted rest with
      | some parts => simp [later] at none
      | none =>
          simp only [later, ite_eq_right_iff, reduceCtorEq, imp_false,
            Bool.not_eq_true] at none
          exact List.forall_mem_cons.mpr ⟨none, ih later⟩

theorem push_placing (queue : ClientTilePresentQueue Pixel)
    (upload : ClientTileUpload Pixel) :
    Placing queue upload (queue.push upload) := by
  unfold push
  by_cases unfit : (!upload.valid || upload.byteSize > queue.maxBytes) = true
  · rw [if_pos unfit]
    exact .refused (by decide)
  · rw [if_neg unfit]
    have fits : upload.byteSize ≤ queue.maxBytes := by
      simp only [Bool.or_eq_true, decide_eq_true_eq] at unfit
      omega
    cases found : splitLast upload.replaces queue.uploads with
    | some parts =>
        obtain ⟨before, old, after⟩ := parts
        obtain ⟨split, same⟩ := splitLast_eq_some found
        dsimp only
        split_ifs with older full
        · exact .refused (by decide)
        · exact .refused (by decide)
        · exact .replaced split (replaces_iff.mp same) (by omega)
    | none =>
        dsimp only
        split_ifs with full
        · exact .refused (by decide)
        · simp only [Bool.or_eq_true, decide_eq_true_eq] at full
          refine .appended (fun other member same => ?_) (by omega) (by omega)
          have unlike := splitLast_none found other member
          rw [replaces_iff.mpr same] at unlike
          cases unlike

/-! ## The limits -/

structure Bounded (queue : ClientTilePresentQueue Pixel) : Prop where
  bytes_eq : queue.bytes = (queue.uploads.map (·.byteSize)).sum
  items : queue.uploads.length ≤ queue.maxItems
  limit : queue.bytes ≤ queue.maxBytes
  distinct : (queue.uploads.map key).Nodup

theorem Bounded.push (bounded : queue.Bounded)
    (upload : ClientTileUpload Pixel) : (queue.push upload).1.Bounded := by
  obtain ⟨bytes_eq, items, limit, distinct⟩ := bounded
  have placing := push_placing queue upload
  generalize queue.push upload = outcome at placing ⊢
  cases placing with
  | refused => exact ⟨bytes_eq, items, limit, distinct⟩
  | @replaced before after old split same room =>
      rw [split] at bytes_eq items distinct
      simp only [List.map_append, List.map_cons, List.sum_append,
        List.sum_cons] at bytes_eq
      refine ⟨?_, ?_, room, ?_⟩
      · simp only [append, remove, List.map_append, List.map_cons, List.map_nil,
          List.sum_append, List.sum_cons, List.sum_nil]
        omega
      · simp only [append, remove, List.length_append, List.length_cons,
          List.length_nil] at items ⊢
        omega
      · -- The keys are those of before in another order.
        have moved : ((before ++ after ++ [upload]).map key).Perm
            ((before ++ old :: after).map key) := by
          simp only [List.map_append, List.map_cons, List.map_nil, same]
          rw [List.append_assoc]
          exact (List.perm_append_singleton _ _).append_left _
        exact moved.nodup_iff.mpr distinct
  | appended fresh room space =>
      refine ⟨?_, ?_, space, ?_⟩
      · simp [append, bytes_eq]
      · simp only [append, List.length_append, List.length_singleton]
        exact room
      · simp only [append, List.map_append, List.map_cons, List.map_nil]
        rw [← List.concat_eq_append]
        refine List.Nodup.concat (fun member => ?_) distinct
        obtain ⟨other, found, same⟩ := List.mem_map.mp member
        exact fresh other found same

/-! ## The pixels -/

/-- A push over a pixel takes its place behind every other upload over it. -/
theorem lastCovering_push (queue : ClientTilePresentQueue Pixel)
    (upload : ClientTileUpload Pixel) (point : Point) :
    lastCovering point (queue.push upload).1.uploads =
      if (queue.push upload).2.1 = .queued ∧ upload.layer.covers point = true then
        some upload
      else lastCovering point queue.uploads := by
  have placing := push_placing queue upload
  generalize queue.push upload = outcome at placing ⊢
  cases placing with
  | refused not => rw [if_neg fun queued => not queued.1]
  | @replaced before after old split same room =>
      have alike : old.layer.covers point = upload.layer.covers point := by
        simp only [layer, show old.rect = upload.rect from congrArg Prod.fst same]
      by_cases covers : upload.layer.covers point = true
      · simp [lastCovering, append, List.filter_append, covers]
      · simp [lastCovering, append, remove, List.filter_append, covers, split,
          alike]
  | appended fresh items room =>
      by_cases covers : upload.layer.covers point = true
      · simp [lastCovering, append, List.filter_append, covers]
      · simp [lastCovering, append, List.filter_append, covers]

theorem sublist_push {accepted : List (ClientTileUpload Pixel)}
    (sublist : queue.uploads.Sublist accepted)
    (upload : ClientTileUpload Pixel) :
    (queue.push upload).1.uploads.Sublist
      (if (queue.push upload).2.1 = .queued then accepted ++ [upload]
        else accepted) := by
  have placing := push_placing queue upload
  generalize queue.push upload = outcome at placing ⊢
  cases placing with
  | refused not => rwa [if_neg not]
  | @replaced before after old split same room =>
      rw [split] at sublist
      have others := (List.sublist_cons_self old after).append_left before
      exact (others.trans sublist).append_right [upload]
  | appended fresh items room => exact sublist.append_right [upload]

end ClientTilePresentQueue

inductive PresentEvent (Pixel : Type) where
  | push (upload : ClientTileUpload Pixel)
  | drain

/-- `accepted` is what was queued since the last drain. -/
structure PresentRun (Pixel : Type) where
  queue : ClientTilePresentQueue Pixel
  accepted : List (ClientTileUpload Pixel)

namespace PresentRun

def step (run : PresentRun Pixel) : PresentEvent Pixel → PresentRun Pixel
  | .push upload =>
      ⟨(run.queue.push upload).1,
        if (run.queue.push upload).2.1 = .queued then run.accepted ++ [upload]
        else run.accepted⟩
  | .drain => ⟨run.queue.drain.1, []⟩

def reached (maxItems maxBytes : Nat) (events : List (PresentEvent Pixel)) :
    PresentRun Pixel :=
  runFrom step ⟨.sized maxItems maxBytes, []⟩ events

def pushes : List (PresentEvent Pixel) → List (ClientTileUpload Pixel)
  | [] => []
  | .push upload :: rest => upload :: pushes rest
  | .drain :: rest => pushes rest

structure Kept (run : PresentRun Pixel) : Prop where
  bounded : run.queue.Bounded
  sublist : run.queue.uploads.Sublist run.accepted
  last : ∀ point, lastCovering point run.queue.uploads =
    lastCovering point run.accepted

theorem Kept.step {run : PresentRun Pixel} (kept : run.Kept)
    (event : PresentEvent Pixel) : (run.step event).Kept := by
  cases event with
  | push upload =>
      refine ⟨kept.bounded.push upload,
        run.queue.sublist_push kept.sublist upload, fun point => ?_⟩
      refine (run.queue.lastCovering_push upload point).trans ?_
      rw [kept.last point]
      simp only [PresentRun.step]
      by_cases queued : (run.queue.push upload).2.1 = .queued
      · by_cases covers : upload.layer.covers point = true
        · simp [queued, covers, lastCovering, List.filter_append]
        · simp [queued, covers, lastCovering, List.filter_append]
      · simp [queued]
  | drain =>
      exact ⟨⟨rfl, Nat.zero_le _, Nat.zero_le _, List.nodup_nil⟩,
        List.Sublist.slnil, fun _ => rfl⟩

theorem accepted_sublist (run : PresentRun Pixel)
    (events : List (PresentEvent Pixel)) :
    (runFrom step run events).accepted.Sublist (run.accepted ++ pushes events) := by
  induction events generalizing run with
  | nil => simp [pushes]
  | cons event rest ih =>
      refine (ih (run.step event)).trans ?_
      cases event with
      | push upload =>
          simp only [step, pushes]
          split
          · simp
          · exact (List.Sublist.refl _).append (List.sublist_cons_self _ _)
      | drain => exact List.sublist_append_right _ _

theorem le_last {uploads : List (ClientTileUpload Pixel)}
    {last other : ClientTileUpload Pixel}
    (ordered : uploads.Pairwise fun a b => a.generation ≤ b.generation)
    (isLast : uploads.getLast? = some last) (member : other ∈ uploads) :
    other.generation ≤ last.generation := by
  obtain ⟨before, rfl⟩ := List.getLast?_eq_some_iff.mp isLast
  rcases List.mem_append.mp member with earlier | final
  · exact (List.pairwise_append.mp ordered).2.2 other earlier last (by simp)
  · rw [List.mem_singleton.mp final]

/-- A push that is not queued changes nothing, and a drained batch consists of
uploads accepted since the last one.  Where they came in the order of their
generations, the batch leaves the newest of them on a pixel. -/
theorem presentQueue_law (maxItems maxBytes : Nat)
    (events : List (PresentEvent Pixel)) :
    let run := reached maxItems maxBytes events
    run.queue.Bounded ∧
    (∀ upload, (run.queue.push upload).2.1 ≠ .queued →
      (run.queue.push upload).1 = run.queue ∧
        (run.queue.push upload).2.2 = upload) ∧
    run.queue.drain.2.Sublist run.accepted ∧
    ∀ point, ((pushes events).filter (·.layer.covers point)).Pairwise
        (fun a b => a.generation ≤ b.generation) →
      ∀ upload ∈ run.accepted, upload.layer.covers point = true →
        ∃ newest ∈ run.accepted,
          (∀ other ∈ run.accepted, other.layer.covers point = true →
            other.generation ≤ newest.generation) ∧
          ∀ image, applied image run.queue.drain.2 point =
            newest.layer.value point := by
  have kept : (reached maxItems maxBytes events).Kept :=
    invariant_runFrom_of_step (fun _ event kept => kept.step event)
      ⟨⟨rfl, Nat.zero_le _, Nat.zero_le _, List.nodup_nil⟩, List.Sublist.slnil,
        fun _ => rfl⟩ events
  have sublist : (reached maxItems maxBytes events).accepted.Sublist
      (pushes events) := accepted_sublist _ events
  intro run
  refine ⟨kept.bounded, fun upload refused => ?_, kept.sublist, ?_⟩
  · have placing := run.queue.push_placing upload
    generalize run.queue.push upload = outcome at placing refused ⊢
    cases placing with
    | refused => exact ⟨rfl, rfl⟩
    | replaced => exact absurd rfl refused
    | appended => exact absurd rfl refused
  · intro point ordered upload member covers
    have among {other : ClientTileUpload Pixel} (member : other ∈ run.accepted)
        (covers : other.layer.covers point = true) :
        other ∈ run.accepted.filter (·.layer.covers point) :=
      List.mem_filter.mpr ⟨member, covers⟩
    obtain ⟨newest, last⟩ := Option.isSome_iff_exists.mp
      (List.getLast?_isSome.mpr (List.ne_nil_of_mem (among member covers)))
    refine ⟨newest, (List.mem_filter.mp (List.mem_of_getLast? last)).1, ?_, ?_⟩
    · intro other member covers
      exact le_last (ordered.sublist (sublist.filter _)) last
        (among member covers)
    · intro image
      exact applied_of_lastCovering ((kept.last point).trans last)

end PresentRun

end WayDisplay.Client
