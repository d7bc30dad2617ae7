import WayDisplay.Client.ContentOrder
import WayDisplay.Foundation.Runs

/-!
Threads that offer content epochs and change ownership at the same time
(`content_order.cpp`, `stream_ownership.c`).

Local ownership is one atomic word that is changed by compare-and-swap; the
newest remote content is guarded by a mutex, which is held while an advance
swaps the word and then publishes the new epoch.  A thread that only changes
ownership takes no mutex, so its swap may fall between those two.
-/

namespace WayDisplay.Client

open Foundation

/-! ## The packed word -/

def ContentOwner.bit : ContentOwner → Nat
  | .tiles => 0
  | .video => 1

def ContentOwner.ofBit (bit : Nat) : ContentOwner :=
  if bit = 0 then .tiles else .video

/-- `wd_client_stream_ownership_pack`; the shifted epoch has its low bit clear. -/
def packOwnership (epoch : Nat) (owner : ContentOwner) : Nat :=
  epoch * 2 % 2 ^ 64 + owner.bit

def unpackOwnership (word : Nat) : StreamOwnership :=
  ⟨word / 2, .ofBit (word % 2)⟩

def initialOwnershipWord : Nat := 2

theorem ContentOwner.bit_lt (owner : ContentOwner) : owner.bit < 2 := by
  cases owner
  · decide
  · decide

theorem ContentOwner.ofBit_bit (owner : ContentOwner) :
    ContentOwner.ofBit owner.bit = owner := by
  cases owner
  · rfl
  · rfl

theorem unpack_pack {epoch : Nat} (fits : epoch < 2 ^ 63)
    (owner : ContentOwner) :
    unpackOwnership (packOwnership epoch owner) = ⟨epoch, owner⟩ := by
  have small := owner.bit_lt
  have word : packOwnership epoch owner = epoch * 2 + owner.bit := by
    unfold packOwnership
    omega
  have high : packOwnership epoch owner / 2 = epoch := by omega
  have low : packOwnership epoch owner % 2 = owner.bit := by omega
  unfold unpackOwnership
  rw [high, low, owner.ofBit_bit]

/-! ## Threads -/

/-- `advance` swaps even where the owner stays. -/
inductive SwapKind where
  | transition
  | advance
  deriving DecidableEq, Repr

/-- What a swap is for; a mutex is held for the last two. -/
inductive SwapPurpose where
  | alone
  | accept (epoch : Nat)
  | reset (epoch : Nat)
  deriving DecidableEq, Repr

/-- `seen` is the word that the next swap expects. -/
inductive OwnershipPhase where
  | idle
  | swapping (kind : SwapKind) (owner : ContentOwner) (purpose : SwapPurpose)
      (seen : Nat)
  | publishing (owner : ContentOwner) (purpose : SwapPurpose)
  deriving DecidableEq, Repr

/-- Ownership as a thread was told it, after so many changes. -/
structure HandedOut where
  ownership : StreamOwnership
  changes : Nat
  deriving DecidableEq, Repr

/-- The last three fields are not in the program: how often ownership changed,
what threads were told of it, and which content was accepted since the last
reset. -/
structure OwnershipState where
  word : Nat
  remote : RemoteContent
  mutex : Option Nat
  threads : Nat → OwnershipPhase
  changes : Nat
  handed : List HandedOut
  accepted : List RemoteContent

namespace OwnershipState

def init (remote : RemoteContent) : OwnershipState where
  word := initialOwnershipWord
  remote
  mutex := none
  threads := fun _ => .idle
  changes := 0
  handed := []
  accepted := [remote]

variable (s : OwnershipState)

def ownership : StreamOwnership := unpackOwnership s.word

def setThread (thread : Nat) (phase : OwnershipPhase) : OwnershipState :=
  { s with threads := Function.update s.threads thread phase }

def handOut : OwnershipState :=
  { s with handed := s.handed ++ [⟨s.ownership, s.changes⟩] }

/-- The check at the head of the loop of
`wd_client_stream_ownership_transition_to`, on the word just read; `advance`
has no such check. -/
def enterSwap (thread : Nat) (kind : SwapKind) (owner : ContentOwner)
    (purpose : SwapPurpose) : OwnershipState :=
  if kind = .transition ∧ s.ownership.owner = owner then
    s.handOut.setThread thread .idle
  else s.setThread thread (.swapping kind owner purpose s.word)

def swapped (thread : Nat) (owner : ContentOwner) (purpose : SwapPurpose)
    (seen : Nat) : OwnershipState :=
  { s.setThread thread
      (if purpose = .alone then .idle else .publishing owner purpose) with
    word := packOwnership (seen / 2 + 1) owner
    changes := s.changes + 1
    handed := s.handed ++ [⟨⟨seen / 2 + 1, owner⟩, s.changes + 1⟩] }

/-- `client_accept_content_epoch` up to the swap. -/
def offer (thread epoch : Nat) (owner : ContentOwner) : OwnershipState :=
  match s.remote.judge epoch owner with
  | .stale => s
  | .current => { s with accepted := s.accepted ++ [⟨epoch, owner⟩] }
  | .advanced =>
      { s with mutex := some thread }.enterSwap thread .advance owner
        (.accept epoch)

def publish (thread : Nat) (owner : ContentOwner) :
    SwapPurpose → OwnershipState
  | .alone => s
  | .accept epoch =>
      { s.setThread thread .idle with
        remote := ⟨epoch, owner⟩
        mutex := none
        accepted := s.accepted ++ [⟨epoch, owner⟩] }
  | .reset epoch =>
      { s.setThread thread .idle with
        remote := ⟨epoch, owner⟩
        mutex := none
        accepted := [⟨epoch, owner⟩] }

end OwnershipState

inductive OwnershipEvent where
  | snapshot
  | transition (thread : Nat) (owner : ContentOwner)
  | offer (thread epoch : Nat) (owner : ContentOwner)
  | reset (thread epoch : Nat) (owner : ContentOwner)
  | attempt (thread : Nat) (spurious : Bool)
  | publish (thread : Nat)
  deriving DecidableEq, Repr

/-- A thread that waits for the mutex does nothing; epoch 0 is refused before
the mutex is taken. -/
def OwnershipState.step (s : OwnershipState) :
    OwnershipEvent → OwnershipState
  | .snapshot => s.handOut
  | .transition thread owner =>
      match s.threads thread with
      | .idle => s.enterSwap thread .transition owner .alone
      | _ => s
  | .offer thread epoch owner =>
      if s.threads thread = .idle ∧ (epoch = 0 ∨ s.mutex = none) then
        s.offer thread epoch owner
      else s
  | .reset thread epoch owner =>
      if s.threads thread = .idle ∧ epoch ≠ 0 ∧ s.mutex = none then
        { s with mutex := some thread }.enterSwap thread .advance owner
          (.reset epoch)
      else s
  | .attempt thread spurious =>
      match s.threads thread with
      | .swapping kind owner purpose seen =>
          if seen = s.word ∧ spurious = false then
            s.swapped thread owner purpose seen
          else s.enterSwap thread kind owner purpose
      | _ => s
  | .publish thread =>
      match s.threads thread with
      | .publishing owner purpose => s.publish thread owner purpose
      | _ => s

/-! ## What holds in every state -/

/-- A thread that is changing ownership for an epoch holds the mutex, and its
epoch is still newer than the published one. -/
def SwapPurpose.Guarded (s : OwnershipState) (thread : Nat) :
    SwapPurpose → Prop
  | .alone => True
  | .accept epoch => s.mutex = some thread ∧ s.remote.epoch < epoch
  | .reset _ => s.mutex = some thread

def OwnershipPhase.Guarded (s : OwnershipState) (thread : Nat) :
    OwnershipPhase → Prop
  | .idle => True
  | .swapping _ _ purpose _ => purpose.Guarded s thread
  | .publishing _ purpose => purpose.Guarded s thread

/-- The newest of the accepted content, and one owner for each epoch. -/
structure RemoteContent.Newest (remote : RemoteContent)
    (accepted : List RemoteContent) : Prop where
  atMost : ∀ content ∈ accepted, content.epoch ≤ remote.epoch
  same : ∀ content ∈ accepted, content.epoch = remote.epoch → content = remote
  oneOwner : ∀ first ∈ accepted, ∀ second ∈ accepted,
    first.epoch = second.epoch → first.owner = second.owner

theorem RemoteContent.newest_singleton (remote : RemoteContent) :
    remote.Newest [remote] := by
  refine ⟨?_, ?_, ?_⟩
  · intro content member
    obtain rfl := List.mem_singleton.mp member
    exact Nat.le_refl _
  · intro content member _
    exact List.mem_singleton.mp member
  · intro first firstMember second secondMember _
    rw [List.mem_singleton.mp firstMember, List.mem_singleton.mp secondMember]

theorem RemoteContent.Newest.again {remote : RemoteContent}
    {accepted : List RemoteContent} (newest : remote.Newest accepted) :
    remote.Newest (accepted ++ [remote]) := by
  have split : ∀ content ∈ accepted ++ [remote],
      content ∈ accepted ∨ content = remote := by
    intro content member
    rcases List.mem_append.mp member with before | added
    · exact .inl before
    · exact .inr (List.mem_singleton.mp added)
  refine ⟨?_, ?_, ?_⟩
  · intro content member
    rcases split content member with before | rfl
    · exact newest.atMost content before
    · exact Nat.le_refl _
  · intro content member level
    rcases split content member with before | rfl
    · exact newest.same content before level
    · rfl
  · intro first firstMember second secondMember level
    rcases split first firstMember with before | rfl
    · rcases split second secondMember with before' | rfl
      · exact newest.oneOwner first before second before' level
      · rw [newest.same first before level]
    · rcases split second secondMember with before' | rfl
      · rw [newest.same second before' level.symm]
      · rfl

theorem RemoteContent.Newest.advance {remote newer : RemoteContent}
    {accepted : List RemoteContent} (newest : remote.Newest accepted)
    (later : remote.epoch < newer.epoch) :
    newer.Newest (accepted ++ [newer]) := by
  -- Nothing accepted before has the new epoch.
  have older : newer.Newest accepted := by
    refine ⟨?_, ?_, newest.oneOwner⟩
    · intro content member
      exact Nat.le_trans (newest.atMost content member) (Nat.le_of_lt later)
    · intro content member level
      have := newest.atMost content member
      omega
  exact older.again

structure OwnershipState.Sound (s : OwnershipState) : Prop where
  counted : s.word / 2 = s.changes + 1
  handed : ∀ told ∈ s.handed, told.ownership.epoch = told.changes + 1
  guarded : ∀ thread, (s.threads thread).Guarded s thread
  newest : s.remote.Newest s.accepted

section

variable {s t : OwnershipState} {thread : Nat}

theorem SwapPurpose.Guarded.same {purpose : SwapPurpose}
    (guarded : purpose.Guarded s thread) (mutex : t.mutex = s.mutex)
    (remote : t.remote = s.remote) : purpose.Guarded t thread := by
  cases purpose with
  | alone => trivial
  | accept epoch =>
      unfold SwapPurpose.Guarded
      rw [mutex, remote]
      exact guarded
  | reset epoch => exact mutex.trans guarded

theorem OwnershipPhase.Guarded.same {phase : OwnershipPhase}
    (guarded : phase.Guarded s thread) (mutex : t.mutex = s.mutex)
    (remote : t.remote = s.remote) : phase.Guarded t thread := by
  cases phase with
  | idle => trivial
  | swapping kind owner purpose seen =>
      exact SwapPurpose.Guarded.same guarded mutex remote
  | publishing owner purpose =>
      exact SwapPurpose.Guarded.same guarded mutex remote

theorem OwnershipPhase.Guarded.elsewhere {phase : OwnershipPhase}
    (guarded : phase.Guarded s thread) (unheld : s.mutex ≠ some thread) :
    phase.Guarded t thread := by
  have free : ∀ purpose : SwapPurpose, purpose.Guarded s thread →
      purpose.Guarded t thread := by
    intro purpose guarded
    cases purpose with
    | alone => trivial
    | accept epoch => exact absurd guarded.1 unheld
    | reset epoch => exact absurd guarded unheld
  cases phase with
  | idle => trivial
  | swapping kind owner purpose seen => exact free purpose guarded
  | publishing owner purpose => exact free purpose guarded

namespace OwnershipState

theorem guarded_update {phase : OwnershipPhase}
    (own : phase.Guarded t thread)
    (others : ∀ other, other ≠ thread → (s.threads other).Guarded t other)
    (other : Nat) :
    (Function.update s.threads thread phase other).Guarded t other := by
  rw [Function.update_apply]
  split_ifs with same
  · rw [same]
    exact own
  · exact others other same

theorem Sound.handOut (sound : s.Sound) : s.handOut.Sound := by
  refine ⟨sound.counted, ?_, ?_, sound.newest⟩
  · intro told member
    rcases List.mem_append.mp member with before | added
    · exact sound.handed told before
    · rw [List.mem_singleton.mp added]
      exact sound.counted
  · intro other
    exact (sound.guarded other).same rfl rfl

theorem Sound.setThread (sound : s.Sound) {phase : OwnershipPhase}
    (guarded : phase.Guarded s thread) : (s.setThread thread phase).Sound := by
  refine ⟨sound.counted, sound.handed, ?_, sound.newest⟩
  exact guarded_update (guarded.same rfl rfl) fun other _ =>
    (sound.guarded other).same rfl rfl

theorem Sound.enterSwap (sound : s.Sound) (thread : Nat)
    (purpose : SwapPurpose) (guarded : purpose.Guarded s thread)
    (kind : SwapKind) (owner : ContentOwner) :
    (s.enterSwap thread kind owner purpose).Sound := by
  unfold OwnershipState.enterSwap
  split_ifs
  · exact sound.handOut.setThread trivial
  · exact sound.setThread guarded

theorem Sound.lock (sound : s.Sound) (thread : Nat) (free : s.mutex = none) :
    OwnershipState.Sound { s with mutex := some thread } := by
  refine ⟨sound.counted, sound.handed, ?_, sound.newest⟩
  intro other
  apply (sound.guarded other).elsewhere
  rw [free]
  nofun

theorem ownership_swapped (s : OwnershipState) (thread : Nat)
    (owner : ContentOwner) (purpose : SwapPurpose)
    (room : s.word / 2 + 1 < 2 ^ 63) :
    (s.swapped thread owner purpose s.word).ownership =
      s.ownership.advance owner :=
  unpack_pack room owner

theorem Sound.swapped (sound : s.Sound) {purpose : SwapPurpose}
    (guarded : purpose.Guarded s thread) (room : s.word / 2 + 1 < 2 ^ 63)
    (owner : ContentOwner) :
    (s.swapped thread owner purpose s.word).Sound := by
  have counted := sound.counted
  refine ⟨?_, ?_, ?_, sound.newest⟩
  · have advanced := congrArg StreamOwnership.epoch
      (ownership_swapped s thread owner purpose room)
    exact advanced.trans (congrArg (· + 1) counted)
  · intro told member
    rcases List.mem_append.mp member with before | added
    · exact sound.handed told before
    · rw [List.mem_singleton.mp added]
      exact congrArg (· + 1) counted
  · refine guarded_update ?_ fun other _ => (sound.guarded other).same rfl rfl
    split_ifs
    · trivial
    · exact guarded.same rfl rfl

theorem Sound.offer (sound : s.Sound) {epoch : Nat}
    (free : epoch = 0 ∨ s.mutex = none) (owner : ContentOwner) :
    (s.offer thread epoch owner).Sound := by
  unfold OwnershipState.offer
  split
  next => exact sound
  next current =>
      refine ⟨sound.counted, sound.handed, ?_, ?_⟩
      · intro other
        exact (sound.guarded other).same rfl rfl
      · rw [RemoteContent.eq_of_judge_current current]
        exact sound.newest.again
  next advanced =>
      have later := RemoteContent.lt_of_judge_advanced advanced
      have unlocked : s.mutex = none :=
        free.resolve_left (Nat.ne_zero_of_lt later)
      exact (sound.lock thread unlocked).enterSwap thread (.accept epoch)
        ⟨rfl, later⟩ .advance owner

theorem Sound.publish (sound : s.Sound) {purpose : SwapPurpose}
    (guarded : purpose.Guarded s thread) (owner : ContentOwner) :
    (s.publish thread owner purpose).Sound := by
  cases purpose with
  | alone => exact sound
  | accept epoch =>
      obtain ⟨held, later⟩ := guarded
      refine ⟨sound.counted, sound.handed, ?_, sound.newest.advance later⟩
      refine guarded_update trivial fun other distinct =>
        (sound.guarded other).elsewhere ?_
      rw [held]
      exact fun same => distinct (Option.some.inj same).symm
  | reset epoch =>
      refine ⟨sound.counted, sound.handed, ?_,
        RemoteContent.newest_singleton _⟩
      refine guarded_update trivial fun other distinct =>
        (sound.guarded other).elsewhere ?_
      rw [show s.mutex = some thread from guarded]
      exact fun same => distinct (Option.some.inj same).symm

def Room (s : OwnershipState) (_ : OwnershipEvent) : Prop :=
  s.word / 2 + 1 < 2 ^ 63

instance (s : OwnershipState) (event : OwnershipEvent) :
    Decidable (s.Room event) :=
  inferInstanceAs (Decidable (_ < _))

theorem Sound.step (sound : s.Sound) (event : OwnershipEvent)
    (room : s.Room event) : (s.step event).Sound := by
  cases event with
  | snapshot => exact sound.handOut
  | transition thread owner =>
      dsimp only [OwnershipState.step]
      split
      · exact sound.enterSwap thread .alone trivial .transition owner
      · exact sound
  | offer thread epoch owner =>
      dsimp only [OwnershipState.step]
      split_ifs with free
      · exact sound.offer free.2 owner
      · exact sound
  | reset thread epoch owner =>
      dsimp only [OwnershipState.step]
      split_ifs with free
      · exact (sound.lock thread free.2.2).enterSwap thread (.reset epoch) rfl
          .advance owner
      · exact sound
  | attempt thread spurious =>
      dsimp only [OwnershipState.step]
      split
      next kind owner purpose seen phase =>
          have guarded := sound.guarded thread
          rw [phase] at guarded
          split_ifs with swaps
          · rw [swaps.1]
            exact sound.swapped guarded room owner
          · exact sound.enterSwap thread purpose guarded kind owner
      next => exact sound
  | publish thread =>
      dsimp only [OwnershipState.step]
      split
      next owner purpose phase =>
          have guarded := sound.guarded thread
          rw [phase] at guarded
          exact sound.publish guarded owner
      next => exact sound

theorem sound_init (remote : RemoteContent) : (init remote).Sound :=
  ⟨show initialOwnershipWord / 2 = 0 + 1 by decide, nofun,
    fun _ => trivial, remote.newest_singleton⟩

/-! ## Whole runs -/

structure Orderly (s : OwnershipState) (event : OwnershipEvent) : Prop where
  advances : ∀ thread owner epoch, event = .publish thread →
    s.threads thread = .publishing owner (.accept epoch) →
      (s.step event).remote = ⟨epoch, owner⟩ ∧ s.remote.epoch < epoch
  published : (∀ thread, event ≠ .publish thread) →
    (s.step event).remote = s.remote
  stale : ∀ thread epoch owner, event = .offer thread epoch owner →
    s.remote.judge epoch owner = .stale → s.step event = s
  changes : (s.step event).word = s.word ∧ (s.step event).changes = s.changes ∨
    s.ownership.epoch < (s.step event).ownership.epoch ∧
      (s.step event).changes = s.changes + 1

theorem enterSwap_rest (s : OwnershipState) (thread : Nat) (kind : SwapKind)
    (owner : ContentOwner) (purpose : SwapPurpose) :
    (s.enterSwap thread kind owner purpose).remote = s.remote ∧
      (s.enterSwap thread kind owner purpose).word = s.word ∧
      (s.enterSwap thread kind owner purpose).changes = s.changes := by
  unfold enterSwap
  split_ifs
  · exact ⟨rfl, rfl, rfl⟩
  · exact ⟨rfl, rfl, rfl⟩

theorem offer_rest (s : OwnershipState) (thread epoch : Nat)
    (owner : ContentOwner) :
    (s.offer thread epoch owner).remote = s.remote ∧
      (s.offer thread epoch owner).word = s.word ∧
      (s.offer thread epoch owner).changes = s.changes := by
  unfold offer
  split
  · exact ⟨rfl, rfl, rfl⟩
  · exact ⟨rfl, rfl, rfl⟩
  · exact enterSwap_rest _ thread .advance owner (.accept epoch)

theorem step_rest (s : OwnershipState) {event : OwnershipEvent}
    (room : s.Room event) :
    ((∀ thread, event ≠ .publish thread) →
      (s.step event).remote = s.remote) ∧
      ((s.step event).word = s.word ∧ (s.step event).changes = s.changes ∨
        s.ownership.epoch < (s.step event).ownership.epoch ∧
          (s.step event).changes = s.changes + 1) := by
  cases event with
  | snapshot => exact ⟨fun _ => rfl, .inl ⟨rfl, rfl⟩⟩
  | transition thread owner =>
      dsimp only [OwnershipState.step]
      split
      · obtain ⟨remote, kept⟩ :=
          enterSwap_rest s thread .transition owner .alone
        exact ⟨fun _ => remote, .inl kept⟩
      · exact ⟨fun _ => rfl, .inl ⟨rfl, rfl⟩⟩
  | offer thread epoch owner =>
      dsimp only [OwnershipState.step]
      split_ifs
      · obtain ⟨remote, kept⟩ := offer_rest s thread epoch owner
        exact ⟨fun _ => remote, .inl kept⟩
      · exact ⟨fun _ => rfl, .inl ⟨rfl, rfl⟩⟩
  | reset thread epoch owner =>
      dsimp only [OwnershipState.step]
      split_ifs
      · obtain ⟨remote, kept⟩ := enterSwap_rest
          { s with mutex := some thread } thread .advance owner (.reset epoch)
        exact ⟨fun _ => remote, .inl kept⟩
      · exact ⟨fun _ => rfl, .inl ⟨rfl, rfl⟩⟩
  | attempt thread spurious =>
      dsimp only [OwnershipState.step]
      split
      next kind owner purpose seen phase =>
          split_ifs with swaps
          · refine ⟨fun _ => rfl, .inr ⟨?_, rfl⟩⟩
            rw [swaps.1, ownership_swapped s thread owner purpose room]
            exact Nat.lt_succ_self _
          · obtain ⟨remote, kept⟩ := enterSwap_rest s thread kind owner purpose
            exact ⟨fun _ => remote, .inl kept⟩
      next => exact ⟨fun _ => rfl, .inl ⟨rfl, rfl⟩⟩
  | publish thread =>
      refine ⟨fun other => absurd rfl (other thread), .inl ?_⟩
      dsimp only [OwnershipState.step]
      split
      next owner purpose phase =>
          cases purpose
          · exact ⟨rfl, rfl⟩
          · exact ⟨rfl, rfl⟩
          · exact ⟨rfl, rfl⟩
      next => exact ⟨rfl, rfl⟩

theorem Sound.orderly (sound : s.Sound) {event : OwnershipEvent}
    (room : s.Room event) : s.Orderly event := by
  obtain ⟨published, changes⟩ := step_rest s room
  refine ⟨?_, published, ?_, changes⟩
  · rintro thread owner epoch rfl phase
    have guarded := sound.guarded thread
    rw [phase] at guarded
    refine ⟨?_, guarded.2⟩
    dsimp only [OwnershipState.step]
    rw [phase]
    rfl
  · rintro thread epoch owner rfl stale
    dsimp only [OwnershipState.step]
    split_ifs
    · unfold OwnershipState.offer
      rw [stale]
    · rfl

/-- Under any interleaving, while the epochs fit into the word: an advance raises
the remote epoch, a stale offer changes nothing, each change of ownership raises
the local epoch, an epoch is accepted for one owner, and what a thread was told
is current only if nothing has changed since. -/
theorem epochs_ordered (remote : RemoteContent) {events : List OwnershipEvent}
    (room : Along OwnershipState.step Room (init remote) events) :
    Along OwnershipState.step Orderly (init remote) events ∧
      (∀ first ∈ (runFrom OwnershipState.step (init remote) events).accepted,
        ∀ second ∈ (runFrom OwnershipState.step (init remote) events).accepted,
          first.epoch = second.epoch → first.owner = second.owner) ∧
      ∀ told ∈ (runFrom OwnershipState.step (init remote) events).handed,
        (runFrom OwnershipState.step (init remote) events).ownership.isCurrent
            told.ownership = true →
          told.changes =
            (runFrom OwnershipState.step (init remote) events).changes := by
  have preserved : ∀ (s : OwnershipState) (event : OwnershipEvent), s.Sound →
      s.Room event → (s.step event).Sound :=
    fun _ event sound room => sound.step event room
  have sound := invariant_runFrom preserved (sound_init remote) room
  refine ⟨?_, sound.newest.oneOwner, ?_⟩
  · exact along_of_invariant preserved (fun _ _ sound room =>
      sound.orderly room) (sound_init remote) room
  · intro told member current
    have same : (runFrom OwnershipState.step (init remote) events).ownership =
        told.ownership := beq_iff_eq.mp current
    have counted := sound.counted
    have handed := sound.handed told member
    rw [← same] at handed
    change _ / 2 = _ at handed
    omega

/-- Thread 1 takes ownership for video while thread 0 opens a video epoch. -/
theorem epochs_ordered_overtaken :
    let events : List OwnershipEvent :=
      [.snapshot, .offer 0 2 .video, .transition 1 .video, .attempt 1 false,
        .attempt 0 false, .attempt 0 false, .publish 0, .offer 1 1 .tiles]
    let s := runFrom OwnershipState.step (init ⟨1, .tiles⟩) events
    Along OwnershipState.step Room (init ⟨1, .tiles⟩) events ∧
      s.remote = ⟨2, .video⟩ ∧ s.ownership = ⟨3, .video⟩ ∧
      s.handed = [⟨⟨1, .tiles⟩, 0⟩, ⟨⟨2, .video⟩, 1⟩, ⟨⟨3, .video⟩, 2⟩] ∧
      Along OwnershipState.step Orderly (init ⟨1, .tiles⟩) events :=
  ⟨by decide +kernel, by decide +kernel, by decide +kernel, by decide +kernel,
    (epochs_ordered ⟨1, .tiles⟩ (by decide +kernel)).1⟩

end OwnershipState

end

end WayDisplay.Client
