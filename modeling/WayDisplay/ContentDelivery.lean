import WayDisplay.Client.ContentOrder
import WayDisplay.Server.Stream.Ownership

/-!
Who owns the display, as the two sides see it.

The server labels what it sends with content epochs, and the network loses,
repeats and reorders it; a configuration sets the client back to the tiles of
the epoch it was made in.  Where nothing hands the display to video inside a
pass, and configurations are made while the tiles own the display, a client that
has come to the server's epoch agrees with it about the owner, and refuses no
message but those of an older epoch.
-/

namespace WayDisplay

open Foundation Client Server

/-- `client_accept_content_epoch`, which holds a mutex throughout. -/
def Client.RemoteContent.accept (content : RemoteContent) (epoch : Nat)
    (owner : ContentOwner) : RemoteContent :=
  match content.judge epoch owner with
  | .advanced => ⟨epoch, owner⟩
  | _ => content

namespace Server.ServerState

/-- The epochs of what was sent for an owner. -/
def labels (s : ServerState) : ContentOwner → List Nat
  | .tiles => s.ledger.firstLabels
  | .video => s.ledger.secondLabels

def owner (s : ServerState) : ContentOwner :=
  if s.net.videoOwnsDisplay then .video else .tiles

variable {s : ServerState} {epoch : Nat} {party : ContentOwner}

theorem labels_step (apart : s.Apart) (event : ServerEvent)
    (sent : epoch ∈ s.labels party) : epoch ∈ (s.step event).labels party := by
  have move := (step_effect apart.owner.closed apart.owner.jobs event).move
  have kept : s.labels party ⊆ (s.step event).labels party := by
    unfold labels
    generalize s.ledger = ledger, (s.step event).ledger = ledger' at move
    cases move <;> cases party <;> simp
  exact kept sent

end Server.ServerState

/-! ## The two sides -/

structure ContentDelivery where
  server : ServerState
  remote : RemoteContent
  configs : List Nat

/-- A message is delivered by its place among those sent so far. -/
inductive DeliveryEvent where
  | server (event : ServerEvent)
  | deliver (party : ContentOwner) (index : Nat)
  | sendConfig
  | applyConfig (index : Nat)

namespace ContentDelivery

def initial (geometry : Common.Geometry) (videoWorker : Bool) :
    ContentDelivery :=
  ⟨.initial geometry videoWorker, ⟨0, .tiles⟩, []⟩

def step (d : ContentDelivery) : DeliveryEvent → ContentDelivery
  | .server event => { d with server := d.server.step event }
  | .deliver party index =>
      match (d.server.labels party)[index]? with
      | none => d
      | some epoch => { d with remote := d.remote.accept epoch party }
  | .sendConfig =>
      { d with configs := d.server.net.contentEpoch :: d.configs }
  | .applyConfig index =>
      match d.configs[index]? with
      | none => d
      | some epoch => { d with remote := d.remote.reset epoch .tiles }

-- A resize hands the display back before its configuration is made.
def PassUndisturbed (d : ContentDelivery) : DeliveryEvent → Prop
  | .server event => d.server.PassUndisturbed event
  | .sendConfig => d.server.net.videoOwnsDisplay = false
  | _ => True

instance (d : ContentDelivery) (event : DeliveryEvent) :
    Decidable (d.PassUndisturbed event) :=
  match event with
  | .server event => inferInstanceAs (Decidable (d.server.PassUndisturbed event))
  | .sendConfig =>
      inferInstanceAs (Decidable (d.server.net.videoOwnsDisplay = false))
  | .deliver _ _ => isTrue trivial
  | .applyConfig _ => isTrue trivial

/-- The epochs that a client can have come to for an owner. -/
def labels (d : ContentDelivery) : ContentOwner → List Nat
  | .tiles => d.configs ++ d.server.labels .tiles
  | .video => d.server.labels .video

/-- Configurations, as messages of the tiles. -/
def configLedger (d : ContentDelivery) : EpochLedger :=
  { d.server.ledger with firstLabels := d.configs }

/-- The client has nothing yet, or what the server has sent. -/
structure Delivered (d : ContentDelivery) : Prop where
  apart : d.server.Apart
  configured : d.configLedger.Separated
  sent : d.remote.epoch ≠ 0 → d.remote.epoch ∈ d.labels d.remote.owner

variable {d : ContentDelivery} {epoch : Nat} {party other : ContentOwner}

theorem mem_labels_of_sent (sent : epoch ∈ d.server.labels party) :
    epoch ∈ d.labels party := by
  cases party with
  | tiles => exact List.mem_append_right _ sent
  | video => exact sent

namespace Delivered

theorem sent_mono {server : ServerState} {configs : List Nat}
    (delivered : d.Delivered) (configured : d.configs ⊆ configs)
    (grows : ∀ party, d.server.labels party ⊆ server.labels party)
    (some : d.remote.epoch ≠ 0) :
    d.remote.epoch ∈ labels ⟨server, d.remote, configs⟩ d.remote.owner := by
  have sent := delivered.sent some
  cases owner : d.remote.owner with
  | tiles =>
      rw [owner] at sent
      exact List.mem_append.mpr ((List.mem_append.mp sent).imp
        (configured ·) (grows .tiles ·))
  | video =>
      rw [owner] at sent
      exact grows .video sent

theorem label_le (delivered : d.Delivered) (sent : epoch ∈ d.labels party) :
    epoch ≤ d.server.net.contentEpoch := by
  cases party with
  | tiles =>
      rcases List.mem_append.mp sent with config | tile
      · exact delivered.configured.first_le epoch config
      · exact delivered.apart.separated.first_le epoch tile
  | video => exact delivered.apart.owner.ordered.second_le epoch sent

theorem tiles_not_video (delivered : d.Delivered)
    (sent : epoch ∈ d.labels .tiles) : epoch ∉ d.labels .video := by
  rcases List.mem_append.mp sent with config | tile
  · exact delivered.configured.disjoint epoch config
  · exact delivered.apart.separated.disjoint epoch tile

theorem label_party (delivered : d.Delivered) (sent : epoch ∈ d.labels party)
    (sent' : epoch ∈ d.labels other) : party = other := by
  cases party <;> cases other
  · rfl
  · exact absurd sent' (delivered.tiles_not_video sent)
  · exact absurd sent (delivered.tiles_not_video sent')
  · rfl

theorem label_owner (delivered : d.Delivered)
    (sent : d.server.net.contentEpoch ∈ d.labels party) :
    party = d.server.owner := by
  unfold ServerState.owner
  cases party with
  | tiles =>
      rw [if_neg]
      intro owns
      rcases List.mem_append.mp sent with config | tile
      · exact delivered.configured.first_owner owns config
      · exact delivered.apart.separated.first_owner owns tile
  | video =>
      rw [if_pos]
      by_contra unowned
      exact delivered.apart.owner.ordered.second_owner
        (Bool.eq_false_iff.mpr unowned) sent

theorem serverStep {event : ServerEvent} (delivered : d.Delivered)
    (undisturbed : d.server.PassUndisturbed event) :
    Delivered { d with server := d.server.step event } where
  apart := ServerState.step_apart delivered.apart undisturbed
  configured := by
    have move := (ServerState.step_effect delivered.apart.owner.closed
      delivered.apart.owner.jobs event).move
    exact (move.withFirst d.configs).separated
      ⟨delivered.apart.owner.ordered.second_le,
        delivered.apart.owner.ordered.second_owner⟩
      delivered.configured (absurd rfl)
  sent := fun some => delivered.sent_mono (List.Subset.refl _)
    (fun _ _ => ServerState.labels_step delivered.apart event) some

theorem sendConfig (delivered : d.Delivered)
    (unowned : d.server.net.videoOwnsDisplay = false) :
    (d.step .sendConfig).Delivered := by
  have ordered : d.configLedger.Ordered :=
    ⟨delivered.apart.owner.ordered.second_le,
      delivered.apart.owner.ordered.second_owner⟩
  have move : d.configLedger.Move (d.step .sendConfig).configLedger :=
    .sendFirst fun _ member => List.mem_singleton.mp member
  refine ⟨delivered.apart, move.separated ordered delivered.configured
    fun _ => unowned, fun some => ?_⟩
  exact delivered.sent_mono (List.subset_cons_self _ _)
    (fun _ => List.Subset.refl _) some

theorem step {event : DeliveryEvent} (delivered : d.Delivered)
    (undisturbed : d.PassUndisturbed event) : (d.step event).Delivered := by
  cases event with
  | server event => exact delivered.serverStep undisturbed
  | deliver party index =>
      dsimp only [ContentDelivery.step]
      cases found : (d.server.labels party)[index]? with
      | none => exact delivered
      | some epoch =>
          refine ⟨delivered.apart, delivered.configured, ?_⟩
          dsimp only [RemoteContent.accept]
          split
          · exact fun _ => mem_labels_of_sent (List.mem_of_getElem? found)
          · exact delivered.sent
  | sendConfig => exact delivered.sendConfig undisturbed
  | applyConfig index =>
      dsimp only [ContentDelivery.step]
      cases found : d.configs[index]? with
      | none => exact delivered
      | some epoch =>
          refine ⟨delivered.apart, delivered.configured, ?_⟩
          dsimp only [RemoteContent.reset]
          split_ifs
          · exact delivered.sent
          · exact fun _ => List.mem_append_left _ (List.mem_of_getElem? found)

end Delivered

structure OwnersAgree (d : ContentDelivery) : Prop where
  behind : d.remote.epoch ≤ d.server.net.contentEpoch
  owner : d.remote.epoch ≠ 0 → d.remote.epoch = d.server.net.contentEpoch →
    d.remote.owner = d.server.owner
  taken : ∀ party, ∀ epoch ∈ d.server.labels party, epoch ≠ 0 →
    (d.remote.judge epoch party = .stale ↔ epoch < d.remote.epoch)

theorem Delivered.ownersAgree (delivered : d.Delivered) : d.OwnersAgree where
  behind := by
    by_cases none : d.remote.epoch = 0
    · omega
    · exact delivered.label_le (delivered.sent none)
  owner := fun some level =>
    delivered.label_owner (level ▸ delivered.sent some)
  taken := by
    intro party epoch sent some
    have same (level : epoch = d.remote.epoch) : party = d.remote.owner :=
      delivered.label_party (mem_labels_of_sent sent)
        (level ▸ delivered.sent (level ▸ some))
    unfold RemoteContent.judge
    split_ifs with zero older level
    · exact absurd zero some
    · refine iff_of_true rfl (older.resolve_right fun conflict => ?_)
      exact conflict.2 (same conflict.1)
    · exact iff_of_false (by decide) level.not_lt
    · exact iff_of_false (by decide) fun before => older (.inl before)

/-- However the two sides and the network interleave. -/
theorem ownersAgree_of_run {geometry : Common.Geometry} {videoWorker : Bool}
    {events : List DeliveryEvent}
    (undisturbed : Along step PassUndisturbed (initial geometry videoWorker)
      events) :
    (runFrom step (initial geometry videoWorker) events).OwnersAgree := by
  have start : (initial geometry videoWorker).Delivered :=
    ⟨ServerState.initial_apart geometry videoWorker, ⟨by simp [configLedger,
      initial], fun _ => List.not_mem_nil, by simp [configLedger, initial]⟩,
      absurd rfl⟩
  exact (invariant_runFrom (fun _ _ => Delivered.step) start
    undisturbed).ownersAgree

/-- A session with its configuration, in which video takes the display. -/
def configuredSession : List DeliveryEvent :=
  Script.connect.map .server ++ [.sendConfig, .applyConfig 0] ++
    (keyframeBetweenPasses.drop Script.connect.length).map .server ++
    [.deliver .video 0, .deliver .tiles 3]

theorem keyframeBetweenPasses_ownersAgree :
    (runFrom step (initial Script.display true)
      configuredSession).OwnersAgree ∧
      (runFrom step (initial Script.display true)
        (configuredSession.take (Script.connect.length + 2))).remote =
          ⟨1, .tiles⟩ ∧
      (runFrom step (initial Script.display true)
        configuredSession).remote = ⟨2, .video⟩ :=
  ⟨ownersAgree_of_run (by decide +kernel), by decide +kernel, by decide +kernel⟩

end ContentDelivery

end WayDisplay
