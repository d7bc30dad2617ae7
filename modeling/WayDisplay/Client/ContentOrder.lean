import Mathlib.Algebra.Order.Ring.Nat
import Mathlib.Data.List.Basic

/-!
Who owns the client's display (`stream_ownership.c`, `content_order.cpp`).

The server numbers its content with epochs, each of one owner; the client takes
only the newest.  A second, local epoch is advanced whenever ownership changes,
so that an upload in progress can tell that it is stale.
-/

namespace WayDisplay.Client

inductive ContentOwner where
  | tiles
  | video
  deriving DecidableEq, Repr

/-! ## Local ownership -/

/-- The atomic word of `wd_client_stream_ownership`, unpacked. -/
structure StreamOwnership where
  epoch : Nat
  owner : ContentOwner
  deriving DecidableEq, Repr

namespace StreamOwnership

def initial : StreamOwnership := ⟨1, .tiles⟩

def transitionTo (ownership : StreamOwnership) (owner : ContentOwner) :
    StreamOwnership :=
  if ownership.owner = owner then ownership else ⟨ownership.epoch + 1, owner⟩

def advance (ownership : StreamOwnership) (owner : ContentOwner) :
    StreamOwnership :=
  ⟨ownership.epoch + 1, owner⟩

def endVideoStream (ownership : StreamOwnership) : StreamOwnership :=
  ownership.transitionTo .tiles

def isCurrent (ownership : StreamOwnership) (seen : StreamOwnership) : Bool :=
  ownership == seen

end StreamOwnership

/-! ## Content epochs -/

inductive ContentEpochDecision where
  | stale
  | current
  | advanced
  deriving DecidableEq, Repr

structure RemoteContent where
  epoch : Nat
  owner : ContentOwner
  deriving DecidableEq, Repr

/-- How `client_accept_content_epoch` judges an offered epoch. -/
def RemoteContent.judge (content : RemoteContent) (epoch : Nat)
    (owner : ContentOwner) : ContentEpochDecision :=
  if epoch = 0 then .stale
  else if epoch < content.epoch ∨
      epoch = content.epoch ∧ owner ≠ content.owner then .stale
  else if epoch = content.epoch then .current
  else .advanced

/-- What `client_reset_content_epoch` stores. -/
def RemoteContent.reset (content : RemoteContent) (epoch : Nat)
    (owner : ContentOwner) : RemoteContent :=
  if epoch = 0 then content else ⟨epoch, owner⟩

theorem RemoteContent.lt_of_judge_advanced {content : RemoteContent}
    {epoch : Nat} {owner : ContentOwner}
    (advanced : content.judge epoch owner = .advanced) :
    content.epoch < epoch := by
  unfold judge at advanced
  split_ifs at advanced with zero older same
  omega

theorem RemoteContent.eq_of_judge_current {content : RemoteContent}
    {epoch : Nat} {owner : ContentOwner}
    (current : content.judge epoch owner = .current) :
    (⟨epoch, owner⟩ : RemoteContent) = content := by
  unfold judge at current
  split_ifs at current with zero older same
  have sameOwner : owner = content.owner := by
    by_contra distinct
    exact older (.inr ⟨same, distinct⟩)
  rw [same, sameOwner]

end WayDisplay.Client
