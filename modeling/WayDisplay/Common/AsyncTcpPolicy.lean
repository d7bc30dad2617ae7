import Mathlib.Algebra.Order.Ring.Nat

/-!
The wire-byte and completion policy that both TCP senders share
(`wd_async_tcp_policy.h`): queue capacity, the byte ranges of an owned send, and
the classification of kernel results.
-/

namespace WayDisplay.Common

def eintr : Int := 4
def ebadf : Int := 9
def eagain : Int := 11
def ebusy : Int := 16
def einval : Int := 22
def eopnotsupp : Int := 95

def uint64Max : Nat := 2 ^ 64 - 1

def sizeMax : Nat := 2 ^ 64 - 1

/-- A zero limit means unlimited. -/
def canEnqueue (pending next limit : Nat) : Bool :=
  next ≤ uint64Max - pending &&
    (limit == 0 || (next ≤ limit && pending ≤ limit - next))

structure OwnedSendPlan where
  inlineOffset : Nat
  inlineSize : Nat
  payloadOffset : Nat
  payloadSize : Nat
  deriving DecidableEq, Repr

def planOwnedSend (inlineSize payloadSize bytesSent : Nat) :
    Option OwnedSendPlan :=
  if inlineSize > sizeMax - payloadSize then none
  else if bytesSent ≥ inlineSize + payloadSize then none
  else if bytesSent < inlineSize then
    let plan : OwnedSendPlan :=
      ⟨bytesSent, inlineSize - bytesSent, 0, payloadSize⟩
    if plan.inlineSize ≠ 0 ∨ plan.payloadSize ≠ 0 then some plan else none
  else
    let payloadOffset := bytesSent - inlineSize
    if payloadOffset ≥ payloadSize then none
    else
      let plan : OwnedSendPlan :=
        ⟨0, 0, payloadOffset, payloadSize - payloadOffset⟩
      if plan.payloadSize ≠ 0 then some plan else none

inductive SubmitProgress where
  | submitFailed
  | submitRetry
  | submitAccepted
  deriving DecidableEq, Repr

/-- `io_uring_submit` reports submission progress, not socket progress. -/
def submitResult (result : Int) : SubmitProgress :=
  if result > 0 then .submitAccepted
  else if result = 0 ∨ result = -eintr ∨ result = -eagain ∨ result = -ebusy then
    .submitRetry
  else .submitFailed

inductive SendProgress where
  | sendFailed
  | sendPartial
  | sendComplete
  deriving DecidableEq, Repr

/-- A frame may be discarded only before any byte can have reached the stream. -/
def messageIsReplaceable (submitted : Bool) (bytesSent : Nat) : Bool :=
  !submitted && bytesSent == 0

def cqeShouldTrySyscall (result : Int) : Bool :=
  result == -eopnotsupp || result == -ebadf

/-- The progress a kernel result makes, with the new count of bytes sent. -/
def advance (total sent : Nat) (result : Int) : SendProgress × Nat :=
  if sent > total then (.sendFailed, sent)
  else if sent = total then (.sendComplete, sent)
  else if result = -eintr ∨ result = -eagain then (.sendPartial, sent)
  else if result ≤ 0 ∨ result.toNat > total - sent then (.sendFailed, sent)
  else if sent + result.toNat = total then
    (.sendComplete, sent + result.toNat)
  else (.sendPartial, sent + result.toNat)

theorem advance_cases {total sent : Nat} (result : Int) (h : sent < total) :
    (advance total sent result = (.sendFailed, sent) ∧
        (result ≤ 0 ∨ total - sent < result.toNat)) ∨
      (advance total sent result = (.sendPartial, sent) ∧ result < 0) ∨
      (advance total sent result = (.sendPartial, sent + result.toNat) ∧
        0 < result ∧ result.toNat < total - sent) ∨
      (advance total sent result = (.sendComplete, total) ∧
        0 < result ∧ result.toNat = total - sent) := by
  rw [advance, if_neg (by omega), if_neg (by omega)]
  by_cases again : result = -eintr ∨ result = -eagain
  · refine Or.inr (Or.inl ⟨if_pos again, ?_⟩)
    rcases again with rfl | rfl <;> decide
  rw [if_neg again]
  by_cases bad : result ≤ 0 ∨ result.toNat > total - sent
  · exact Or.inl ⟨if_pos bad, bad⟩
  rw [if_neg bad]
  obtain ⟨positive, bounded⟩ := not_or.mp bad
  by_cases last : sent + result.toNat = total
  · exact Or.inr (Or.inr (Or.inr ⟨by rw [if_pos last, last], by omega, by omega⟩))
  · exact Or.inr (Or.inr (Or.inl ⟨if_neg last, by omega, by omega⟩))

end WayDisplay.Common
