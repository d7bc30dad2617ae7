import Mathlib.Algebra.Order.Ring.Nat
import WayDisplay.Foundation.Runs

/-!
The selections shared with the host (`selection_sync.cpp` and the selection part
of `sdl_viewer.cpp`).

The client remembers, for each kind, the text it last sent and the text it last
applied.  A text from the server is applied only if it differs from the one last
applied; the host's own selection is not asked.
-/

namespace WayDisplay.Client

open Foundation

variable {Text : Type} [DecidableEq Text]

inductive ClientSelectionKind where
  | clipboard
  | primary
  deriving DecidableEq, Repr

/-- One kind: what is remembered (`none` while the flag is unset), the text that
waits to be applied, and the selection of the host. -/
structure SelectionSide (Text : Type) where
  sent : Option Text
  applied : Option Text
  pending : Option Text
  host : Text
  deriving DecidableEq, Repr

namespace SelectionSide

variable (side : SelectionSide Text)

def shouldSend (text : Text) (force : Bool) : Bool :=
  force || side.sent != some text

def noteSent (text : Text) : SelectionSide Text :=
  { side with sent := some text }

def shouldApply (text : Text) : Bool :=
  side.applied != some text

def noteApplied (text : Text) : SelectionSide Text :=
  SelectionSide.noteSent { side with applied := some text } text

/-- `send_host_clipboard_to_server`; a refused text is not remembered. -/
def sendHost (force accepted : Bool) : SelectionSide Text :=
  if side.shouldSend side.host force && accepted then side.noteSent side.host
  else side

/-- `drain_remote_selection_updates` for one kind; where the host refuses the
text, it waits again. -/
def drain (sets : Bool) : SelectionSide Text :=
  match side.pending with
  | none => side
  | some text =>
      if !side.shouldApply text then { side with pending := none }
      else if sets then
        SelectionSide.noteApplied { side with pending := none, host := text } text
      else side

end SelectionSide

inductive SelectionEvent (Text : Type) where
  | hostChanges (kind : ClientSelectionKind) (text : Text)
  | send (kind : ClientSelectionKind) (force accepted : Bool)
  | receive (kind : ClientSelectionKind) (text : Text)
  | drain (sets : ClientSelectionKind → Bool)

abbrev SelectionState (Text : Type) := ClientSelectionKind → SelectionSide Text

namespace SelectionState

def drain (s : SelectionState Text) (sets : ClientSelectionKind → Bool) :
    SelectionState Text :=
  fun kind => (s kind).drain (sets kind)

def step (s : SelectionState Text) : SelectionEvent Text → SelectionState Text
  | .hostChanges kind text =>
      Function.update s kind { s kind with host := text }
  | .send kind force accepted =>
      Function.update s kind ((s kind).sendHost force accepted)
  | .receive kind text =>
      Function.update s kind { s kind with pending := some text }
  | .drain sets => s.drain sets

def initial (host : ClientSelectionKind → Text) : SelectionState Text :=
  fun kind => ⟨none, none, none, host kind⟩

end SelectionState

theorem SelectionSide.drain_host_iff {side : SelectionSide Text} {text : Text}
    (received : side.pending = some text) :
    (side.drain true).host = text ↔
      side.shouldApply text = true ∨ side.host = text := by
  rw [SelectionSide.drain, received]
  dsimp only
  by_cases apply : side.shouldApply text = true
  · simp [apply, SelectionSide.noteApplied, SelectionSide.noteSent]
  · simp [apply]

namespace SelectionState

def reached (host : ClientSelectionKind → Text)
    (events : List (SelectionEvent Text)) : SelectionState Text :=
  runFrom step (initial host) events

/-- After any run, a received text reaches the host exactly if it is not the one
last applied or the host has it already. -/
theorem drain_applies_iff (host : ClientSelectionKind → Text)
    (events : List (SelectionEvent Text)) (kind : ClientSelectionKind)
    (text : Text) (received : (reached host events kind).pending = some text) :
    ((reached host events).drain (fun _ => true) kind).host = text ↔
      (reached host events kind).applied ≠ some text ∨
        (reached host events kind).host = text := by
  refine (SelectionSide.drain_host_iff received).trans ?_
  rw [SelectionSide.shouldApply, bne_iff_ne]

def repeatedText : List (SelectionEvent String) :=
  [.receive .clipboard "a", .drain fun _ => true, .hostChanges .clipboard "b",
    .send .clipboard false true, .receive .clipboard "a"]

theorem repeatedText_not_applied :
    (reached (fun _ => "") repeatedText .clipboard).pending = some "a" ∧
      ((reached (fun _ => "") repeatedText).drain (fun _ => true)
        .clipboard).host = "b" := by
  decide

/-- The text applied before comes again while the host has another; the primary
selection has a text that was refused once. -/
theorem drain_applies_first :
    let events := repeatedText ++ [.receive .primary "c",
      .drain fun kind => kind == .clipboard, .receive .clipboard "a"]
    ((reached (fun _ => "") events).drain (fun _ => true) .primary).host =
        "c" ∧
      ((reached (fun _ => "") events).drain (fun _ => true) .clipboard).host ≠
        "a" := by
  intro events
  have primary := drain_applies_iff (fun _ => "") events .primary "c"
    (by decide)
  have clipboard := drain_applies_iff (fun _ => "") events .clipboard "a"
    (by decide)
  exact ⟨primary.mpr (.inl (by decide)), fun applied =>
    absurd (clipboard.mp applied) (by decide)⟩

end SelectionState

end WayDisplay.Client
