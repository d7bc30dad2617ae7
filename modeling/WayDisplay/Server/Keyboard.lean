import Mathlib.Algebra.Order.Ring.Nat
import WayDisplay.Foundation.Runs

/-!
The keys of a client (`wd_keyboard.c`).

Key events wait in a queue of fixed size until they are injected, and the keys
that are down stand in a table of fixed size.  An event that finds the queue
full is lost, and so is a press that finds the table full.
-/

namespace WayDisplay.Server

open Foundation

structure KeyEvent where
  evdevKeyCode : Nat
  pressed : Bool
  deriving DecidableEq, Repr

def keyQueueCapacity : Nat := 4096

def pressedKeyCapacity : Nat := 256

inductive KeyTransition where
  | accept
  | duplicatePress
  | unmatchedRelease
  | capacityFull
  | invalidState
  deriving DecidableEq, Repr

def keyTransitionClassify (pressedKeys : List Nat) (event : KeyEvent) :
    KeyTransition :=
  if pressedKeys.length > pressedKeyCapacity then .invalidState
  else if event.evdevKeyCode ∈ pressedKeys then
    if event.pressed then .duplicatePress else .accept
  else if !event.pressed then .unmatchedRelease
  else if pressedKeys.length = pressedKeyCapacity then .capacityFull
  else .accept

/-- `wd_keyboard_note_key_state` for a transition that is accepted. -/
def noteKeyState (pressedKeys : List Nat) (event : KeyEvent) : List Nat :=
  if event.pressed then pressedKeys ++ [event.evdevKeyCode]
  else pressedKeys.erase event.evdevKeyCode

def notifyKey (pressedKeys : List Nat) (event : KeyEvent) : List Nat :=
  if keyTransitionClassify pressedKeys event = .accept then
    noteKeyState pressedKeys event
  else pressedKeys

/-- The keys a client holds after one more event, whatever becomes of it. -/
def holds (held : List Nat) (event : KeyEvent) : List Nat :=
  if event.pressed then
    if event.evdevKeyCode ∈ held then held else held ++ [event.evdevKeyCode]
  else held.erase event.evdevKeyCode

structure KeyboardState where
  keyQueue : List KeyEvent
  pressedKeys : List Nat
  keyStateResetPending : Bool
  held : List Nat
  deriving DecidableEq, Repr

inductive KeyboardInput where
  | key (event : KeyEvent)
  | drain
  deriving DecidableEq, Repr

namespace KeyboardState

/-- A session starts with a reset of the keys that the last one left down. -/
def sessionStart (leftover : List Nat) : KeyboardState := ⟨[], leftover, true, []⟩

def queueEvent (s : KeyboardState) (event : KeyEvent) : KeyboardState :=
  { s with
    keyQueue := if s.keyQueue.length ≥ keyQueueCapacity then s.keyQueue
      else s.keyQueue ++ [event]
    held := holds s.held event }

/-- The table as the next drain finds it; a reset releases every key. -/
def settledKeys (s : KeyboardState) : List Nat :=
  if s.keyStateResetPending then [] else s.pressedKeys

def drainAndInject (s : KeyboardState) : KeyboardState :=
  { s with
    keyQueue := []
    pressedKeys := s.keyQueue.foldl notifyKey s.settledKeys
    keyStateResetPending := false }

def step (s : KeyboardState) : KeyboardInput → KeyboardState
  | .key event => s.queueEvent event
  | .drain => s.drainAndInject

def FindsRoom (s : KeyboardState) : KeyboardInput → Prop
  | .key event => s.keyQueue.length < keyQueueCapacity ∧
      (event.pressed = true → event.evdevKeyCode ∈ s.held ∨
        s.held.length < pressedKeyCapacity)
  | .drain => True

/-- Injecting what is queued leads to the keys that are held. -/
structure Follows (s : KeyboardState) : Prop where
  keys : s.keyQueue.foldl notifyKey s.settledKeys = s.held
  fits : s.held.length ≤ pressedKeyCapacity

end KeyboardState

theorem notifyKey_eq_holds {held : List Nat} {event : KeyEvent}
    (fits : held.length ≤ pressedKeyCapacity)
    (room : event.pressed = true → event.evdevKeyCode ∈ held ∨
      held.length < pressedKeyCapacity) :
    notifyKey held event = holds held event := by
  rw [notifyKey, keyTransitionClassify, if_neg (Nat.not_lt.mpr fits), holds]
  by_cases down : event.evdevKeyCode ∈ held
  · cases pressed : event.pressed <;> simp [down, noteKeyState, pressed]
  · cases pressed : event.pressed
    · simp [down, List.erase_of_not_mem]
    · have short := (room pressed).resolve_left down
      simp [down, noteKeyState, pressed, Nat.ne_of_lt short]

theorem length_holds_le {held : List Nat} {event : KeyEvent}
    (fits : held.length ≤ pressedKeyCapacity)
    (room : event.pressed = true → event.evdevKeyCode ∈ held ∨
      held.length < pressedKeyCapacity) :
    (holds held event).length ≤ pressedKeyCapacity := by
  rw [holds]
  split
  · rename_i pressed
    split
    · exact fits
    · rename_i up
      have short := (room pressed).resolve_left up
      rw [List.length_append, List.length_singleton]
      exact short
  · exact List.length_erase_le.trans fits

namespace KeyboardState

theorem Follows.step {s : KeyboardState} (follows : s.Follows)
    {input : KeyboardInput} (room : s.FindsRoom input) :
    (s.step input).Follows := by
  cases input with
  | key event =>
      have appended : (s.queueEvent event).keyQueue = s.keyQueue ++ [event] :=
        if_neg (Nat.not_le.mpr room.1)
      refine ⟨?_, length_holds_le follows.fits room.2⟩
      change (s.queueEvent event).keyQueue.foldl notifyKey s.settledKeys = _
      rw [appended, List.foldl_append, follows.keys]
      exact notifyKey_eq_holds follows.fits room.2
  | drain => exact ⟨follows.keys, follows.fits⟩

/-- While every event finds room, a drain leaves down exactly the held keys. -/
theorem drained_keys_held (leftover : List Nat) (inputs : List KeyboardInput)
    (room : Along step FindsRoom (sessionStart leftover) inputs) (key : Nat) :
    key ∈ ((runFrom step (sessionStart leftover)
        inputs).drainAndInject).pressedKeys ↔
      key ∈ (runFrom step (sessionStart leftover) inputs).held := by
  have follows : (runFrom step (sessionStart leftover) inputs).Follows :=
    invariant_runFrom (fun _ _ follows room => follows.step room)
      ⟨rfl, Nat.zero_le _⟩ room
  exact iff_of_eq (congrArg (key ∈ ·) follows.keys)

theorem runFrom_replicate_key (s : KeyboardState) (event : KeyEvent)
    {count : Nat} (room : s.keyQueue.length + count ≤ keyQueueCapacity) :
    runFrom step s (List.replicate count (.key event)) =
      { s with
        keyQueue := s.keyQueue ++ List.replicate count event
        held := (List.replicate count event).foldl holds s.held } := by
  induction count generalizing s with
  | zero => simp
  | succ count ih =>
      rw [List.replicate_succ, runFrom_cons, ih]
      · simp only [step, queueEvent]
        rw [if_neg (by omega), List.append_assoc]
        rfl
      · simp only [step, queueEvent]
        rw [if_neg (by omega), List.length_append, List.length_singleton]
        omega

theorem foldl_replicate_fixed {α β : Type} {change : β → α → β} {b : β} {a : α}
    (fixed : change b a = b) (count : Nat) :
    (List.replicate count a).foldl change b = b := by
  induction count with
  | zero => rfl
  | succ count ih => rw [List.replicate_succ, List.foldl_cons, fixed, ih]

/-- Key 1 is down, the queue is full of releases of key 2, and the release of
key 1 is lost. -/
def lostRelease : List KeyboardInput :=
  [.key ⟨1, true⟩, .drain] ++
    List.replicate keyQueueCapacity (.key ⟨2, false⟩) ++ [.key ⟨1, false⟩]

theorem lostRelease_sticks :
    ((runFrom step (sessionStart []) lostRelease).drainAndInject).pressedKeys =
        [1] ∧
      (runFrom step (sessionStart []) lostRelease).held = [] ∧
      (runFrom step (sessionStart []) lostRelease).keyStateResetPending =
        false := by
  have down : runFrom step (sessionStart []) [.key ⟨1, true⟩, .drain] =
      ⟨[], [1], false, [1]⟩ := by decide
  have held : (List.replicate keyQueueCapacity ⟨2, false⟩).foldl holds [1] =
      [1] := foldl_replicate_fixed (by decide) _
  have keys : (List.replicate keyQueueCapacity ⟨2, false⟩).foldl notifyKey [1] =
      [1] := foldl_replicate_fixed (by decide) _
  rw [lostRelease, runFrom_append, runFrom_append, down,
    runFrom_replicate_key _ _ (by simp), held, runFrom_cons, runFrom_nil]
  simp only [step, queueEvent, drainAndInject, settledKeys, List.nil_append,
    List.length_replicate, ge_iff_le, Nat.le_refl, if_true]
  exact ⟨keys, by decide, trivial⟩

/-- Three keys over two drains: key 7 is left from the last session, key 1 is
released again, and key 2 is pressed twice. -/
theorem drained_keys_held_twoDrains :
    let inputs := [.key ⟨1, true⟩, .key ⟨2, true⟩, .drain, .key ⟨1, false⟩,
      .key ⟨2, true⟩, .key ⟨3, true⟩]
    let keys := ((runFrom step (sessionStart [7]) inputs).drainAndInject)
    2 ∈ keys.pressedKeys ∧ 3 ∈ keys.pressedKeys ∧ 1 ∉ keys.pressedKeys ∧
      7 ∉ keys.pressedKeys := by
  intro inputs keys
  have room : Along step FindsRoom (sessionStart [7]) inputs :=
    ⟨⟨by decide, fun _ => .inr (by decide)⟩,
      ⟨by decide, fun _ => .inr (by decide)⟩, trivial,
      ⟨by decide, fun _ => .inr (by decide)⟩,
      ⟨by decide, fun _ => .inl (by decide)⟩,
      ⟨by decide, fun _ => .inr (by decide)⟩, trivial⟩
  have held := drained_keys_held [7] inputs room
  exact ⟨(held 2).mpr (by decide), (held 3).mpr (by decide),
    (held 1).not.mpr (by decide), (held 7).not.mpr (by decide)⟩

end KeyboardState

end WayDisplay.Server
