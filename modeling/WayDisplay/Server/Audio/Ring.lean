import Mathlib.Data.List.Chain
import WayDisplay.Foundation.Runs
import WayDisplay.Foundation.SharedRing

/-!
The PCM ring between the capture callback and the audio worker
(`wd_audio_ring.c`).

A call of either side is a first step, with its argument checks and the load of
the other side's position, one step per frame copied, and a last step that
stores its own position.  Samples are of any type with silence and a mix of two
channels; positions do not wrap, timestamps do.
-/

namespace WayDisplay.Server.Audio

open WayDisplay.Foundation
open WayDisplay.Foundation.SharedRing

universe u

variable {Sample : Type u}

structure AudioFrame (Sample : Type u) where
  samples : List Sample
  pts : UInt64
  deriving DecidableEq, Repr

/-- Silence, and the mean of two channels. -/
structure Mixer (Sample : Type u) where
  silence : Sample
  mix : Sample → Sample → Sample

/-! ## Calls of the producer -/

/-- The arguments of the three write functions; `none` is a null pointer. -/
inductive WriteCall (Sample : Type u)
  | write (samples : Option (List Sample)) (frames : Nat) (firstPts : UInt64)
  | writeCapture (samples : Option (List Sample)) (frames : Nat)
      (sourceChannels : Nat) (silent : Bool) (firstPts : UInt64)
  | writePlanar (planes : Option (List (Option (List Sample))))
      (frames : Nat) (firstPts : UInt64)

def WriteCall.frames : WriteCall Sample → Nat
  | .write _ frames _ => frames
  | .writeCapture _ frames _ _ _ => frames
  | .writePlanar _ frames _ => frames

def WriteCall.firstPts : WriteCall Sample → UInt64
  | .write _ _ firstPts => firstPts
  | .writeCapture _ _ _ _ firstPts => firstPts
  | .writePlanar _ _ firstPts => firstPts

def WriteCall.argumentsValid (channels : Nat) : WriteCall Sample → Bool
  | .write samples _ _ => samples.isSome
  | .writeCapture samples _ sourceChannels silent _ =>
      !(sourceChannels == 0 || decide (sourceChannels > 2) ||
          (!silent && samples.isNone)) &&
        !(!silent && sourceChannels != channels &&
          !(sourceChannels == 2 && channels == 1))
  | .writePlanar planes _ _ =>
      match planes with
      | none => false
      | some planes => (List.range channels).all fun channel =>
          (planes.getD channel none).isSome

def WriteCall.frameSamples (mixer : Mixer Sample) (channels : Nat)
    (frame : Nat) : WriteCall Sample → List Sample
  | .write samples _ _ =>
      ((samples.getD []).drop (frame * channels)).take channels
  | .writeCapture samples _ sourceChannels silent _ =>
      if silent then List.replicate channels mixer.silence
      else if sourceChannels = channels then
        ((samples.getD []).drop (frame * sourceChannels)).take channels
      else
        [mixer.mix ((samples.getD []).getD (frame * 2) mixer.silence)
          ((samples.getD []).getD (frame * 2 + 1) mixer.silence)]
  | .writePlanar planes _ _ =>
      (List.range channels).map fun channel =>
        (((planes.getD []).getD channel none).getD []).getD frame
          mixer.silence

def WriteCall.items (mixer : Mixer Sample) (channels : Nat)
    (call : WriteCall Sample) : List (AudioFrame Sample) :=
  (List.range call.frames).map fun frame =>
    ⟨call.frameSamples mixer channels frame,
      call.firstPts + UInt64.ofNat frame⟩

@[simp]
theorem WriteCall.items_length (mixer : Mixer Sample) (channels : Nat)
    (call : WriteCall Sample) :
    (call.items mixer channels).length = call.frames := by
  simp [WriteCall.items]

/-! ## The timestamps of a read -/

structure PtsScan where
  contiguous : Bool
  first : UInt64
  previous : UInt64
  deriving DecidableEq, Repr

def PtsScan.step (scan : PtsScan) (frame : Nat) (pts : UInt64) : PtsScan where
  contiguous :=
    if frame = 0 then scan.contiguous
    else if pts ≠ scan.previous + 1 then false
    else scan.contiguous
  first := if frame = 0 then pts else scan.first
  previous := pts

def scanFrom (frame : Nat) (scan : PtsScan) : List UInt64 → PtsScan
  | [] => scan
  | pts :: rest => scanFrom (frame + 1) (scan.step frame pts) rest

def scanPts (frames : List (AudioFrame Sample)) : PtsScan :=
  scanFrom 0 ⟨true, 0, 0⟩ (frames.map AudioFrame.pts)

/-! ## The ring -/

structure AudioRing (Sample : Type u) where
  ring : SharedRing.Ring (AudioFrame Sample)
  channels : Nat
  overruns : Nat

/-- `write - read` on 64-bit positions. -/
def queuedDistance (ring : SharedRing.Ring (AudioFrame Sample)) : Nat :=
  (ring.write + 2 ^ 64 - ring.read) % 2 ^ 64

def AudioRing.hasNoRoom (audio : AudioRing Sample) (frames : Nat) : Bool :=
  decide (queuedDistance audio.ring > audio.ring.capacity) ||
    decide (frames >
      audio.ring.capacity - queuedDistance audio.ring % 2 ^ 32)

inductive Consumed (Sample : Type u)
  | read (frames : List (AudioFrame Sample)) (firstPts : UInt64)
      (continuity : Bool)
  | dropped (frames : List (AudioFrame Sample))

def Consumed.frames : Consumed Sample → List (AudioFrame Sample)
  | .read frames _ _ => frames
  | .dropped frames => frames

/-- The ring with what was written and consumed so far, and the frames that
were queued when a drop loaded the write position. -/
structure RingRun (Sample : Type u) where
  audio : AudioRing Sample
  written : List (AudioFrame Sample)
  consumed : List (Consumed Sample)
  observed : List (AudioFrame Sample)

def RingRun.queued (run : RingRun Sample) : List (AudioFrame Sample) :=
  (List.range (run.audio.ring.write - run.audio.ring.read)).map fun index =>
    run.audio.ring.slot (run.audio.ring.read + index)

def RingRun.setRing (run : RingRun Sample) (ring : SharedRing.Ring (AudioFrame Sample)) :
    RingRun Sample :=
  { run with audio := { run.audio with ring := ring } }

def RingRun.countOverrun (run : RingRun Sample) : RingRun Sample :=
  { run with audio := { run.audio with overruns := run.audio.overruns + 1 } }

/-- The steps of the producer and of the consumer.  A step that is not the next
one of its side does nothing. -/
inductive RingEvent (Sample : Type u)
  | write (call : WriteCall Sample)
  | store
  | publish
  | read (frames : Nat)
  | fetch
  | finishRead
  | dropAll
  | finishDrop

def RingRun.write (mixer : Mixer Sample) (run : RingRun Sample)
    (call : WriteCall Sample) : RingRun Sample :=
  match run.audio.ring.writer with
  | .storing _ _ => run
  | .idle =>
      if call.frames = 0 ∨ call.frames > run.audio.ring.capacity ∨
          call.argumentsValid run.audio.channels = false then run
      else if run.audio.hasNoRoom call.frames then run.countOverrun
      else run.setRing
        (run.audio.ring.startStore (call.items mixer run.audio.channels))

def RingRun.store (run : RingRun Sample) : RingRun Sample :=
  match run.audio.ring.writer with
  | .idle => run
  | .storing items stored =>
      match items[stored]? with
      | none => run
      | some item => run.setRing (run.audio.ring.storeItem items stored item)

def RingRun.logWrite (run : RingRun Sample)
    (items : List (AudioFrame Sample)) : RingRun Sample :=
  { run with written := run.written ++ items }

def RingRun.publish (run : RingRun Sample) : RingRun Sample :=
  match run.audio.ring.writer with
  | .idle => run
  | .storing items stored =>
      if stored = items.length then
        (run.setRing (run.audio.ring.publish items)).logWrite items
      else run

def RingRun.read (run : RingRun Sample) (frames : Nat) : RingRun Sample :=
  match run.audio.ring.reader with
  | .idle =>
      if frames = 0 then run
      else if queuedDistance run.audio.ring < frames then run
      else run.setRing (run.audio.ring.startFetch frames)
  | _ => run

def RingRun.fetch (run : RingRun Sample) : RingRun Sample :=
  match run.audio.ring.reader with
  | .fetching count fetched =>
      if fetched.length < count then
        run.setRing (run.audio.ring.fetchItem count fetched)
      else run
  | _ => run

def RingRun.logConsumed (run : RingRun Sample) (consumed : Consumed Sample) :
    RingRun Sample :=
  { run with consumed := run.consumed ++ [consumed] }

/-- The read position is stored, and the first timestamp and the continuity
flag are returned with the frames. -/
def RingRun.finishRead (run : RingRun Sample) : RingRun Sample :=
  match run.audio.ring.reader with
  | .fetching count fetched =>
      if fetched.length = count then
        (run.setRing (run.audio.ring.advance
          (run.audio.ring.read + count))).logConsumed
            (.read fetched (scanPts fetched).first
              (scanPts fetched).contiguous)
      else run
  | _ => run

def RingRun.dropAll (run : RingRun Sample) : RingRun Sample :=
  match run.audio.ring.reader with
  | .idle =>
      { run.setRing run.audio.ring.startDrop with observed := run.queued }
  | _ => run

def RingRun.finishDrop (run : RingRun Sample) : RingRun Sample :=
  match run.audio.ring.reader with
  | .dropping seen =>
      (run.setRing (run.audio.ring.advance seen)).logConsumed
        (.dropped run.observed)
  | _ => run

def RingRun.step (mixer : Mixer Sample) (run : RingRun Sample) :
    RingEvent Sample → RingRun Sample
  | .write call => run.write mixer call
  | .store => run.store
  | .publish => run.publish
  | .read frames => run.read frames
  | .fetch => run.fetch
  | .finishRead => run.finishRead
  | .dropAll => run.dropAll
  | .finishDrop => run.finishDrop

def RingRun.init (mixer : Mixer Sample) (capacity channels : Nat) :
    RingRun Sample where
  audio := {
    ring := empty capacity ⟨List.replicate channels mixer.silence, 0⟩
    channels := channels
    overruns := 0 }
  written := []
  consumed := []
  observed := []

def ringRun (mixer : Mixer Sample) (capacity channels : Nat)
    (events : List (RingEvent Sample)) : RingRun Sample :=
  runFrom (RingRun.step mixer) (.init mixer capacity channels) events

end WayDisplay.Server.Audio
