import WayDisplay.Common.AsyncTcpPolicy

/-!
The timestamps of captured audio (`wd_audio_stream_capture`).
-/

namespace WayDisplay.Server.Audio

open WayDisplay.Common

def audioSampleRate : Nat := 48000

def audioFrameSamples : Nat := 960

def timestampToleranceCycles : Nat := 2

structure CaptureTiming where
  cycleStartNs : Nat
  positionReliable : Bool
  position : Nat
  discontinuity : Bool
  clockId : Nat
  rateNum : Nat
  rateDenom : Nat
  silent : Bool
  deriving DecidableEq, Repr

structure CaptureClock where
  nextPts : Nat
  originPosition : Nat
  originPts : Nat
  clockId : Nat
  rateNum : Nat
  rateDenom : Nat
  ptsValid : Bool
  clockValid : Bool
  deriving DecidableEq, Repr

def CaptureClock.init : CaptureClock := ⟨0, 0, 0, 0, 0, 0, false, false⟩

def mediaNsToSamples (now origin : Nat) : Nat :=
  let delta := if now > origin then now - origin else 0
  let seconds := delta / 10 ^ 9
  if seconds > uint64Max / audioSampleRate then uint64Max
  else
    let whole := seconds * audioSampleRate
    let fraction := delta % 10 ^ 9 * audioSampleRate / 10 ^ 9
    if uint64Max - whole < fraction then uint64Max else whole + fraction

def graphTicksToSamples (ticks rateNum rateDenom : Nat) : Nat :=
  if rateNum = 0 ∨ rateDenom = 0 then 0
  else
    let samples := ticks * audioSampleRate * rateNum / rateDenom
    if samples > uint64Max then uint64Max else samples

def absDifference (a b : Nat) : Nat := if a ≥ b then a - b else b - a

/-- What the callback works out before it writes: the first timestamp, its
fields, and whether it raises the discontinuity flag. -/
structure CaptureStamp where
  firstPts : Nat
  clock : CaptureClock
  force : Bool
  deriving DecidableEq, Repr

def CaptureClock.continues (clock : CaptureClock) (timing : CaptureTiming) :
    Bool :=
  clock.clockValid && !timing.discontinuity &&
    timing.clockId == clock.clockId && timing.rateNum == clock.rateNum &&
    timing.rateDenom == clock.rateDenom &&
    decide (timing.position ≥ clock.originPosition) &&
    !decide (uint64Max - clock.originPts <
      graphTicksToSamples (timing.position - clock.originPosition)
        timing.rateNum timing.rateDenom)

def CaptureClock.anchor (clock : CaptureClock) (timing : CaptureTiming)
    (pts : Nat) : CaptureClock :=
  { clock with
    clockValid := true
    originPosition := timing.position
    originPts := pts
    clockId := timing.clockId
    rateNum := timing.rateNum
    rateDenom := timing.rateDenom }

def CaptureClock.moveOrigin (clock : CaptureClock) (timing : CaptureTiming)
    (pts : Nat) : CaptureClock :=
  { clock with
    originPosition := timing.position
    originPts := pts }

def CaptureClock.stampReliable (clock : CaptureClock) (timing : CaptureTiming)
    (observed tolerance : Nat) : CaptureStamp :=
  if !clock.continues timing then
    ⟨observed, clock.anchor timing observed, clock.ptsValid⟩
  else
    let firstPts := clock.originPts +
      graphTicksToSamples (timing.position - clock.originPosition)
        timing.rateNum timing.rateDenom
    if clock.ptsValid &&
        decide (absDifference firstPts clock.nextPts > tolerance) then
      ⟨observed, clock.moveOrigin timing observed, true⟩
    else ⟨firstPts, clock, false⟩

def CaptureClock.invalidate (clock : CaptureClock) : CaptureClock :=
  { clock with clockValid := false }

def CaptureClock.stampUnreliable (clock : CaptureClock)
    (timing : CaptureTiming) (observed tolerance : Nat) : CaptureStamp :=
  if clock.ptsValid then
    if !timing.discontinuity &&
        decide (absDifference observed clock.nextPts ≤ tolerance) then
      ⟨clock.nextPts, clock.invalidate, false⟩
    else ⟨observed, clock.invalidate, true⟩
  else ⟨observed, clock.invalidate, false⟩

def CaptureClock.advance (clock : CaptureClock) (firstPts frames : Nat) :
    CaptureClock :=
  { clock with
    ptsValid := true
    nextPts :=
      if uint64Max - firstPts < frames then uint64Max else firstPts + frames }

def CaptureClock.stamp (clock : CaptureClock) (mediaClockStart : Nat)
    (timing : CaptureTiming) (frames : Nat) : CaptureStamp :=
  let observed := mediaNsToSamples timing.cycleStartNs mediaClockStart
  let tolerance := frames * timestampToleranceCycles
  let stamp :=
    if timing.positionReliable then
      clock.stampReliable timing observed tolerance
    else clock.stampUnreliable timing observed tolerance
  { stamp with clock := stamp.clock.advance stamp.firstPts frames }

end WayDisplay.Server.Audio
