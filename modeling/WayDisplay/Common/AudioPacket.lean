import Mathlib.Algebra.Order.Ring.Nat

/-!
The header of an audio packet (`wd_audio_packet_payload_header`).
-/

namespace WayDisplay.Common

/-- The bit of the flags that is used is the discontinuity; the server never
makes an end-of-stream packet. -/
structure AudioPacketHeader where
  sessionId : Nat
  connectionToken : Nat
  audioEpoch : Nat
  mediaClockId : Nat
  sequence : Nat
  ptsSamples : Nat
  durationSamples : Nat
  dataSize : Nat
  discontinuity : Bool
  deriving DecidableEq, Repr

def audioFrameSamplesIsValid (frameSamples : Nat) : Bool :=
  frameSamples == 120 || frameSamples == 240 || frameSamples == 480 ||
    frameSamples == 960 || frameSamples == 1920 || frameSamples == 2880

end WayDisplay.Common
