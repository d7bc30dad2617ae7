import WayDisplay.Common.AudioPacket

/-!
The timeline that the client checks audio packets against, and the decoder it
resets (`client_audio_playback_handle_packet`).

The decoder is known by what it has decoded since its last reset, of any type.
Only the packets that the client accepts matter here, so the output side of the
playback is left out.
-/

namespace WayDisplay.Client

open WayDisplay.Common

universe u

variable {Block : Type u}

structure AudioPlayback (Block : Type u) where
  expectedSequence : Nat
  expectedPtsSamples : Nat
  haveExpectedPts : Bool
  decoder : List Block
  deriving DecidableEq, Repr

def AudioPlayback.configured : AudioPlayback Block :=
  ⟨0, 0, false, []⟩

def AudioPlayback.gapDetected (playback : AudioPlayback Block)
    (header : AudioPacketHeader) : Bool :=
  (playback.expectedSequence != 0 &&
      header.sequence != playback.expectedSequence) ||
    (playback.haveExpectedPts &&
      header.ptsSamples != playback.expectedPtsSamples)

def AudioPlayback.clearForDiscontinuity (playback : AudioPlayback Block) :
    AudioPlayback Block :=
  { playback with
    expectedPtsSamples := 0
    haveExpectedPts := false
    decoder := [] }

def AudioPlayback.prepare (playback : AudioPlayback Block)
    (header : AudioPacketHeader) : AudioPlayback Block :=
  if header.discontinuity || playback.gapDetected header then
    playback.clearForDiscontinuity
  else playback

def AudioPlayback.accept (playback : AudioPlayback Block)
    (header : AudioPacketHeader) (block : Block) : AudioPlayback Block where
  expectedSequence := (header.sequence + 1) % 2 ^ 64
  expectedPtsSamples := header.ptsSamples + header.durationSamples
  haveExpectedPts := true
  decoder := (playback.prepare header).decoder ++ [block]

def AudioPlayback.acceptAll (playback : AudioPlayback Block)
    (packets : List (AudioPacketHeader × Block)) : AudioPlayback Block :=
  packets.foldl (fun playback packet => playback.accept packet.1 packet.2)
    playback

end WayDisplay.Client
