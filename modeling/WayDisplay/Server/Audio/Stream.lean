import WayDisplay.Common.AudioPacket
import WayDisplay.Server.Audio.Capture
import WayDisplay.Server.Audio.FrameQueue

/-!
The audio stream of a session (`wd_audio_stream.c`, `wd_audio_packetizer.c`).

The capture callback writes to the queue of frames and raises the discontinuity
flag; the worker takes blocks, encodes them and hands the packets to the TCP
sender.  The sender is its queue of packets not yet started, which the worker
can drop, the packets that reach the wire and those that are lost: a send fails
when the connection is gone, and then nothing after it arrives, though the
sender goes on with the next packet and the worker is not told.  The encoder is
known by how often it was reset and by the blocks it was given since.
-/

namespace WayDisplay.Server.Audio

open WayDisplay.Common
open WayDisplay.Foundation

universe u

variable {Sample : Type u}

/-! ## The packetizer -/

structure Packetizer where
  sessionId : Nat
  connectionToken : Nat
  audioEpoch : Nat
  mediaClockId : Nat
  sequence : UInt64
  expectedPtsSamples : Nat
  haveExpectedPts : Bool
  forceDiscontinuity : Bool
  deriving DecidableEq, Repr

def Packetizer.begin (sessionId connectionToken audioEpoch mediaClockId : Nat) :
    Packetizer :=
  ⟨sessionId, connectionToken, audioEpoch, mediaClockId, 0, 0, false, true⟩

def Packetizer.markDiscontinuity (packetizer : Packetizer) : Packetizer :=
  { packetizer with
    forceDiscontinuity := true
    haveExpectedPts := false }

def Packetizer.accepts (packetizer : Packetizer)
    (ptsSamples durationSamples dataSize : Nat) : Bool :=
  !(packetizer.sessionId == 0 || packetizer.connectionToken == 0 ||
    packetizer.audioEpoch == 0 || packetizer.mediaClockId == 0 ||
    !audioFrameSamplesIsValid durationSamples || dataSize == 0 ||
    decide (dataSize > 16384) ||
    decide (uint64Max - ptsSamples < durationSamples) ||
    packetizer.sequence.toNat == uint64Max)

def Packetizer.flags (packetizer : Packetizer) (ptsSamples : Nat) : Bool :=
  packetizer.forceDiscontinuity ||
    (packetizer.haveExpectedPts &&
      ptsSamples != packetizer.expectedPtsSamples)

def Packetizer.header (packetizer : Packetizer)
    (ptsSamples durationSamples dataSize : Nat) : AudioPacketHeader where
  sessionId := packetizer.sessionId
  connectionToken := packetizer.connectionToken
  audioEpoch := packetizer.audioEpoch
  mediaClockId := packetizer.mediaClockId
  sequence := packetizer.sequence.toNat + 1
  ptsSamples := ptsSamples
  durationSamples := durationSamples
  dataSize := dataSize
  discontinuity := packetizer.flags ptsSamples

def Packetizer.afterPacket (packetizer : Packetizer)
    (ptsSamples durationSamples : Nat) : Packetizer :=
  { packetizer with
    sequence := packetizer.sequence + 1
    forceDiscontinuity := false
    haveExpectedPts := true
    expectedPtsSamples := ptsSamples + durationSamples }

def Packetizer.makePacket (packetizer : Packetizer)
    (ptsSamples durationSamples dataSize : Nat) :
    Option (AudioPacketHeader × Packetizer) :=
  if packetizer.accepts ptsSamples durationSamples dataSize then
    some (packetizer.header ptsSamples durationSamples dataSize,
      packetizer.afterPacket ptsSamples durationSamples)
  else none

/-! ## The stream -/

/-- The encoder's state: how often it was reset, and what it encoded since. -/
structure Encoder (Sample : Type u) where
  resets : Nat
  history : List (List (AudioFrame Sample))
  deriving DecidableEq

def Encoder.reset (encoder : Encoder Sample) : Encoder Sample :=
  ⟨encoder.resets + 1, []⟩

def Encoder.feed (encoder : Encoder Sample)
    (block : List (AudioFrame Sample)) : Encoder Sample :=
  { encoder with history := encoder.history ++ [block] }

structure AudioPacket (Sample : Type u) where
  header : AudioPacketHeader
  block : List (AudioFrame Sample)
  encoder : Encoder Sample
  deriving DecidableEq

inductive CapturePhase (Sample : Type u)
  | idle
  | stamped (call : WriteCall Sample)
  | writing
  | refused

inductive WorkerPhase (Sample : Type u)
  | top
  | polling
  | reading
  | holding (block : List (AudioFrame Sample))
  | encoding (block : List (AudioFrame Sample))
  | dropping
  | draining
  | dropped
  deriving DecidableEq

structure AudioStream (Sample : Type u) where
  mediaClockStart : Nat
  clock : CaptureClock
  capture : CapturePhase Sample
  queue : FrameQueue Sample
  force : Bool
  worker : WorkerPhase Sample
  encoder : Encoder Sample
  packetizer : Packetizer
  pending : List (AudioPacket Sample)
  wire : List (AudioPacket Sample)
  /-- Once the connection is gone, what was lost with it. -/
  lost : Option (List (AudioPacket Sample))

inductive StreamEvent (Sample : Type u)
  | capture (samples : Option (List Sample)) (frames channels : Nat)
      (timing : CaptureTiming)
  | captureWrite
  | capturePublish
  | captureFail
  | check (full : Bool)
  | startRead
  | finishRead
  | decide (resets : Bool)
  | encode (encoded : Option Nat) (sent : Bool)
  | startDrop
  | finishDrop
  | forceDiscontinuity
  | transmit
  | sever (arrived : Nat)

/-! ### The capture callback -/

def AudioStream.stampCapture (s : AudioStream Sample)
    (samples : Option (List Sample)) (frames channels : Nat)
    (timing : CaptureTiming) : AudioStream Sample :=
  let stamp := s.clock.stamp s.mediaClockStart timing frames
  { s with
    clock := stamp.clock
    force := s.force || stamp.force
    capture := .stamped (.writeCapture samples frames channels timing.silent
      (UInt64.ofNat stamp.firstPts)) }

def AudioStream.onCapture (s : AudioStream Sample)
    (samples : Option (List Sample)) (frames channels : Nat)
    (timing : CaptureTiming) : AudioStream Sample :=
  match s.capture with
  | .idle =>
      if (samples.isNone && !timing.silent) || frames == 0 ||
          decide (channels < s.queue.channels) then s
      else s.stampCapture samples frames channels timing
  | _ => s

def AudioStream.captureWrite (mixer : Mixer Sample) (s : AudioStream Sample) :
    AudioStream Sample :=
  match s.capture with
  | .stamped call =>
      if s.queue.admits call then
        { s with
          queue := s.queue.startWrite mixer call
          capture := .writing }
      else { s with capture := .refused }
  | _ => s

def AudioStream.capturePublish (s : AudioStream Sample) : AudioStream Sample :=
  match s.capture with
  | .writing => { s with queue := s.queue.publish, capture := .idle }
  | _ => s

def AudioStream.captureFail (s : AudioStream Sample) : AudioStream Sample :=
  match s.capture with
  | .refused => { s with force := true, capture := .idle }
  | _ => s

/-! ### The worker -/

def AudioStream.goTo (s : AudioStream Sample) (phase : WorkerPhase Sample) :
    AudioStream Sample :=
  { s with worker := phase }

/-- The first step of `wd_audio_stream_drop_stale_queue`. -/
def AudioStream.dropStaleQueue (s : AudioStream Sample) : AudioStream Sample :=
  { s with
    pending := []
    worker := .dropping }

def AudioStream.onCheck (s : AudioStream Sample) (full : Bool) :
    AudioStream Sample :=
  match s.worker with
  | .top => if full then s.dropStaleQueue else s.goTo .polling
  | _ => s

def AudioStream.startRead (s : AudioStream Sample) : AudioStream Sample :=
  match s.worker with
  | .polling =>
      if audioFrameSamples ≤ s.queue.frames.length then
        { s with
          queue := s.queue.startTake audioFrameSamples
          worker := .reading }
      else s.goTo .top
  | _ => s

def AudioStream.finishRead (s : AudioStream Sample) : AudioStream Sample :=
  match s.worker with
  | .reading =>
      { s with
        queue := s.queue.finishReading
        worker := .holding (s.queue.front audioFrameSamples) }
  | _ => s

def AudioStream.resetEncoder (s : AudioStream Sample) : AudioStream Sample :=
  { s with
    encoder := s.encoder.reset
    packetizer := s.packetizer.markDiscontinuity }

def AudioStream.setForce (s : AudioStream Sample) (force : Bool) :
    AudioStream Sample :=
  { s with force := force }

/-- The flag is only exchanged when the block itself is continuous. -/
def AudioStream.decideReset (s : AudioStream Sample)
    (block : List (AudioFrame Sample)) (resets : Bool) : AudioStream Sample :=
  if !(scanPts block).contiguous || s.force then
    if resets then
      ((s.setForce (s.force && !(scanPts block).contiguous)).resetEncoder).goTo
        (.encoding block)
    else (s.setForce true).goTo .top
  else s.goTo (.encoding block)

def AudioStream.onDecide (s : AudioStream Sample) (resets : Bool) :
    AudioStream Sample :=
  match s.worker with
  | .holding block => s.decideReset block resets
  | _ => s

def AudioStream.feedEncoder (s : AudioStream Sample)
    (block : List (AudioFrame Sample)) : AudioStream Sample :=
  { s with encoder := s.encoder.feed block }

def AudioStream.queuePacket (s : AudioStream Sample)
    (packet : AudioPacket Sample) : AudioStream Sample :=
  { s with pending := s.pending ++ [packet] }

def AudioStream.setPacketizer (s : AudioStream Sample)
    (packetizer : Packetizer) : AudioStream Sample :=
  { s with packetizer := packetizer }

/-- From the encoder to the sender.  A block the encoder fails on still went
through it. -/
def AudioStream.encodeBlock (s : AudioStream Sample)
    (block : List (AudioFrame Sample)) (encoded : Option Nat) (sent : Bool) :
    AudioStream Sample :=
  match encoded with
  | none => ((s.feedEncoder block).setForce true).goTo .top
  | some size =>
      match s.packetizer.makePacket (scanPts block).first.toNat
          audioFrameSamples size with
      | none => (s.feedEncoder block).goTo .top
      | some (header, packetizer) =>
          let made := (s.feedEncoder block).setPacketizer packetizer
          if sent then
            (made.queuePacket ⟨header, block, s.encoder⟩).goTo .top
          else made.dropStaleQueue

def AudioStream.onEncode (s : AudioStream Sample) (encoded : Option Nat)
    (sent : Bool) : AudioStream Sample :=
  match s.worker with
  | .encoding block => s.encodeBlock block encoded sent
  | _ => s

def AudioStream.startDrop (s : AudioStream Sample) : AudioStream Sample :=
  match s.worker with
  | .dropping =>
      { s with
        queue := s.queue.startDrop
        worker := .draining }
  | _ => s

def AudioStream.finishDrop (s : AudioStream Sample) : AudioStream Sample :=
  match s.worker with
  | .draining =>
      { s with
        queue := s.queue.finishReading
        worker := .dropped }
  | _ => s

def AudioStream.onForce (s : AudioStream Sample) : AudioStream Sample :=
  match s.worker with
  | .dropped => (s.setForce true).goTo .top
  | _ => s

def AudioStream.transmit (s : AudioStream Sample) : AudioStream Sample :=
  match s.pending with
  | [] => s
  | packet :: rest =>
      match s.lost with
      | none =>
          { s with
            pending := rest
            wire := s.wire ++ [packet] }
      | some lost =>
          { s with
            pending := rest
            lost := some (lost ++ [packet]) }

/-- The connection breaks with `arrived` packets through: those started after
them fail, or are lost on the way. -/
def AudioStream.sever (s : AudioStream Sample) (arrived : Nat) :
    AudioStream Sample :=
  { s with
    wire := s.wire.take arrived
    lost := some (s.wire.drop arrived ++ s.lost.getD []) }

def AudioStream.step (mixer : Mixer Sample) (s : AudioStream Sample) :
    StreamEvent Sample → AudioStream Sample
  | .capture samples frames channels timing =>
      s.onCapture samples frames channels timing
  | .captureWrite => s.captureWrite mixer
  | .capturePublish => s.capturePublish
  | .captureFail => s.captureFail
  | .check full => s.onCheck full
  | .startRead => s.startRead
  | .finishRead => s.finishRead
  | .decide resets => s.onDecide resets
  | .encode encoded sent => s.onEncode encoded sent
  | .startDrop => s.startDrop
  | .finishDrop => s.finishDrop
  | .forceDiscontinuity => s.onForce
  | .transmit => s.transmit
  | .sever arrived => s.sever arrived

/-- Capacity of the ring in frames: 200 ms. -/
def captureRingFrames : Nat := 9600

def AudioStream.start (packetizer : Packetizer) (channels : Nat)
    (mediaClockStart : Nat) : AudioStream Sample where
  mediaClockStart := mediaClockStart
  clock := .init
  capture := .idle
  queue := .init captureRingFrames channels
  force := true
  worker := .top
  encoder := ⟨0, []⟩
  packetizer := packetizer
  pending := []
  wire := []
  lost := none

def streamRun (mixer : Mixer Sample)
    (sessionId connectionToken audioEpoch mediaClockId : Nat)
    (channels mediaClockStart : Nat) (events : List (StreamEvent Sample)) :
    AudioStream Sample :=
  runFrom (AudioStream.step mixer)
    (.start (.begin sessionId connectionToken audioEpoch mediaClockId) channels
      mediaClockStart) events

end WayDisplay.Server.Audio
