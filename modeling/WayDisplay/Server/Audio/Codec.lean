import WayDisplay.Server.Audio.Timeline

/-!
The discontinuity flag and the resets of the two codecs.

The packetizer sets the flag after a reset of the encoder, but also on its own
when a block does not start where the last one ended.  A block with a jump of
the timestamps inside makes the worker reset the encoder; a jump that falls
between two blocks does not.  Where that does not happen, and every encoded
block gets its packet, the flag says exactly that the encoder was reset, and a
client's decoder has decoded what the encoder has encoded.
-/

namespace WayDisplay.Server.Audio

open WayDisplay.Common
open WayDisplay.Foundation

universe u

variable {Sample : Type u}

/-- A packet behind the one before it: the flag tells of a reset since then,
and the encoder went through nothing else in between. -/
structure Coupled (previous packet : AudioPacket Sample) : Prop where
  flagged : packet.header.discontinuity = true ↔
    previous.encoder.resets < packet.encoder.resets
  history : packet.encoder.history =
    if packet.header.discontinuity then []
    else previous.encoder.history ++ [previous.block]

structure Coded (packets : List (AudioPacket Sample)) : Prop where
  first : ∀ packet, packets.head? = some packet →
    packet.header.discontinuity = true ∧ packet.encoder.history = []
  next : packets.IsChain Coupled

/-- The packetizer is marked after a reset, and not otherwise. -/
def InStep (packets : List (AudioPacket Sample)) (encoder : Encoder Sample)
    (packetizer : Packetizer) : Prop :=
  (packetizer.forceDiscontinuity = true ∧ encoder.history = [] ∧
      ∀ last, packets.getLast? = some last →
        last.encoder.resets < encoder.resets) ∨
    (packetizer.forceDiscontinuity = false ∧ ∃ last,
      packets.getLast? = some last ∧ last.encoder.resets = encoder.resets ∧
      encoder.history = last.encoder.history ++ [last.block])

structure Paired (s : AudioStream Sample) : Prop where
  coded : Coded s.chain
  counted : ∀ packet ∈ s.chain, packet.encoder.resets ≤ s.encoder.resets
  inStep : s.force = true ∨ s.worker.drops = true ∨
    InStep s.chain s.encoder s.packetizer
  encoding : ∀ block, s.worker = .encoding block →
    InStep s.chain s.encoder s.packetizer

/-- The packetizer accepts the block that was encoded, and the block starts
where the last packet ended unless the encoder has been reset. -/
def AudioStream.smooth (s : AudioStream Sample) : StreamEvent Sample → Bool
  | .encode (some size) _ =>
      match s.worker with
      | .encoding block =>
          s.packetizer.accepts (scanPts block).first.toNat audioFrameSamples
              size &&
            (s.packetizer.forceDiscontinuity ||
              (scanPts block).first.toNat == s.packetizer.expectedPtsSamples)
      | _ => true
  | _ => true

theorem AudioStream.smooth_encode {s : AudioStream Sample} {size : Nat}
    {sent : Bool} {block : List (AudioFrame Sample)}
    (encoding : s.worker = .encoding block)
    (smooth : s.smooth (.encode (some size) sent) = true) :
    s.packetizer.accepts (scanPts block).first.toNat audioFrameSamples size =
        true ∧
      (s.packetizer.forceDiscontinuity = true ∨
        (scanPts block).first.toNat = s.packetizer.expectedPtsSamples) := by
  simpa [AudioStream.smooth, encoding] using smooth

theorem Coded.shorten {packets fewer : List (AudioPacket Sample)}
    (coded : Coded packets) (within : fewer <+: packets) : Coded fewer := by
  obtain ⟨rest, rfl⟩ := within
  refine ⟨fun packet head => coded.first packet ?_, coded.next.left_of_append⟩
  rw [List.head?_append, head]
  rfl

theorem Coded.snoc {packets : List (AudioPacket Sample)}
    {packet : AudioPacket Sample} (coded : Coded packets)
    (first : packets = [] →
      packet.header.discontinuity = true ∧ packet.encoder.history = [])
    (follows : ∀ last, packets.getLast? = some last → Coupled last packet) :
    Coded (packets ++ [packet]) where
  first other head := by
    cases packets with
    | nil =>
        obtain rfl : packet = other := Option.some.inj head
        exact first rfl
    | cons start rest => exact coded.first other head
  next := by
    refine List.isChain_append.mpr ⟨coded.next, .singleton _, ?_⟩
    intro last isLast other isHead
    obtain rfl : packet = other := Option.some.inj isHead
    exact follows last isLast

theorem InStep.coupled {s : AudioStream Sample}
    {block : List (AudioFrame Sample)} {size : Nat}
    (inStep : InStep s.chain s.encoder s.packetizer)
    (smooth : s.packetizer.forceDiscontinuity = true ∨
      (scanPts block).first.toNat = s.packetizer.expectedPtsSamples)
    (coded : Coded s.chain) :
    Coded (s.chain ++ [s.packet block (s.packetizer.header
      (scanPts block).first.toNat audioFrameSamples size)]) := by
  rcases inStep with ⟨marked, empty, below⟩ | ⟨unmarked, last, isLast, same, history⟩
  · have flag : s.packetizer.flags (scanPts block).first.toNat = true := by
      simp [Packetizer.flags, marked]
    refine coded.snoc (fun _ => ⟨flag, empty⟩) fun last isLast => ?_
    refine ⟨iff_of_true flag (below last isLast), empty.trans ?_⟩
    exact (if_pos flag).symm
  · have equal := smooth.resolve_left fun marked =>
      absurd (unmarked.symm.trans marked) Bool.false_ne_true
    have flag : s.packetizer.flags (scanPts block).first.toNat = false := by
      simp [Packetizer.flags, unmarked, equal]
    refine coded.snoc (fun none => ?_) fun other isOther => ?_
    · rw [none] at isLast
      exact nomatch isLast
    · obtain rfl : last = other := Option.some.inj (isLast.symm.trans isOther)
      refine ⟨iff_of_false (fun set => ?_) (Nat.not_lt_of_ge ?_),
        history.trans ?_⟩
      · exact absurd (flag.symm.trans set) Bool.false_ne_true
      · exact Nat.le_of_eq same.symm
      · refine (if_neg fun set => ?_).symm
        exact absurd (flag.symm.trans set) Bool.false_ne_true

theorem Paired.of_effect {event : StreamEvent Sample}
    {s s' : AudioStream Sample} (paired : Paired s)
    (smooth : s.smooth event = true)
    (effect : Effect event s s') : Paired s' := by
  cases effect with
  | quiet chain encoder packetizer raised drops encoding =>
      refine ⟨chain ▸ paired.coded, ?_, ?_, fun block now => ?_⟩
      · rw [chain, encoder]
        exact paired.counted
      · rcases paired.inStep with force | dropping | inStep
        · exact .inl (raised force)
        · exact (drops dropping).elim (fun still => .inr (.inl still)) .inl
        · exact .inr (.inr (by rw [chain, encoder, packetizer]; exact inStep))
      · rw [chain, encoder, packetizer]
        exact paired.encoding block (encoding block now)
  | drop chain drops resets =>
      refine ⟨paired.coded.shorten chain, fun packet member => ?_,
        .inr (.inl drops), fun block now => ?_⟩
      · rw [resets]
        exact paired.counted packet (chain.subset member)
      · rw [now] at drops
        exact absurd drops Bool.false_ne_true
  | goesOn block holding lowered contiguous worker chain encoder packetizer =>
      have inStep : InStep s'.chain s'.encoder s'.packetizer := by
        rw [chain, encoder, packetizer]
        rcases paired.inStep with force | dropping | inStep
        · exact absurd (lowered.symm.trans force) Bool.false_ne_true
        · rw [holding] at dropping
          exact absurd dropping Bool.false_ne_true
        · exact inStep
      refine ⟨chain ▸ paired.coded, ?_, .inr (.inr inStep), fun _ _ => inStep⟩
      rw [chain, encoder]
      exact paired.counted
  | resets block holding worker chain encoder packetizer =>
      have inStep : InStep s'.chain s'.encoder s'.packetizer := by
        rw [chain, encoder, packetizer]
        refine .inl ⟨rfl, rfl, fun last isLast => ?_⟩
        exact Nat.lt_succ_of_le
          (paired.counted last (List.mem_of_getLast? isLast))
      refine ⟨chain ▸ paired.coded, ?_, .inr (.inr inStep), fun _ _ => inStep⟩
      rw [chain, encoder]
      exact fun packet member =>
        Nat.le_succ_of_le (paired.counted packet member)
  | fails chain resets packetizer raised worker =>
      refine ⟨chain ▸ paired.coded, ?_, .inl raised, fun _ now =>
        nomatch worker.symm.trans now⟩
      rw [chain, resets]
      exact paired.counted
  | unmade block size sent called encoding refused worker chain encoder
      packetizer =>
      have accepted := (AudioStream.smooth_encode encoding (called ▸ smooth)).1
      exact absurd (refused.symm.trans accepted) Bool.false_ne_true
  | makes block size sent called encoding accepted encoder packetizer worker
      chain =>
      have level := (AudioStream.smooth_encode encoding (called ▸ smooth)).2
      have inStep := paired.encoding block encoding
      refine ⟨chain ▸ inStep.coupled level paired.coded, ?_, ?_,
        fun _ now => nomatch worker.symm.trans now⟩
      · rw [chain, encoder]
        intro packet member
        rcases List.mem_append.mp member with old | new
        · exact paired.counted packet old
        · rw [List.mem_singleton.mp new]
          exact Nat.le_refl _
      · rw [chain, encoder, packetizer]
        exact .inr (.inr (.inr ⟨rfl, _, List.getLast?_concat, rfl, rfl⟩))

theorem paired_start (packetizer : Packetizer)
    (channels mediaClockStart : Nat) :
    Paired (AudioStream.start packetizer channels mediaClockStart :
      AudioStream Sample) where
  coded := ⟨fun _ head => absurd head (by simp [AudioStream.chain,
    AudioStream.sent, AudioStream.start]), .nil⟩
  counted _ member := absurd member List.not_mem_nil
  inStep := .inl rfl
  encoding _ now := nomatch now

/-! ## What the client decodes -/

/-- The encoder was reset after the packet before was encoded.  The first
packet on the wire comes from a new encoder. -/
def ResetSince (wire : List (AudioPacket Sample)) (index : Nat)
    (packet : AudioPacket Sample) : Prop :=
  ∀ earlier previous, index = earlier + 1 → wire[earlier]? = some previous →
    previous.encoder.resets < packet.encoder.resets

structure CodecLaw (s : AudioStream Sample) : Prop where
  flagged : ∀ (index : Nat) packet, s.wire[index]? = some packet →
    (packet.header.discontinuity = true ↔ ResetSince s.wire index packet)
  /-- A client that accepted all packets before has decoded, since its last
  reset, what the encoder had encoded since its own. -/
  decodes : ∀ (index : Nat) packet, s.wire[index]? = some packet →
    ((Client.AudioPlayback.configured.acceptAll
      ((s.wire.take index).map AudioPacket.received)).prepare
        packet.header).decoder = packet.encoder.history

variable {packets : List (AudioPacket Sample)}

theorem Coded.coupled (coded : Coded packets) {earlier : Nat}
    {previous packet : AudioPacket Sample}
    (before : packets[earlier]? = some previous)
    (found : packets[earlier + 1]? = some packet) :
    Coupled previous packet := by
  obtain ⟨bound, rfl⟩ := List.getElem?_eq_some_iff.mp found
  obtain ⟨-, rfl⟩ := List.getElem?_eq_some_iff.mp before
  exact List.isChain_iff_getElem.mp coded.next earlier bound

theorem Coded.flagged (coded : Coded packets) {index : Nat}
    {packet : AudioPacket Sample} (found : packets[index]? = some packet) :
    packet.header.discontinuity = true ↔ ResetSince packets index packet := by
  cases index with
  | zero =>
      have flag := coded.first packet (List.head?_eq_getElem?.trans found)
      exact iff_of_true flag.1 fun earlier _ none => absurd none (by omega)
  | succ earlier =>
      have bound := (List.getElem?_eq_some_iff.mp found).1
      have before : packets[earlier]? = some packets[earlier] :=
        List.getElem?_eq_getElem (by omega)
      refine (coded.coupled before found).flagged.trans ⟨?_, ?_⟩
      · intro reset other previous same isPrevious
        obtain rfl : earlier = other := Nat.succ.inj same
        obtain rfl := Option.some.inj (before.symm.trans isPrevious)
        exact reset
      · exact fun since => since earlier _ rfl before

theorem prepare_of_flag {playback : Client.AudioPlayback
      (List (AudioFrame Sample))} {header : AudioPacketHeader}
    (flag : header.discontinuity = true) :
    (playback.prepare header).decoder = [] := by
  simp [Client.AudioPlayback.prepare, flag,
    Client.AudioPlayback.clearForDiscontinuity]

theorem Coded.decodes (coded : Coded packets) (linked : Linked packets)
    {index : Nat} {packet : AudioPacket Sample}
    (found : packets[index]? = some packet) :
    ((Client.AudioPlayback.configured.acceptAll
      ((packets.take index).map AudioPacket.received)).prepare
        packet.header).decoder = packet.encoder.history := by
  induction index generalizing packet with
  | zero =>
      have first := coded.first packet (List.head?_eq_getElem?.trans found)
      rw [prepare_of_flag first.1, first.2]
  | succ earlier ih =>
      have bound := (List.getElem?_eq_some_iff.mp found).1
      have before : packets[earlier]? = some packets[earlier] :=
        List.getElem?_eq_getElem (by omega)
      have history := (coded.coupled before found).history
      cases flag : packet.header.discontinuity with
      | true =>
          rw [prepare_of_flag flag, history, if_pos flag]
      | false =>
          obtain ⟨other, previous, same, isPrevious, continues⟩ :=
            linked.previous found flag
          obtain rfl : earlier = other := Nat.succ.inj same
          obtain rfl : packets[earlier] = previous :=
            Option.some.inj (before.symm.trans isPrevious)
          have seamless := gapDetected_continues
            (Client.AudioPlayback.configured.acceptAll
              ((packets.take earlier).map AudioPacket.received)) continues
            (linked.stamped packet (List.mem_of_getElem? found)).1
          rw [acceptAll_take before, Client.AudioPlayback.prepare, flag,
            seamless, history, flag]
          exact congrArg (· ++ [packets[earlier].block]) (ih before)

theorem Paired.law {s : AudioStream Sample} (paired : Paired s)
    (timed : Timed s) : CodecLaw s := by
  have within := s.wire_prefix_chain
  have coded := paired.coded.shorten within
  exact ⟨fun _ _ => coded.flagged, fun _ _ =>
    coded.decodes (timed.linked.shorten within)⟩

theorem codecLaw_of_smoothRun (mixer : Mixer Sample)
    (sessionId connectionToken audioEpoch mediaClockId : Nat)
    (channels mediaClockStart : Nat) (events : List (StreamEvent Sample))
    (smooth : Along (AudioStream.step mixer)
      (fun s event => s.smooth event = true)
      (.start (.begin sessionId connectionToken audioEpoch mediaClockId)
        channels mediaClockStart) events) :
    CodecLaw (streamRun mixer sessionId connectionToken audioEpoch
      mediaClockId channels mediaClockStart events) :=
  have paired : Paired (streamRun mixer sessionId connectionToken audioEpoch
      mediaClockId channels mediaClockStart events) :=
    invariant_runFrom (fun s event kept level =>
        Paired.of_effect kept level (step_effect mixer s event))
      (paired_start _ channels mediaClockStart) smooth
  paired.law (streamRun_timed mixer sessionId connectionToken audioEpoch
    mediaClockId channels mediaClockStart events).1

/-! ## A jump between two blocks -/

def unitMixer : Mixer Unit := ⟨(), fun _ _ => ()⟩

def graphCycle (position : Nat) : CaptureTiming :=
  ⟨1, true, position, false, 7, 1, 48000, true⟩

def captureAndSend (position : Nat) : List (StreamEvent Unit) :=
  [.capture none audioFrameSamples 1 (graphCycle position), .captureWrite,
   .capturePublish, .check false, .startRead, .finishRead, .decide true,
   .encode (some 100) true, .transmit]

theorem codecLaw_of_steadyClock :
    CodecLaw (streamRun unitMixer 1 1 1 1 1 1
        (captureAndSend 0 ++ captureAndSend 960)) ∧
      (streamRun unitMixer 1 1 1 1 1 1
          (captureAndSend 0 ++ captureAndSend 960)).wire.map
        (fun packet => packet.header.discontinuity) = [true, false] :=
  ⟨codecLaw_of_smoothRun unitMixer 1 1 1 1 1 1 _ (by decide +kernel),
    by decide +kernel⟩

/-- The graph clock skips ten samples between two cycles, which is within the
tolerance of the callback. -/
def skippedSamples : AudioStream Unit :=
  streamRun unitMixer 1 1 1 1 1 1 (captureAndSend 0 ++ captureAndSend 970)

theorem skippedSamples_flagged :
    skippedSamples.wire.map (fun packet => (packet.header.discontinuity,
        packet.encoder.resets, packet.encoder.history.length)) =
        [(true, 1, 0), (true, 1, 1)] ∧
      ¬ CodecLaw skippedSamples := by
  have flags : skippedSamples.wire.map (fun packet =>
      (packet.header.discontinuity, packet.encoder.resets,
        packet.encoder.history.length)) = [(true, 1, 0), (true, 1, 1)] := by
    decide +kernel
  refine ⟨flags, fun law => ?_⟩
  obtain ⟨first, rest, wire, before, flags⟩ := List.map_eq_cons_iff.mp flags
  obtain ⟨second, none, rfl, after, -⟩ := List.map_eq_cons_iff.mp flags
  simp only [Prod.mk.injEq] at before after
  -- the second packet is flagged, so the encoder was reset before it
  have reset := (law.flagged 1 second (by rw [wire]; rfl)).mp after.1 0 first
    rfl (by rw [wire]; rfl)
  omega

end WayDisplay.Server.Audio
