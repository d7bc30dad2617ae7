import WayDisplay.Client.AudioPlayback
import WayDisplay.Server.Audio.Stream

/-!
What every interleaving keeps of the timeline of the packets on the wire.

`Effect` lists what one step can do to the packets, the packetizer, the encoder
and the discontinuity flag.  A packet can leave the sender's queue unsent, or a
block can be lost before it is packed, only on the way to a raised flag; until
it is raised or the packetizer is marked, the packetizer expects what follows
the last packet that was queued.
-/

namespace WayDisplay.Server.Audio

open WayDisplay.Common
open WayDisplay.Foundation

universe u

variable {Sample : Type u}

def AudioStream.sent (s : AudioStream Sample) : List (AudioPacket Sample) :=
  s.wire ++ s.lost.getD []

/-- The packets the sender took and the worker did not drop, in order. -/
def AudioStream.chain (s : AudioStream Sample) : List (AudioPacket Sample) :=
  s.sent ++ s.pending

theorem AudioStream.wire_prefix_chain (s : AudioStream Sample) :
    s.wire <+: s.chain :=
  (List.prefix_append _ _).trans (List.prefix_append _ _)

theorem AudioStream.transmit_chain (s : AudioStream Sample) :
    s.transmit.chain = s.chain := by
  unfold AudioStream.transmit
  split
  · rfl
  · next packet rest pending =>
      split <;> next lost => simp [AudioStream.chain, AudioStream.sent, lost,
        pending]

theorem AudioStream.transmit_same (s : AudioStream Sample) :
    s.transmit.worker = s.worker ∧ s.transmit.queue = s.queue ∧
      s.transmit.encoder = s.encoder ∧ s.transmit.packetizer = s.packetizer ∧
      s.transmit.force = s.force := by
  unfold AudioStream.transmit
  split
  · exact ⟨rfl, rfl, rfl, rfl, rfl⟩
  · split <;> exact ⟨rfl, rfl, rfl, rfl, rfl⟩

theorem AudioStream.sever_chain (s : AudioStream Sample) (arrived : Nat) :
    (s.sever arrived).chain = s.chain := by
  show (s.wire.take arrived ++ (s.wire.drop arrived ++ s.lost.getD [])) ++
    s.pending = _
  rw [← List.append_assoc, List.take_append_drop]
  rfl

def WorkerPhase.drops : WorkerPhase Sample → Bool
  | .dropping => true
  | .draining => true
  | .dropped => true
  | _ => false

def AudioStream.packet (s : AudioStream Sample)
    (block : List (AudioFrame Sample)) (header : AudioPacketHeader) :
    AudioPacket Sample :=
  ⟨header, block, s.encoder⟩

inductive Effect (event : StreamEvent Sample) (s s' : AudioStream Sample) : Prop
  | quiet (chain : s'.chain = s.chain) (encoder : s'.encoder = s.encoder)
      (packetizer : s'.packetizer = s.packetizer)
      (raised : s.force = true → s'.force = true)
      (drops : s.worker.drops = true →
        s'.worker.drops = true ∨ s'.force = true)
      (encoding : ∀ block, s'.worker = .encoding block →
        s.worker = .encoding block)
  | drop (chain : s'.chain <+: s.chain) (drops : s'.worker.drops = true)
      (resets : s'.encoder.resets = s.encoder.resets)
  | goesOn (block : List (AudioFrame Sample))
      (holding : s.worker = .holding block) (lowered : s.force = false)
      (contiguous : (scanPts block).contiguous = true)
      (worker : s'.worker = .encoding block)
      (chain : s'.chain = s.chain) (encoder : s'.encoder = s.encoder)
      (packetizer : s'.packetizer = s.packetizer)
  | resets (block : List (AudioFrame Sample))
      (holding : s.worker = .holding block)
      (worker : s'.worker = .encoding block)
      (chain : s'.chain = s.chain)
      (encoder : s'.encoder = s.encoder.reset)
      (packetizer : s'.packetizer = s.packetizer.markDiscontinuity)
  | fails (chain : s'.chain = s.chain)
      (resets : s'.encoder.resets = s.encoder.resets)
      (packetizer : s'.packetizer = s.packetizer) (raised : s'.force = true)
      (worker : s'.worker = .top)
  | unmade (block : List (AudioFrame Sample)) (size : Nat) (sent : Bool)
      (called : event = .encode (some size) sent)
      (encoding : s.worker = .encoding block)
      (refused : s.packetizer.accepts (scanPts block).first.toNat
        audioFrameSamples size = false)
      (worker : s'.worker = .top) (chain : s'.chain = s.chain)
      (encoder : s'.encoder = s.encoder.feed block)
      (packetizer : s'.packetizer = s.packetizer)
  | makes (block : List (AudioFrame Sample)) (size : Nat) (sent : Bool)
      (called : event = .encode (some size) sent)
      (encoding : s.worker = .encoding block)
      (accepted : s.packetizer.accepts (scanPts block).first.toNat
        audioFrameSamples size = true)
      (encoder : s'.encoder = s.encoder.feed block)
      (packetizer : s'.packetizer = s.packetizer.afterPacket
        (scanPts block).first.toNat audioFrameSamples)
      (worker : s'.worker = .top)
      (chain : s'.chain = s.chain ++ [s.packet block (s.packetizer.header
        (scanPts block).first.toNat audioFrameSamples size)])

variable {s s' : AudioStream Sample}

variable {event : StreamEvent Sample}

theorem effect_of_same (sent : s'.sent = s.sent)
    (pending : s'.pending = s.pending) (encoder : s'.encoder = s.encoder)
    (packetizer : s'.packetizer = s.packetizer)
    (raised : s.force = true → s'.force = true) (worker : s'.worker = s.worker) :
    Effect event s s' :=
  .quiet (by rw [AudioStream.chain, sent, pending]; rfl) encoder packetizer
    raised (fun drops => .inl (worker ▸ drops)) fun _ encoding =>
      worker ▸ encoding

theorem effect_refl (s : AudioStream Sample) :
    Effect event s s :=
  effect_of_same rfl rfl rfl rfl id rfl

theorem onCapture_effect (s : AudioStream Sample)
    (samples : Option (List Sample)) (frames channels : Nat)
    (timing : CaptureTiming) :
    Effect (.capture samples frames channels timing) s
      (s.onCapture samples frames channels timing) := by
  unfold AudioStream.onCapture
  split
  · split
    · exact effect_refl s
    · refine effect_of_same rfl rfl rfl rfl (fun raised => ?_) rfl
      simp [AudioStream.stampCapture, raised]
  · exact effect_refl s

variable {s : AudioStream Sample}

theorem decideReset_effect {block : List (AudioFrame Sample)}
    (holding : s.worker = .holding block) (resets : Bool) :
    Effect (.decide resets) s (s.decideReset block resets) := by
  unfold AudioStream.decideReset
  by_cases needed : (!(scanPts block).contiguous || s.force) = true
  · rw [if_pos needed]
    cases resets with
    | true => exact .resets block holding rfl rfl rfl rfl
    | false => exact .fails rfl rfl rfl rfl rfl
  · rw [if_neg needed]
    simp only [Bool.or_eq_true, Bool.not_eq_true', not_or,
      Bool.not_eq_true, Bool.not_eq_false] at needed
    exact .goesOn block holding needed.2 needed.1 rfl rfl rfl rfl

theorem dropStaleQueue_effect (sent : s'.sent = s.sent)
    (resets : s'.encoder.resets = s.encoder.resets) :
    Effect event s s'.dropStaleQueue := by
  refine .drop ?_ rfl resets
  show s'.sent ++ [] <+: s.sent ++ s.pending
  rw [sent, List.append_nil]
  exact List.prefix_append _ _

theorem encodeBlock_effect {block : List (AudioFrame Sample)}
    (encoding : s.worker = .encoding block) (encoded : Option Nat) (sent : Bool) :
    Effect (.encode encoded sent) s (s.encodeBlock block encoded sent) := by
  unfold AudioStream.encodeBlock
  cases encoded with
  | none => exact .fails rfl rfl rfl rfl rfl
  | some size =>
      dsimp only [Packetizer.makePacket]
      cases accepted : s.packetizer.accepts (scanPts block).first.toNat
          audioFrameSamples size with
      | false => exact .unmade block size sent rfl encoding accepted rfl rfl rfl rfl
      | true =>
          cases sent with
          | true =>
              refine .makes block size true rfl encoding accepted rfl rfl rfl ?_
              exact (List.append_assoc _ _ _).symm
          | false => exact dropStaleQueue_effect rfl rfl

theorem step_effect (mixer : Mixer Sample) (s : AudioStream Sample)
    (event : StreamEvent Sample) : Effect event s (s.step mixer event) := by
  cases event with
  | capture samples frames channels timing =>
      exact onCapture_effect s samples frames channels timing
  | captureWrite =>
      dsimp only [AudioStream.step, AudioStream.captureWrite]
      split
      · split <;> exact effect_of_same rfl rfl rfl rfl id rfl
      · exact effect_refl s
  | capturePublish =>
      dsimp only [AudioStream.step, AudioStream.capturePublish]
      split
      · exact effect_of_same rfl rfl rfl rfl id rfl
      · exact effect_refl s
  | captureFail =>
      dsimp only [AudioStream.step, AudioStream.captureFail]
      split
      · exact effect_of_same rfl rfl rfl rfl (fun _ => rfl) rfl
      · exact effect_refl s
  | check full =>
      dsimp only [AudioStream.step, AudioStream.onCheck]
      split
      · next top =>
          cases full with
          | true => exact dropStaleQueue_effect rfl rfl
          | false =>
              exact .quiet rfl rfl rfl id
                (fun drops => absurd drops (by simp [top, WorkerPhase.drops]))
                fun _ encoding => nomatch encoding
      · exact effect_refl s
  | startRead =>
      dsimp only [AudioStream.step, AudioStream.startRead]
      split
      · next polling =>
          split <;> exact .quiet rfl rfl rfl id
            (fun drops => absurd drops (by simp [polling, WorkerPhase.drops]))
            fun _ encoding => nomatch encoding
      · exact effect_refl s
  | finishRead =>
      dsimp only [AudioStream.step, AudioStream.finishRead]
      split
      · next reading =>
          exact .quiet rfl rfl rfl id
            (fun drops => absurd drops (by simp [reading, WorkerPhase.drops]))
            fun _ encoding => nomatch encoding
      · exact effect_refl s
  | decide resets =>
      dsimp only [AudioStream.step, AudioStream.onDecide]
      split
      · next block holding => exact decideReset_effect holding resets
      · exact effect_refl s
  | encode encoded sent =>
      dsimp only [AudioStream.step, AudioStream.onEncode]
      split
      · next block encoding => exact encodeBlock_effect encoding encoded sent
      · exact effect_refl s
  | startDrop =>
      dsimp only [AudioStream.step, AudioStream.startDrop]
      split
      · exact .quiet rfl rfl rfl id (fun _ => .inl rfl)
          fun _ encoding => nomatch encoding
      · exact effect_refl s
  | finishDrop =>
      dsimp only [AudioStream.step, AudioStream.finishDrop]
      split
      · exact .quiet rfl rfl rfl id (fun _ => .inl rfl)
          fun _ encoding => nomatch encoding
      · exact effect_refl s
  | forceDiscontinuity =>
      dsimp only [AudioStream.step, AudioStream.onForce]
      split
      · exact .quiet rfl rfl rfl (fun _ => rfl) (fun _ => .inr rfl)
          fun _ encoding => nomatch encoding
      · exact effect_refl s
  | transmit =>
      obtain ⟨worker, queue, encoder, packetizer, force⟩ := s.transmit_same
      exact .quiet s.transmit_chain encoder packetizer (force ▸ id)
        (fun drops => .inl (worker ▸ drops)) fun _ encoding => worker ▸ encoding
  | sever arrived =>
      exact .quiet (s.sever_chain arrived) rfl rfl id (fun drops => .inl drops)
        fun _ encoding => encoding

/-! ## Where the samples come from -/

def Supplied (written block : List (AudioFrame Sample)) : Prop :=
  block.length = audioFrameSamples ∧ ∀ frame ∈ block, frame ∈ written

def WorkerPhase.block : WorkerPhase Sample →
    Option (List (AudioFrame Sample))
  | .holding block => some block
  | .encoding block => some block
  | _ => none

structure Stocked (s : AudioStream Sample) : Prop where
  frames : ∀ frame ∈ s.queue.frames, frame ∈ s.queue.written
  reading : s.worker = .reading → audioFrameSamples ≤ s.queue.frames.length
  block : ∀ block, s.worker.block = some block →
    Supplied s.queue.written block
  packets : ∀ packet ∈ s.chain, Supplied s.queue.written packet.block

theorem Supplied.mono {written later block : List (AudioFrame Sample)}
    (supplied : Supplied written block)
    (grows : ∀ frame ∈ written, frame ∈ later) : Supplied later block :=
  ⟨supplied.1, fun frame member => grows frame (supplied.2 frame member)⟩

theorem Effect.packets (effect : Effect event s s') {packet : AudioPacket Sample}
    (member : packet ∈ s'.chain) :
    packet ∈ s.chain ∨ s.worker = .encoding packet.block := by
  cases effect with
  | quiet chain | fails chain => exact .inl (chain ▸ member)
  | drop chain => exact .inl (chain.subset member)
  | goesOn _ _ _ _ _ chain | resets _ _ _ chain | unmade _ _ _ _ _ _ _ chain =>
      exact .inl (chain ▸ member)
  | makes block size sent called encoding accepted encoder packetizer worker
      chain =>
      rw [chain, List.mem_append, List.mem_singleton] at member
      rcases member with old | rfl
      · exact .inl old
      · exact .inr encoding

/-- The queue forgets no frame it was given, and holds no other. -/
structure FrameQueue.Grows (queue queue' : FrameQueue Sample) : Prop where
  written : ∀ frame ∈ queue.written, frame ∈ queue'.written
  frames : ∀ frame ∈ queue'.frames, frame ∈ queue.frames ∨
    frame ∈ queue'.written

theorem FrameQueue.Grows.of_same {queue queue' : FrameQueue Sample}
    (same : queue'.frames = queue.frames ∧ queue'.written = queue.written) :
    queue.Grows queue' :=
  ⟨fun _ => same.2 ▸ id, fun _ member => .inl (same.1 ▸ member)⟩

theorem Stocked.of_effect (stocked : Stocked s) (effect : Effect event s s')
    (grows : s.queue.Grows s'.queue)
    (reading : s'.worker = .reading →
      audioFrameSamples ≤ s'.queue.frames.length)
    (block : ∀ block, s'.worker.block = some block →
      s.worker.block = some block ∨ Supplied s'.queue.written block) :
    Stocked s' where
  frames frame member := (grows.frames frame member).elim
    (fun old => grows.written frame (stocked.frames frame old)) id
  reading := reading
  block other held := (block other held).elim
    (fun old => (stocked.block other old).mono grows.written) id
  packets packet member := by
    rcases effect.packets member with old | encoding
    · exact (stocked.packets packet old).mono grows.written
    · have held : s.worker.block = some packet.block := by rw [encoding]; rfl
      exact (stocked.block _ held).mono grows.written

/-- The worker goes where it neither reads nor has a new block. -/
theorem Stocked.of_worker (stocked : Stocked s) (effect : Effect event s s')
    (grows : s.queue.Grows s'.queue) (reading : s'.worker ≠ .reading)
    (block : ∀ block, s'.worker.block = some block →
      s.worker.block = some block) : Stocked s' :=
  stocked.of_effect effect grows (absurd · reading) fun other held =>
    .inl (block other held)

/-- The worker stays where it is, and the queue loses nothing. -/
theorem Stocked.of_capture (stocked : Stocked s) (effect : Effect event s s')
    (grows : s.queue.Grows s'.queue)
    (longer : s.queue.frames.length ≤ s'.queue.frames.length)
    (worker : s'.worker = s.worker) : Stocked s' :=
  stocked.of_effect effect grows
    (fun now => (stocked.reading (worker ▸ now)).trans longer)
    fun _ held => .inl (worker ▸ held)

theorem FrameQueue.startWrite_frames (mixer : Mixer Sample)
    (queue : FrameQueue Sample) (call : WriteCall Sample) :
    (queue.startWrite mixer call).frames = queue.frames ∧
      (queue.startWrite mixer call).written = queue.written := by
  unfold FrameQueue.startWrite
  split <;> exact ⟨rfl, rfl⟩

theorem FrameQueue.publish_grows (queue : FrameQueue Sample) :
    queue.Grows queue.publish ∧
      queue.frames.length ≤ queue.publish.frames.length := by
  unfold FrameQueue.publish
  split
  · exact ⟨.of_same ⟨rfl, rfl⟩, le_rfl⟩
  · refine ⟨⟨fun _ => List.mem_append_left _, fun _ member => ?_⟩, ?_⟩
    · exact (List.mem_append.mp member).imp_right (List.mem_append_right _)
    · rw [List.length_append]
      exact Nat.le_add_right _ _

theorem FrameQueue.startTake_frames (queue : FrameQueue Sample) (count : Nat) :
    (queue.startTake count).frames = queue.frames ∧
      (queue.startTake count).written = queue.written := by
  unfold FrameQueue.startTake
  split <;> exact ⟨rfl, rfl⟩

theorem FrameQueue.startDrop_frames (queue : FrameQueue Sample) :
    queue.startDrop.frames = queue.frames ∧
      queue.startDrop.written = queue.written := by
  unfold FrameQueue.startDrop
  split <;> exact ⟨rfl, rfl⟩

theorem FrameQueue.finishReading_grows (queue : FrameQueue Sample) :
    queue.Grows queue.finishReading := by
  unfold FrameQueue.finishReading
  split
  · exact .of_same ⟨rfl, rfl⟩
  · exact ⟨fun _ => id, fun _ member => .inl (List.mem_of_mem_drop member)⟩
  · exact ⟨fun _ => id, fun _ member => .inl (List.mem_of_mem_drop member)⟩

theorem Stocked.step (mixer : Mixer Sample) (event : StreamEvent Sample)
    (stocked : Stocked s) : Stocked (s.step mixer event) := by
  have effect := step_effect mixer s event
  have same : s.queue.Grows s.queue := .of_same ⟨rfl, rfl⟩
  revert effect
  cases event with
  | capture samples frames channels timing =>
      dsimp only [AudioStream.step, AudioStream.onCapture]
      repeat' split
      all_goals exact fun effect => stocked.of_capture effect same le_rfl rfl
  | captureWrite =>
      dsimp only [AudioStream.step, AudioStream.captureWrite]
      split
      · next call _ =>
          have frames := s.queue.startWrite_frames mixer call
          split <;> intro effect
          · exact stocked.of_capture effect (.of_same frames)
              (congrArg List.length frames.1).ge rfl
          · exact stocked.of_capture effect same le_rfl rfl
      · exact fun _ => stocked
  | capturePublish =>
      dsimp only [AudioStream.step, AudioStream.capturePublish]
      split <;> intro effect
      · exact stocked.of_capture effect s.queue.publish_grows.1
          s.queue.publish_grows.2 rfl
      · exact stocked
  | captureFail =>
      dsimp only [AudioStream.step, AudioStream.captureFail]
      split <;> exact fun effect => stocked.of_capture effect same le_rfl rfl
  | check full =>
      dsimp only [AudioStream.step, AudioStream.onCheck]
      split
      · split <;> exact fun effect => stocked.of_worker effect same nofun nofun
      · exact fun _ => stocked
  | startRead =>
      dsimp only [AudioStream.step, AudioStream.startRead]
      split
      · split <;> intro effect
        · next enough =>
            have frames := s.queue.startTake_frames audioFrameSamples
            exact stocked.of_effect effect (.of_same frames)
              (fun _ => frames.1 ▸ enough) nofun
        · exact stocked.of_worker effect same nofun nofun
      · exact fun _ => stocked
  | finishRead =>
      dsimp only [AudioStream.step, AudioStream.finishRead]
      split <;> intro effect
      · next reading =>
          -- the block is the front of a queue that was long enough
          refine stocked.of_effect effect s.queue.finishReading_grows nofun
            fun block held => .inr ?_
          obtain rfl : s.queue.front audioFrameSamples = block :=
            Option.some.inj held
          refine ⟨List.length_take_of_le (stocked.reading reading),
            fun frame member => ?_⟩
          exact s.queue.finishReading_grows.written frame
            (stocked.frames frame (List.mem_of_mem_take member))
      · exact stocked
  | decide resets =>
      dsimp only [AudioStream.step, AudioStream.onDecide]
      split
      · next block holding =>
          have held : s.worker.block = some block := by rw [holding]; rfl
          unfold AudioStream.decideReset
          split_ifs <;> intro effect
          · exact stocked.of_worker effect same nofun fun _ => held.trans
          · exact stocked.of_worker effect same nofun nofun
          · exact stocked.of_worker effect same nofun fun _ => held.trans
      · exact fun _ => stocked
  | encode encoded sent =>
      dsimp only [AudioStream.step, AudioStream.onEncode]
      split
      · unfold AudioStream.encodeBlock
        repeat' split
        all_goals exact fun effect =>
          stocked.of_worker effect same nofun nofun
      · exact fun _ => stocked
  | startDrop =>
      dsimp only [AudioStream.step, AudioStream.startDrop]
      split <;> intro effect
      · exact stocked.of_worker effect (.of_same s.queue.startDrop_frames) nofun
          nofun
      · exact stocked
  | finishDrop =>
      dsimp only [AudioStream.step, AudioStream.finishDrop]
      split <;> intro effect
      · exact stocked.of_worker effect s.queue.finishReading_grows nofun nofun
      · exact stocked
  | forceDiscontinuity =>
      dsimp only [AudioStream.step, AudioStream.onForce]
      split <;> intro effect
      · exact stocked.of_worker effect same nofun nofun
      · exact stocked
  | transmit =>
      intro effect
      obtain ⟨worker, queue, -⟩ := s.transmit_same
      have queue : (s.step mixer .transmit).queue = s.queue := queue
      exact stocked.of_capture effect (queue ▸ same) (queue ▸ le_rfl) worker
  | sever arrived =>
      exact fun effect => stocked.of_capture effect same le_rfl rfl

/-! ## The timeline -/

def Continues (previous packet : AudioPacket Sample) : Prop :=
  packet.header.sequence = previous.header.sequence + 1 ∧
    packet.header.ptsSamples =
      previous.header.ptsSamples + previous.header.durationSamples

def Stamped (packet : AudioPacket Sample) : Prop :=
  ∀ index frame, packet.block[index]? = some frame →
    frame.pts.toNat = packet.header.ptsSamples + index

/-- Packets in wire order: a packet without the flag has one before it that it
continues, and its own samples follow its timestamp. -/
structure Linked (packets : List (AudioPacket Sample)) : Prop where
  first : ∀ packet, packets.head? = some packet →
    packet.header.discontinuity = true
  next : packets.IsChain fun previous packet =>
    packet.header.discontinuity = false → Continues previous packet
  stamped : ∀ packet ∈ packets, packet.header.sequence < 2 ^ 64 ∧
    packet.header.durationSamples = audioFrameSamples ∧
      (packet.header.discontinuity = false → Stamped packet)

/-- The packetizer is marked, or expects what follows the last packet. -/
def Expects (packets : List (AudioPacket Sample)) (packetizer : Packetizer) :
    Prop :=
  packetizer.forceDiscontinuity = true ∨
    (packetizer.haveExpectedPts = true ∧ ∃ last, packets.getLast? = some last ∧
      last.header.sequence = packetizer.sequence.toNat ∧
      last.header.ptsSamples + last.header.durationSamples =
        packetizer.expectedPtsSamples)

structure Timed (s : AudioStream Sample) : Prop where
  linked : Linked s.chain
  expects : s.force = true ∨ s.worker.drops = true ∨
    Expects s.chain s.packetizer
  encoding : ∀ block, s.worker = .encoding block →
    Expects s.chain s.packetizer ∧
      ((scanPts block).contiguous = true ∨
        s.packetizer.forceDiscontinuity = true)

theorem Linked.shorten {packets fewer : List (AudioPacket Sample)}
    (linked : Linked packets) (within : fewer <+: packets) : Linked fewer := by
  obtain ⟨rest, rfl⟩ := within
  refine ⟨fun packet head => linked.first packet ?_, linked.next.left_of_append,
    fun packet member => linked.stamped packet (List.mem_append_left _ member)⟩
  rw [List.head?_append, head]
  rfl

theorem Linked.snoc {packets : List (AudioPacket Sample)}
    {packet : AudioPacket Sample} (linked : Linked packets)
    (follows : packet.header.discontinuity = false →
      ∃ last, packets.getLast? = some last ∧ Continues last packet)
    (stamped : packet.header.sequence < 2 ^ 64 ∧
      packet.header.durationSamples = audioFrameSamples ∧
        (packet.header.discontinuity = false → Stamped packet)) :
    Linked (packets ++ [packet]) where
  first other head := by
    cases packets with
    | nil =>
        obtain rfl : packet = other := Option.some.inj head
        by_contra unflagged
        obtain ⟨last, none, -⟩ := follows (Bool.not_eq_true _ ▸ unflagged)
        exact nomatch none
    | cons start rest => exact linked.first other head
  next := by
    refine List.isChain_append.mpr ⟨linked.next, .singleton _, ?_⟩
    intro last isLast other isHead unflagged
    obtain rfl : packet = other := Option.some.inj isHead
    obtain ⟨found, same, continues⟩ := follows unflagged
    obtain rfl : found = last := Option.some.inj (same.symm.trans isLast)
    exact continues
  stamped other member := by
    rcases List.mem_append.mp member with old | new
    · exact linked.stamped other old
    · rw [List.mem_singleton.mp new]
      exact stamped

theorem Packetizer.accepts_bounds {packetizer : Packetizer}
    {ptsSamples durationSamples size : Nat}
    (accepted : packetizer.accepts ptsSamples durationSamples size = true)
    (below : ptsSamples ≤ uint64Max) :
    packetizer.sequence.toNat + 1 < 2 ^ 64 ∧
      ptsSamples + durationSamples ≤ uint64Max := by
  simp only [Packetizer.accepts, Bool.not_eq_true', Bool.or_eq_false_iff,
    decide_eq_false_iff_not, beq_eq_false_iff_ne] at accepted
  have last := packetizer.sequence.toNat_lt
  have more := accepted.2
  have fits := accepted.1.2
  unfold uint64Max at *
  omega

theorem stamped_of_contiguous {s : AudioStream Sample}
    {block : List (AudioFrame Sample)} {size : Nat}
    (supplied : block.length = audioFrameSamples)
    (accepted : s.packetizer.accepts (scanPts block).first.toNat
      audioFrameSamples size = true)
    (contiguous : (scanPts block).contiguous = true) :
    Stamped (s.packet block (s.packetizer.header (scanPts block).first.toNat
      audioFrameSamples size)) := by
  intro index frame found
  have room := (Packetizer.accepts_bounds accepted
    (Nat.le_sub_one_of_lt (scanPts block).first.toNat_lt)).2
  have inside : index < block.length :=
    (List.getElem?_eq_some_iff.mp found).1
  cases block with
  | nil => exact absurd inside (Nat.not_lt_zero _)
  | cons start rest =>
      obtain ⟨first, iff⟩ := scanPts_cons start rest
      have pts := (iff.mp contiguous).pts_eq rfl found
      rw [first] at room
      rw [pts]
      show (start.pts + UInt64.ofNat index).toNat =
        (scanPts (start :: rest)).first.toNat + index
      have small : index < 2 ^ 64 := by
        unfold uint64Max at room
        omega
      rw [first, UInt64.toNat_add, UInt64.toNat_ofNat', Nat.mod_eq_of_lt small]
      refine Nat.mod_eq_of_lt ?_
      unfold uint64Max at room
      omega

theorem Timed.of_effect (timed : Timed s) (stocked : Stocked s)
    (effect : Effect event s s') : Timed s' := by
  cases effect with
  | quiet chain encoder packetizer raised drops encoding =>
      refine ⟨chain ▸ timed.linked, ?_, fun block now => ?_⟩
      · rcases timed.expects with force | dropping | expects
        · exact .inl (raised force)
        · exact (drops dropping).elim (fun still => .inr (.inl still)) .inl
        · exact .inr (.inr (by rw [chain, packetizer]; exact expects))
      · rw [chain, packetizer]
        exact timed.encoding block (encoding block now)
  | drop chain drops resets =>
      refine ⟨timed.linked.shorten chain, .inr (.inl drops), ?_⟩
      intro block now
      rw [now] at drops
      exact absurd drops Bool.false_ne_true
  | goesOn block holding lowered contiguous worker chain encoder packetizer =>
      have expects : Expects s'.chain s'.packetizer := by
        rw [chain, packetizer]
        rcases timed.expects with force | dropping | expects
        · exact absurd (lowered.symm.trans force) Bool.false_ne_true
        · rw [holding] at dropping
          exact absurd dropping Bool.false_ne_true
        · exact expects
      refine ⟨chain ▸ timed.linked, .inr (.inr expects), fun other now => ?_⟩
      obtain rfl := WorkerPhase.encoding.inj (worker.symm.trans now)
      exact ⟨expects, .inl contiguous⟩
  | resets block holding worker chain encoder packetizer =>
      have marked : s'.packetizer.forceDiscontinuity = true := by
        rw [packetizer]
        rfl
      exact ⟨chain ▸ timed.linked, .inr (.inr (.inl marked)), fun _ _ =>
        ⟨.inl marked, .inr marked⟩⟩
  | fails chain resets packetizer raised worker =>
      exact ⟨chain ▸ timed.linked, .inl raised, fun _ now =>
        nomatch worker.symm.trans now⟩
  | unmade block size sent called encoding refused worker chain encoder
      packetizer =>
      have expects := (timed.encoding block encoding).1
      refine ⟨chain ▸ timed.linked, .inr (.inr ?_), fun _ now =>
        nomatch worker.symm.trans now⟩
      rw [chain, packetizer]
      exact expects
  | makes block size sent called encoding accepted encoder packetizer worker
      chain =>
      obtain ⟨expects, whole⟩ := timed.encoding block encoding
      have supplied := stocked.block block (by rw [encoding]; rfl)
      have counted := (Packetizer.accepts_bounds accepted
        (Nat.le_sub_one_of_lt (scanPts block).first.toNat_lt)).1
      refine ⟨?_, .inr (.inr ?_), fun _ now => nomatch worker.symm.trans now⟩
      · rw [chain]
        refine timed.linked.snoc (fun unflagged => ?_)
          ⟨counted, rfl, fun unflagged => ?_⟩
        all_goals
          have parts : s.packetizer.forceDiscontinuity = false ∧
              (s.packetizer.haveExpectedPts &&
                (scanPts block).first.toNat !=
                  s.packetizer.expectedPtsSamples) = false :=
            Bool.or_eq_false_iff.mp unflagged
        · rcases expects with force | ⟨known, last, isLast, sequence, pts⟩
          · exact absurd (parts.1.symm.trans force) Bool.false_ne_true
          · have equal := parts.2
            rw [known, Bool.true_and, bne_eq_false_iff_eq] at equal
            refine ⟨last, isLast, ?_, equal.trans pts.symm⟩
            exact congrArg (· + 1) sequence.symm
        · rcases whole with contiguous | force
          · exact stamped_of_contiguous supplied.1 accepted contiguous
          · exact absurd (parts.1.symm.trans force) Bool.false_ne_true
      · rw [chain, packetizer]
        refine .inr ⟨rfl, _, List.getLast?_concat, ?_, rfl⟩
        show _ = (s.packetizer.sequence + 1).toNat
        rw [UInt64.toNat_add]
        exact (Nat.mod_eq_of_lt counted).symm

theorem timed_start (packetizer : Packetizer)
    (channels mediaClockStart : Nat) :
    Timed (AudioStream.start packetizer channels mediaClockStart :
      AudioStream Sample) where
  linked := ⟨fun _ head => absurd head (by
      simp [AudioStream.chain, AudioStream.sent, AudioStream.start]),
    .nil, fun _ member => absurd member List.not_mem_nil⟩
  expects := .inl rfl
  encoding _ now := nomatch now

theorem stocked_start (packetizer : Packetizer)
    (channels mediaClockStart : Nat) :
    Stocked (AudioStream.start packetizer channels mediaClockStart :
      AudioStream Sample) where
  frames _ member := absurd member List.not_mem_nil
  reading now := nomatch now
  block _ held := nomatch held
  packets _ member := absurd member List.not_mem_nil

theorem streamRun_timed (mixer : Mixer Sample)
    (sessionId connectionToken audioEpoch mediaClockId : Nat)
    (channels mediaClockStart : Nat) (events : List (StreamEvent Sample)) :
    Timed (streamRun mixer sessionId connectionToken audioEpoch mediaClockId
        channels mediaClockStart events) ∧
      Stocked (streamRun mixer sessionId connectionToken audioEpoch
        mediaClockId channels mediaClockStart events) := by
  have preserved (s : AudioStream Sample) (event : StreamEvent Sample)
      (kept : Timed s ∧ Stocked s) :
      Timed (s.step mixer event) ∧ Stocked (s.step mixer event) :=
    ⟨kept.1.of_effect kept.2 (step_effect mixer s event),
      kept.2.step mixer event⟩
  exact invariant_runFrom_of_step preserved
    ⟨timed_start _ channels mediaClockStart,
      stocked_start _ channels mediaClockStart⟩ events

theorem Linked.previous {packets : List (AudioPacket Sample)}
    (linked : Linked packets) {index : Nat} {packet : AudioPacket Sample}
    (found : packets[index]? = some packet)
    (unflagged : packet.header.discontinuity = false) :
    ∃ earlier previous, index = earlier + 1 ∧
      packets[earlier]? = some previous ∧ Continues previous packet := by
  cases index with
  | zero =>
      have flagged := linked.first packet (List.head?_eq_getElem?.trans found)
      exact absurd (flagged.symm.trans unflagged) (by decide)
  | succ earlier =>
      obtain ⟨bound, rfl⟩ := List.getElem?_eq_some_iff.mp found
      have step := List.isChain_iff_getElem.mp linked.next earlier bound
      exact ⟨earlier, _, rfl, List.getElem?_eq_getElem (by omega),
        step unflagged⟩

def AudioPacket.received (packet : AudioPacket Sample) :
    AudioPacketHeader × List (AudioFrame Sample) :=
  (packet.header, packet.block)

theorem gapDetected_continues
    (playback : Client.AudioPlayback (List (AudioFrame Sample)))
    {previous packet : AudioPacket Sample}
    (continues : Continues previous packet)
    (counted : packet.header.sequence < 2 ^ 64) :
    (playback.accept previous.header previous.block).gapDetected
      packet.header = false := by
  obtain ⟨sequence, pts⟩ := continues
  rw [sequence] at counted
  unfold Client.AudioPlayback.gapDetected Client.AudioPlayback.accept
  dsimp only
  rw [Nat.mod_eq_of_lt counted, sequence, pts]
  simp

theorem acceptAll_take {packets : List (AudioPacket Sample)} {earlier : Nat}
    {previous : AudioPacket Sample} (found : packets[earlier]? = some previous)
    (playback : Client.AudioPlayback (List (AudioFrame Sample))) :
    playback.acceptAll ((packets.take (earlier + 1)).map
        AudioPacket.received) =
      (playback.acceptAll ((packets.take earlier).map
        AudioPacket.received)).accept previous.header previous.block := by
  rw [List.take_add_one, found, Client.AudioPlayback.acceptAll, List.map_append,
    List.foldl_append]
  rfl

structure TimelineLaw (s : AudioStream Sample) : Prop where
  follows : ∀ (index : Nat) packet, s.wire[index]? = some packet →
    packet.header.discontinuity = false →
    ∃ earlier previous, index = earlier + 1 ∧
      s.wire[earlier]? = some previous ∧ Continues previous packet
  sampled : ∀ packet ∈ s.wire, packet.header.discontinuity = false →
    packet.block.length = packet.header.durationSamples ∧
      ∀ (index : Nat) frame, packet.block[index]? = some frame →
        frame ∈ s.queue.written ∧
          frame.pts.toNat = packet.header.ptsSamples + index
  /-- A client that accepted all packets before sees no gap. -/
  seamless : ∀ (index : Nat) packet, s.wire[index]? = some packet →
    packet.header.discontinuity = false →
    (Client.AudioPlayback.configured.acceptAll
      ((s.wire.take index).map AudioPacket.received)).gapDetected
        packet.header = false

theorem Timed.law (timed : Timed s) (stocked : Stocked s) : TimelineLaw s := by
  have linked : Linked s.wire :=
    timed.linked.shorten s.wire_prefix_chain
  exact {
    follows := fun _ _ => linked.previous
    sampled := by
      intro packet member unflagged
      obtain ⟨length, supplied⟩ :=
        stocked.packets packet (s.wire_prefix_chain.subset member)
      obtain ⟨-, duration, stamped⟩ := linked.stamped packet member
      exact ⟨length.trans duration.symm, fun index frame found =>
        ⟨supplied frame (List.mem_of_getElem? found),
          stamped unflagged index frame found⟩⟩
    seamless := by
      intro index packet found unflagged
      obtain ⟨earlier, previous, rfl, before, continues⟩ :=
        linked.previous found unflagged
      rw [acceptAll_take before]
      exact gapDetected_continues _ continues
        (linked.stamped packet (List.mem_of_getElem? found)).1 }

theorem timelineLaw_of_run (mixer : Mixer Sample)
    (sessionId connectionToken audioEpoch mediaClockId : Nat)
    (channels mediaClockStart : Nat) (events : List (StreamEvent Sample)) :
    TimelineLaw (streamRun mixer sessionId connectionToken audioEpoch
      mediaClockId channels mediaClockStart events) :=
  have kept := streamRun_timed mixer sessionId connectionToken audioEpoch
    mediaClockId channels mediaClockStart events
  kept.1.law kept.2

end WayDisplay.Server.Audio
