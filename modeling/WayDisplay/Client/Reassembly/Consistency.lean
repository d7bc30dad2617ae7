import WayDisplay.Client.Reassembly.PacketActs

/-!
The reassembler's tables stay consistent in every run of the receive path,
whatever the datagrams contain.
-/

namespace WayDisplay.Client

open Common Foundation

namespace ReceiverState

variable {zstd : Zstd} {s t : ReceiverState}

/-! ## Datagrams -/

/-- The state in which a packet of an epoch is taken: the epoch is the newest,
and if it was not before, there is no entry of an older one. -/
structure Entered (s : ReceiverState) (epoch : Nat) (t : ReceiverState) :
    Prop where
  remote : t.remote = ⟨epoch, .tiles⟩
  cases : t = s ∨
    s.remote.epoch < epoch ∧
      t = { s with remote := ⟨epoch, .tiles⟩ : ReceiverState }.resetReassembler

theorem enterEpoch_entered {epoch : Nat}
    (accepted : s.enterEpoch epoch = some t) : Entered s epoch t := by
  unfold enterEpoch at accepted
  cases judged : s.remote.judge epoch .tiles with
  | stale => simp [judged] at accepted
  | current =>
      simp only [judged, Option.some.injEq] at accepted
      subst accepted
      refine ⟨?_, Or.inl rfl⟩
      unfold RemoteContent.judge at judged
      split_ifs at judged with zero stale same
      push Not at stale
      rw [same, stale.2 same]
  | advanced =>
      simp only [judged, Option.some.injEq, acceptContentEpoch] at accepted
      subst accepted
      refine ⟨resetReassembler_rest.2.1, Or.inr ⟨?_, rfl⟩⟩
      unfold RemoteContent.judge at judged
      split_ifs at judged with zero stale same
      omega

theorem processUdpDatagram_cases (zstd : Zstd) (s : ReceiverState)
    (arrival : Arrival) (overtaking : List (Nat × ContentOwner)) :
    s.processUdpDatagram zstd arrival overtaking = ⟨s, none, none⟩ ∨
      ∃ header t, screenDatagram zstd s arrival.bytes = some header ∧
        Entered s header.contentEpoch t ∧
        s.processUdpDatagram zstd arrival overtaking =
          t.receivePacket zstd arrival overtaking := by
  unfold processUdpDatagram
  cases screened : screenDatagram zstd s arrival.bytes with
  | none => exact Or.inl rfl
  | some header =>
      dsimp only
      cases accepted : s.enterEpoch header.contentEpoch with
      | none => exact Or.inl rfl
      | some t =>
          exact Or.inr ⟨header, t, rfl, enterEpoch_entered accepted, rfl⟩

theorem screenDatagram_decoded {packet : List UInt8}
    {header : UdpTilePacketDecoded}
    (screened : screenDatagram zstd s packet = some header) :
    udpTilePacketDecode packet = some header := by
  unfold screenDatagram at screened
  split at screened
  · cases screened
  · rename_i decoded
    split_ifs at screened
    rw [decoded, screened]

theorem acceptContentEpoch_rest (s : ReceiverState) (epoch : Nat)
    (owner : ContentOwner) :
    (s.acceptContentEpoch epoch owner).config = s.config ∧
      (s.acceptContentEpoch epoch owner).reassembler = s.reassembler ∧
      (s.acceptContentEpoch epoch owner).repairs = s.repairs ∧
      (s.acceptContentEpoch epoch owner).receivedGeneration =
        s.receivedGeneration ∧
      (s.acceptContentEpoch epoch owner).trace = s.trace := by
  unfold acceptContentEpoch
  split <;> exact ⟨rfl, rfl, rfl, rfl, rfl⟩

theorem offerAll_rest (s : ReceiverState)
    (offers : List (Nat × ContentOwner)) :
    (s.offerAll offers).config = s.config ∧
      (s.offerAll offers).reassembler = s.reassembler ∧
      (s.offerAll offers).repairs = s.repairs ∧
      (s.offerAll offers).receivedGeneration = s.receivedGeneration ∧
      (s.offerAll offers).trace = s.trace := by
  induction offers generalizing s with
  | nil => exact ⟨rfl, rfl, rfl, rfl, rfl⟩
  | cons offer rest ih =>
      obtain ⟨config, reassembler, repairs, received, trace⟩ :=
        s.acceptContentEpoch_rest offer.1 offer.2
      obtain ⟨config', reassembler', repairs', received', trace'⟩ :=
        ih (s.acceptContentEpoch offer.1 offer.2)
      exact ⟨config'.trans config, reassembler'.trans reassembler,
        repairs'.trans repairs, received'.trans received, trace'.trans trace⟩

theorem publish_rest (s : ReceiverState) (tile : ReassembledTile) :
    (s.publish tile).1.reassembler = s.reassembler ∧
      (s.publish tile).1.trace = s.trace ∧
      (s.publish tile).1.remote = s.remote ∧
      (s.publish tile).1.config = s.config := by
  unfold publish
  split <;> exact ⟨rfl, rfl, rfl, rfl⟩

theorem receivePacket_cases (zstd : Zstd) (t : ReceiverState)
    (arrival : Arrival) (overtaking : List (Nat × ContentOwner)) :
    (t.receivePacket zstd arrival overtaking =
        ⟨(processUdpPacket zstd t arrival).1, none, none⟩ ∧
      (processUdpPacket zstd t arrival).2 = none) ∨
    ∃ tile, (processUdpPacket zstd t arrival).2 = some tile ∧
      t.receivePacket zstd arrival overtaking =
        ⟨(((processUdpPacket zstd t arrival).1.offerAll overtaking).publish
            tile).1, some tile,
          (((processUdpPacket zstd t arrival).1.offerAll overtaking).publish
            tile).2⟩ := by
  unfold receivePacket
  generalize processUdpPacket zstd t arrival = result
  obtain ⟨u, completed⟩ := result
  cases completed with
  | none => exact Or.inl ⟨rfl, rfl⟩
  | some tile => exact Or.inr ⟨tile, rfl, rfl⟩

/-! ## Safety along runs -/

structure Bounded (entries bytes : Nat) (s : ReceiverState) : Prop where
  safe : s.Safe
  limits : limits s.reassembler = (entries, bytes)

variable {entries bytes : Nat}

theorem Bounded.keep (bounded : s.Bounded entries bytes)
    (reassembler : t.reassembler = s.reassembler) (trace : t.trace = s.trace) :
    t.Bounded entries bytes :=
  ⟨⟨reassembler ▸ bounded.safe.well, trace ▸ bounded.safe.copies⟩,
    reassembler ▸ bounded.limits⟩

theorem Acts.bounded {taken : Option UdpTilePacketDecoded}
    (acts : Acts zstd taken s t) (bounded : s.Bounded entries bytes) : t.Bounded entries bytes :=
  ⟨acts.safe bounded.safe, acts.limits_eq.trans bounded.limits⟩

theorem resetReassembler_bounded (bounded : s.Bounded entries bytes) :
    s.resetReassembler.Bounded entries bytes :=
  ⟨resetReassembler_safe bounded.safe,
    (removeAll_limits _ _).trans bounded.limits⟩

theorem Entered.bounded {epoch : Nat} (entered : Entered s epoch t)
    (bounded : s.Bounded entries bytes) : t.Bounded entries bytes := by
  rcases entered.cases with rfl | ⟨-, rfl⟩
  · exact bounded
  · exact resetReassembler_bounded (bounded.keep rfl rfl)

theorem processUdpPacket_bounded {arrival : Arrival}
    (bounded : s.Bounded entries bytes)
    (current : ∀ header, udpTilePacketDecode arrival.bytes = some header →
      header.contentEpoch = s.remote.epoch) :
    (processUdpPacket zstd s arrival).1.Bounded entries bytes := by
  cases admitted : admitPacket zstd s arrival.bytes with
  | none =>
      rw [processUdpPacket_refused admitted]
      exact bounded
  | some header =>
      obtain ⟨checked, -⟩ := admitPacket_eq_some admitted
      exact (processUdpPacket_taken bounded.safe admitted
        (current header checked.decoded)).keep bounded.safe checked
        (fun laid => ⟨laid.safe bounded.safe, laid.limits.trans bounded.limits⟩)
        (fun act bounded => act.acts.bounded bounded) bounded

theorem receivePacket_bounded {arrival : Arrival}
    {overtaking : List (Nat × ContentOwner)}
    (bounded : s.Bounded entries bytes)
    (current : ∀ header, udpTilePacketDecode arrival.bytes = some header →
      header.contentEpoch = s.remote.epoch) :
    (s.receivePacket zstd arrival overtaking).state.Bounded entries bytes := by
  have taken : (processUdpPacket zstd s arrival).1.Bounded entries bytes :=
    processUdpPacket_bounded bounded current
  rcases receivePacket_cases zstd s arrival overtaking with
    ⟨pending, -⟩ | ⟨tile, -, completed⟩
  · rw [pending]
    exact taken
  · rw [completed]
    obtain ⟨-, reassembler, -, -, trace⟩ :=
      (processUdpPacket zstd s arrival).1.offerAll_rest overtaking
    obtain ⟨reassembler', trace', -, -⟩ :=
      ((processUdpPacket zstd s arrival).1.offerAll overtaking).publish_rest tile
    exact taken.keep (reassembler'.trans reassembler) (trace'.trans trace)

theorem Entered.current {arrival : Arrival} {header : UdpTilePacketDecoded}
    (entered : Entered s header.contentEpoch t)
    (screened : screenDatagram zstd s arrival.bytes = some header) :
    ∀ other, udpTilePacketDecode arrival.bytes = some other →
      other.contentEpoch = t.remote.epoch := by
  intro other decoded
  rw [screenDatagram_decoded screened, Option.some.injEq] at decoded
  rw [← decoded, entered.remote]

theorem step_bounded (event : ReceiverEvent)
    (bounded : s.Bounded entries bytes) :
    (s.step zstd event).Bounded entries bytes := by
  cases event with
  | datagram arrival overtaking =>
      show (s.processUdpDatagram zstd arrival overtaking).state.Bounded _ _
      rcases processUdpDatagram_cases zstd s arrival overtaking with
        ignored | ⟨header, t, screened, entered, taken⟩
      · rw [ignored]
        exact bounded
      · rw [taken]
        exact receivePacket_bounded (entered.bounded bounded)
          (entered.current screened)
  | expire now timeoutNs =>
      have acts : Acts zstd none s (s.expireStaleEntries now timeoutNs) :=
        expireStaleEntries_acts _ _
      exact acts.bounded bounded
  | offerContentEpoch epoch owner =>
      obtain ⟨-, reassembler, -, -, trace⟩ :=
        s.acceptContentEpoch_rest epoch owner
      exact bounded.keep reassembler trace
  | queueRetransmit tileId generation =>
      show (s.queueRetransmitTile tileId generation).Bounded _ _
      unfold queueRetransmitTile
      split
      · exact bounded
      · exact bounded.keep rfl rfl
  | flush input => exact bounded.keep rfl rfl
  | configure config => exact bounded.keep rfl rfl
  | resetContentEpoch => exact bounded.keep rfl rfl
  | observeConfiguration => exact resetReassembler_bounded bounded

theorem initial_bounded (config : ReceiveConfig) (contentEpoch maxActiveEntries
    maxActivePayloadBytes : Nat) :
    (initial config contentEpoch maxActiveEntries
      maxActivePayloadBytes).Bounded (max 1 maxActiveEntries)
        (max 1 maxActivePayloadBytes) where
  safe := ⟨TileReassembler.create_wellFormed _ _,
    fun _ absent => absurd absent List.not_mem_nil⟩
  limits := rfl

theorem run_bounded (zstd : Zstd) (config : ReceiveConfig) (contentEpoch
    maxActiveEntries maxActivePayloadBytes : Nat)
    (events : List ReceiverEvent) :
    (runFrom (step zstd) (initial config contentEpoch maxActiveEntries
      maxActivePayloadBytes) events).Bounded (max 1 maxActiveEntries)
        (max 1 maxActivePayloadBytes) :=
  invariant_runFrom_of_step (fun _ event bounded => step_bounded event bounded)
    (initial_bounded config contentEpoch maxActiveEntries
      maxActivePayloadBytes) events

/--
After any datagrams, expiries, configurations and resets: a slot names an entry
exactly if that entry is for its tile; the payload bytes are those of the active
buffers, and neither they nor the number of entries exceed their limit; each
entry has received as many packets as its bitmap has bits, and no more than it
has packets; and no copy left the buffer it was made into.
-/
theorem reassembler_stays_consistent (zstd : Zstd) (config : ReceiveConfig)
    (contentEpoch maxActiveEntries maxActivePayloadBytes : Nat)
    (events : List ReceiverEvent) :
    let s := runFrom (step zstd) (initial config contentEpoch maxActiveEntries
      maxActivePayloadBytes) events
    (∀ size tileId index,
      s.reassembler.table.slot ⟨size, tileId⟩ = some index ↔
        ∃ entry, s.reassembler.activeEntries[index]? = some entry ∧
          entry.tile = ⟨size, tileId⟩) ∧
      s.reassembler.activePayloadBytes = (s.reassembler.activeEntries.map
        fun entry => entry.compressed.length).sum ∧
      s.reassembler.activePayloadBytes ≤ max 1 maxActivePayloadBytes ∧
      s.reassembler.activeEntries.length ≤ max 1 maxActiveEntries ∧
      (∀ entry ∈ s.reassembler.activeEntries,
        entry.receivedCount = Entry.setBits entry.receivedBitmap ∧
          entry.receivedCount ≤ entry.packetCount) ∧
      ∀ copy ∈ s.trace.copies, copy.offset + copy.size ≤ copy.bufferSize := by
  intro s
  have bounded : s.Bounded (max 1 maxActiveEntries)
      (max 1 maxActivePayloadBytes) := run_bounded zstd config contentEpoch
    maxActiveEntries maxActivePayloadBytes events
  obtain ⟨⟨well, copies⟩, sameLimits⟩ := bounded
  obtain ⟨maxEntries, maxBytes⟩ := Prod.mk.inj sameLimits
  refine ⟨fun size tileId index => well.indexed _ _, well.bytes, ?_, ?_, ?_,
    copies⟩
  · rw [← maxBytes]
    exact well.bytes_le
  · rw [← maxEntries]
    exact well.entries_le
  · intro entry member
    have sound := well.sound entry member
    exact ⟨sound.count, sound.count_le⟩

end ReceiverState

end WayDisplay.Client
