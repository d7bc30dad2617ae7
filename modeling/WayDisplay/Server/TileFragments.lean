import WayDisplay.Server.Stream.System

/-!
The packets of a tile payload (`wd_stream.c`, `wd_protocol.h`).

The server cuts a payload into pieces of the payload target; only the last one
may be shorter.  The client accepts a fragment exactly when it is one of them.
-/

namespace WayDisplay.Server

open Common

theorem flatten_pieces {α : Type} (items : List α) (target count : Nat) :
    ((List.range count).map fun k =>
        (items.drop (k * target)).take target).flatten =
      items.take (count * target) := by
  induction count with
  | zero => simp
  | succ count ih =>
      rw [List.range_succ, List.map_append, List.flatten_append, ih,
        Nat.succ_mul, List.take_add]
      simp

theorem normalizeUdpPayloadTarget_pos (target : Nat) :
    0 < normalizeUdpPayloadTarget target := by
  have least : 0 < minProbedUdpPayload := by decide
  unfold normalizeUdpPayloadTarget
  split
  · decide
  · exact lt_min (by omega) (by decide)

theorem NetState.packetCountFor_eq {net : NetState} {payload : TilePayload}
    (some : net.packetCountFor payload ≠ 0) :
    payload.bytes.length ≠ 0 ∧ net.packetCountFor payload =
      (payload.bytes.length + normalizeUdpPayloadTarget net.udpPayloadTarget -
        1) / normalizeUdpPayloadTarget net.udpPayloadTarget := by
  unfold NetState.packetCountFor tilePacketCountForPayload at some ⊢
  split_ifs at some ⊢ with none
  · exact absurd rfl some
  · exact absurd rfl some
  · exact ⟨fun empty => none (.inl empty), rfl⟩

/-- Put together in order, the pieces that are sent make up the payload, and the
client's check of the layout passes for them and for nothing else. -/
theorem fragments_exact (net : NetState) (tile : WireTile) (generation : Nat)
    (payload : TilePayload)
    (sends : ¬(net.packetCountFor payload = 0 ∨
      net.packetCountFor payload > uint8Limit ∨
      payload.bytes.length > uint16Limit)) :
    let packets := net.packetsFor tile generation payload
      (net.packetCountFor payload)
    (packets.map (·.body)).flatten = payload.bytes ∧
      ∀ (header : UdpTilePacketDecoded) (packetSize : Nat),
        udpTileFragmentLayoutValid header packetSize
            (normalizeUdpPayloadTarget net.udpPayloadTarget)
            payload.bytes.length = true ↔
          header.tilePayloadSize = payload.bytes.length ∧
            header.headerSize + header.payloadSize = packetSize ∧
            ∃ packet ∈ packets, header.tilePktId = packet.packetId ∧
              header.tilePktCount = packet.packetCount ∧
              header.payloadSize = packet.body.length := by
  simp only [not_or] at sends
  obtain ⟨nonempty, count⟩ := NetState.packetCountFor_eq sends.1
  have positive := normalizeUdpPayloadTarget_pos net.udpPayloadTarget
  have few := Nat.le_of_not_lt sends.2.1
  have some := sends.1
  simp only [NetState.packetsFor, List.map_map]
  constructor
  · refine (flatten_pieces payload.bytes _ _).trans (List.take_of_length_le ?_)
    rw [count, ← Nat.lt_succ_iff]
    have rest := Nat.mod_lt (payload.bytes.length +
      normalizeUdpPayloadTarget net.udpPayloadTarget - 1) positive
    have whole := Nat.div_add_mod' (payload.bytes.length +
      normalizeUdpPayloadTarget net.udpPayloadTarget - 1)
      (normalizeUdpPayloadTarget net.udpPayloadTarget)
    omega
  · intro header packetSize
    simp only [udpTileFragmentLayoutValid, Bool.and_eq_true,
      decide_eq_true_eq, ← count, List.mem_map, List.mem_range,
      exists_exists_and_eq_and, NetState.packetFor, List.length_take,
      List.length_drop]
    constructor
    · rintro ⟨⟨⟨⟨⟨⟨⟨-, total⟩, size⟩, -⟩, -⟩, same⟩, inside⟩, part⟩
      exact ⟨total.symm, size, header.tilePktId, inside, rfl, same,
        part.trans (Nat.min_comm _ _)⟩
    · rintro ⟨total, size, packetId, inside, rfl, same, part⟩
      exact ⟨⟨⟨⟨⟨⟨⟨⟨positive.ne', nonempty⟩, total.symm⟩, size⟩, some⟩, few⟩,
        same⟩, inside⟩, part.trans (Nat.min_comm _ _)⟩

def smallTarget : NetState :=
  { NetState.initial true with udpPayloadTarget := 512 }

/-- The third of three fragments of 1300 bytes. -/
def thirdFragment (payloadSize : Nat) : UdpTilePacketDecoded :=
  ⟨0, 0, 1, 0, .tile128x64, 2, 0, 3, payloadSize, 1300, 1, 0,
    udpTileHeaderMinSize⟩

/-- Two whole packets and a shorter one, which is the only third fragment that
passes. -/
theorem fragments_exact_threePackets :
    ((smallTarget.packetsFor ⟨.tile128x64, 0⟩ 1 ⟨List.replicate 1300 7, true⟩
      3).map (·.body)).flatten = List.replicate 1300 7 ∧
    ∀ size, udpTileFragmentLayoutValid (thirdFragment size)
      (udpTileHeaderMinSize + size) 512 1300 = true ↔ size = 276 := by
  have length : (List.replicate 1300 (7 : UInt8)).length = 1300 :=
    List.length_replicate
  generalize List.replicate 1300 (7 : UInt8) = bytes at length ⊢
  have count : smallTarget.packetCountFor ⟨bytes, true⟩ = 3 := by
    rw [NetState.packetCountFor, length]
    rfl
  have exact := fragments_exact smallTarget ⟨.tile128x64, 0⟩ 1 ⟨bytes, true⟩
    (by rw [count, length]; decide)
  rw [count, length] at exact
  refine ⟨exact.1, fun size => (exact.2 (thirdFragment size) _).trans ?_⟩
  have target : normalizeUdpPayloadTarget smallTarget.udpPayloadTarget = 512 :=
    rfl
  simp [NetState.packetsFor, NetState.packetFor, count, thirdFragment, length,
    target]

end WayDisplay.Server
