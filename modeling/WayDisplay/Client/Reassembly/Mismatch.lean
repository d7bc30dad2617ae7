import WayDisplay.Client.Reassembly.System

/-!
Packets that disagree with the entry of their tile.

A packet of an active tile, epoch and generation is ignored when its packet
count, payload size or compressed flag is not the entry's.  The metadata of a
first fragment is noted before that is checked.
-/

namespace WayDisplay.Client

open Common Foundation

namespace ReceiverState

def Disagrees (header : UdpTilePacketDecoded) (entry : Entry) : Prop :=
  entry.packetCount ≠ header.tilePktCount ∨
    entry.compressedSize ≠ header.tilePayloadSize ∨
    entry.compressedPayload ≠ header.isCompressed

instance (header : UdpTilePacketDecoded) (entry : Entry) :
    Decidable (Disagrees header entry) :=
  inferInstanceAs (Decidable (_ ∨ _))

/--
The packet comes to an active entry of its tile, epoch and generation, and is
ignored because it disagrees with it: it was not taken for a conflict of the
first fragment's metadata before.
-/
structure IgnoredMismatch (zstd : Zstd) (s : ReceiverState) (arrival : Arrival)
    (header : UdpTilePacketDecoded) (t : ReceiverState) (index : Nat)
    (entry : Entry) : Prop where
  admitted : admitPacket zstd s arrival.bytes = some header
  configured : s.configureEntrySlots = some t
  found : t.reassembler.findEntryIndex header.tile = some index
  stored : t.reassembler.activeEntries[index]? = some entry
  same : matchesHeader header entry = true
  fresh : timedOut entry arrival.now arrival.timeoutNs = false
  unconflicted : ¬(header.tilePktId = 0 ∧ entry.firstFragmentMetadataSeen ∧
    entry.inputSequence ≠ header.inputSequence)
  disagrees : Disagrees header entry

variable {header : UdpTilePacketDecoded}

theorem not_outdated_of_matches {entry : Entry}
    (same : matchesHeader header entry = true) :
    outdated header entry = false := by
  simp only [matchesHeader, Bool.and_eq_true, decide_eq_true_eq] at same
  simp [outdated, same.2]

theorem disagrees_noteMetadata {entry : Entry}
    (disagrees : Disagrees header entry) :
    Disagrees header (noteMetadata header entry) := by
  unfold noteMetadata
  split
  · exact disagrees
  · exact disagrees

theorem IgnoredMismatch.processUdpPacket {zstd : Zstd} {s t : ReceiverState}
    {arrival : Arrival} {index : Nat} {entry : Entry}
    (ignored : IgnoredMismatch zstd s arrival header t index entry) :
    ReceiverState.processUdpPacket zstd s arrival =
      (t.updateEntry index (noteMetadata header), none) := by
  have taken : t.entryForPacket header arrival (some index) =
      (t, some index) := by
    simp only [entryForPacket, ignored.stored, ignored.same, ignored.fresh,
      if_true, Bool.false_eq_true, if_false]
  simp only [ReceiverState.processUdpPacket, ignored.admitted,
    ignored.configured, ignored.found, Option.bind_some, ignored.stored,
    Option.any_some, not_outdated_of_matches ignored.same, Bool.false_eq_true,
    if_false, taken]
  simp only [takeFragment, ignored.stored, if_neg ignored.unconflicted]
  exact if_pos (disagrees_noteMetadata ignored.disagrees)

theorem noteMetadata_eq_self_iff {header : UdpTilePacketDecoded} {entry : Entry}
    (unconflicted : ¬(header.tilePktId = 0 ∧ entry.firstFragmentMetadataSeen ∧
      entry.inputSequence ≠ header.inputSequence)) :
    noteMetadata header entry = entry ↔
      header.tilePktId ≠ 0 ∨ entry.firstFragmentMetadataSeen = true := by
  unfold noteMetadata
  split
  · rename_i first
    constructor
    · intro same
      exact .inr (congrArg Entry.firstFragmentMetadataSeen same).symm
    · rintro (later | seen)
      · exact absurd first later
      · have sequence : entry.inputSequence = header.inputSequence :=
          not_not.mp fun differs => unconflicted ⟨first, seen, differs⟩
        rw [← seen, ← sequence]
  · rename_i later
    exact ⟨fun _ => .inl later, fun _ => rfl⟩

/--
An ignored mismatch completes no tile, and it leaves the entry exactly as it was
unless it is the first fragment and the metadata of that was not seen before.
-/
theorem ignored_mismatch_keeps_entry_iff (zstd : Zstd) (s t : ReceiverState)
    (arrival : Arrival) (header : UdpTilePacketDecoded) (index : Nat)
    (entry : Entry)
    (ignored : IgnoredMismatch zstd s arrival header t index entry) :
    (processUdpPacket zstd s arrival).2 = none ∧
      ((processUdpPacket zstd s arrival).1.reassembler.activeEntries[index]? =
          some entry ↔
        header.tilePktId ≠ 0 ∨ entry.firstFragmentMetadataSeen = true) := by
  have after : (t.updateEntry index
      (noteMetadata header)).reassembler.activeEntries[index]? =
      some (noteMetadata header entry) := by
    have stored := ignored.stored
    unfold TileReassembler.activeEntries at stored
    simp only [updateEntry, TileReassembler.modifyEntry,
      TileReassembler.activeEntries, SlotTable.modify, List.getElem?_modify,
      if_true, stored, Option.map_some, Option.map_eq_map]
  rw [ignored.processUdpPacket, after]
  refine ⟨rfl, ?_⟩
  rw [Option.some.injEq]
  exact noteMetadata_eq_self_iff ignored.unconflicted

/-! ## A half received tile -/

/-- The header of a packet that claims the tile to be compressed to 600 bytes. -/
def strayHeader (packetId payloadSize : Nat) : UdpTilePacketDecoded where
  sessionId := smallPackets.sessionId
  connectionToken := smallPackets.connectionToken
  contentEpoch := 1
  flags := udpTileFlagCompressed
  tileSize := .tile16x16
  tilePktId := packetId
  tileId := 0
  tilePktCount := 2
  payloadSize := payloadSize
  tilePayloadSize := 600
  tileGeneration := 1
  inputSequence := 0
  headerSize := udpTileHeaderMinSize

def strayPacket (packetId payloadSize : Nat) : Arrival where
  bytes := (udpTilePacketEncodeHeader 44 (strayHeader packetId
    payloadSize)).getD [] ++ List.replicate payloadSize 0
  now := 20
  timeoutNs := 1000

def halfReceived : ReceiverState :=
  (processUdpPacket .stored (initial smallPackets 1 512 65536)
    (halfTile 1 1 1 10)).1

def halfEntry : Entry :=
  (halfReceived.reassembler.activeEntries[0]?).getD .blank

theorem configureEntrySlots_of_same {s : ReceiverState}
    (same : s.reassembler.entryFrameWidth = s.config.display.width ∧
      s.reassembler.entryFrameHeight = s.config.display.height ∧
      s.reassembler.entryFrameWidth ≠ 0) :
    s.configureEntrySlots = some s := by
  unfold configureEntrySlots
  exact if_pos same

theorem halfReceived_configured :
    halfReceived.configureEntrySlots = some halfReceived :=
  configureEntrySlots_of_same (by decide +kernel)

/-- A stray first fragment is ignored, but the entry now knows it. -/
theorem ignored_mismatch_changes_entry :
    IgnoredMismatch .stored halfReceived (strayPacket 0 512)
        (strayHeader 0 512) halfReceived 0 halfEntry ∧
      (processUdpPacket .stored halfReceived
        (strayPacket 0 512)).1.reassembler.activeEntries[0]? ≠
        some halfEntry := by
  refine ⟨⟨by decide +kernel, halfReceived_configured, by decide +kernel,
    by decide +kernel, by decide +kernel, by decide +kernel,
    by decide +kernel, by decide +kernel⟩, by decide +kernel⟩

theorem ignored_mismatch_keeps_entry_second :
    (processUdpPacket .stored halfReceived
      (strayPacket 1 88)).1.reassembler.activeEntries[0]? = some halfEntry :=
  (ignored_mismatch_keeps_entry_iff .stored halfReceived halfReceived
    (strayPacket 1 88) (strayHeader 1 88) 0 halfEntry
    ⟨by decide +kernel, halfReceived_configured, by decide +kernel,
      by decide +kernel, by decide +kernel, by decide +kernel,
      by decide +kernel, by decide +kernel⟩).2.mpr (.inl (by decide))

end ReceiverState

end WayDisplay.Client
