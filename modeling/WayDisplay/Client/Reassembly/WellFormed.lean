import Mathlib.Algebra.BigOperators.Group.List.Basic
import WayDisplay.Client.Reassembly.Acts
import WayDisplay.Foundation.Flags

/-!
The entries of the reassembler stay consistent: with their slots, with the
budget and each with its own bitmap, whatever arrives.
-/

namespace WayDisplay.Client

open Common Foundation Relation

/-! ## Bitmaps -/

namespace Entry

theorem received_copy (entry : Entry) {packetId : Nat} (inside : packetId < 256)
    (i : Nat) :
    (entry.receivedBitmap ||| BitVec.twoPow 256 packetId).getLsbD i =
      (entry.received i || decide (i = packetId)) := by
  rw [BitVec.getLsbD_or, BitVec.getLsbD_twoPow, received]
  by_cases here : i = packetId
  · subst here
    simp [inside]
  · simp [here, Ne.symm here]

theorem setBits_copy (entry : Entry) {packetId : Nat} (inside : packetId < 256)
    (fresh : entry.received packetId = false) :
    setBits (entry.receivedBitmap ||| BitVec.twoPow 256 packetId) =
      setBits entry.receivedBitmap + 1 := by
  apply countP_range_insert inside fresh
  · rw [entry.received_copy inside]
    simp
  · intro i other
    rw [entry.received_copy inside]
    simp [other, received]

structure Sound (entry : Entry) : Prop where
  buffer : entry.compressed.length = entry.compressedSize
  count : entry.receivedCount = setBits entry.receivedBitmap
  bits : ∀ packetId, entry.received packetId = true →
    packetId < entry.packetCount

theorem Sound.count_le {entry : Entry} (sound : entry.Sound) :
    entry.receivedCount ≤ entry.packetCount := by
  rw [sound.count]
  exact countP_range_le sound.bits

end Entry

theorem ReceiverState.length_overwrite {buffer payload : List UInt8}
    {offset : Nat} (inside : offset + payload.length ≤ buffer.length) :
    (overwrite buffer offset payload).length = buffer.length := by
  simp only [overwrite, List.length_append, List.length_take, List.length_drop]
  omega

/-! ## The reassembler -/

namespace TileReassembler

structure WellFormed (r : TileReassembler) : Prop where
  indexed : r.table.Indexed Entry.tile
  numbered : ∀ entry ∈ r.activeEntries,
    entry.tile.tileId < r.slotCount entry.tile.size
  bytes : r.activePayloadBytes =
    (r.activeEntries.map fun entry => entry.compressed.length).sum
  bytes_le : r.activePayloadBytes ≤ r.maxActivePayloadBytes
  entries_le : r.activeEntries.length ≤ r.maxActiveEntries
  sound : ∀ entry ∈ r.activeEntries, entry.Sound

theorem create_wellFormed (maxActiveEntries maxActivePayloadBytes : Nat) :
    (create maxActiveEntries maxActivePayloadBytes).WellFormed where
  indexed := SlotTable.indexed_empty _
  numbered := nofun
  bytes := rfl
  bytes_le := Nat.zero_le _
  entries_le := Nat.zero_le _
  sound := nofun

variable {r : TileReassembler}

theorem recycleEntry_rest (entry : Entry) :
    (r.recycleEntry entry).table = r.table ∧
      (r.recycleEntry entry).slotCount = r.slotCount ∧
      (r.recycleEntry entry).activePayloadBytes = r.activePayloadBytes ∧
      (r.recycleEntry entry).maxActivePayloadBytes = r.maxActivePayloadBytes ∧
      (r.recycleEntry entry).maxActiveEntries = r.maxActiveEntries ∧
      (r.recycleEntry entry).entryFrameWidth = r.entryFrameWidth ∧
      (r.recycleEntry entry).entryFrameHeight = r.entryFrameHeight := by
  unfold recycleEntry
  split <;> exact ⟨rfl, rfl, rfl, rfl, rfl, rfl, rfl⟩

structure Removed (r : TileReassembler) (index : Nat) (entry : Entry)
    (r' : TileReassembler) : Prop where
  table : r'.table = r.table.swapRemove Entry.tile index
  bytes : r'.activePayloadBytes =
    r.activePayloadBytes - entry.compressed.length
  slotCount : r'.slotCount = r.slotCount
  maxBytes : r'.maxActivePayloadBytes = r.maxActivePayloadBytes
  maxEntries : r'.maxActiveEntries = r.maxActiveEntries
  frameWidth : r'.entryFrameWidth = r.entryFrameWidth
  frameHeight : r'.entryFrameHeight = r.entryFrameHeight

theorem removeEntry_removed {index : Nat} {entry : Entry}
    (stored : r.activeEntries[index]? = some entry) :
    Removed r index entry (r.removeEntry index) := by
  have found : r.table.items[index]? = some entry := stored
  unfold removeEntry
  rw [found]
  obtain ⟨table, slots, bytes, maxBytes, maxEntries, width, height⟩ :=
    recycleEntry_rest (r := { r with
      table := r.table.swapRemove Entry.tile index
      activePayloadBytes := r.activePayloadBytes - entry.compressed.length })
      entry
  exact ⟨table, bytes, slots, maxBytes, maxEntries, width, height⟩

variable {index : Nat} {entry : Entry} {r' : TileReassembler}

theorem Removed.perm (removed : Removed r index entry r')
    (stored : r.activeEntries[index]? = some entry) :
    r.activeEntries.Perm (entry :: r'.activeEntries) := by
  rw [activeEntries, activeEntries, removed.table]
  exact SlotTable.perm_swapRemove Entry.tile stored

theorem Removed.length (removed : Removed r index entry r')
    (stored : r.activeEntries[index]? = some entry) :
    r.activeEntries.length = r'.activeEntries.length + 1 :=
  (removed.perm stored).length_eq

theorem WellFormed.removed (well : r.WellFormed)
    (stored : r.activeEntries[index]? = some entry)
    (removed : Removed r index entry r') : r'.WellFormed := by
  have kept := removed.perm stored
  have sum := (kept.map fun entry => entry.compressed.length).sum_eq
  rw [List.map_cons, List.sum_cons] at sum
  have member : ∀ other ∈ r'.activeEntries, other ∈ r.activeEntries :=
    fun other inside => kept.mem_iff.mpr (List.mem_cons_of_mem _ inside)
  have bytes := well.bytes
  have bytes_le := well.bytes_le
  have entries_le := well.entries_le
  have length := removed.length stored
  refine ⟨?_, ?_, ?_, ?_, ?_, ?_⟩
  · rw [removed.table]
    exact well.indexed.swapRemove index
  · intro other inside
    rw [removed.slotCount]
    exact well.numbered other (member other inside)
  · rw [removed.bytes]
    omega
  · rw [removed.bytes, removed.maxBytes]
    omega
  · rw [removed.maxEntries]
    omega
  · exact fun other inside => well.sound other (member other inside)

theorem WellFormed.entryFor_removed (well : r.WellFormed)
    (stored : r.activeEntries[index]? = some entry)
    (removed : Removed r index entry r') (tile : WireTile) :
    r'.entryFor tile = if tile = entry.tile then none else r.entryFor tile := by
  rw [entryFor, removed.table]
  exact well.indexed.find_swapRemove stored tile

theorem WellFormed.modifyEntry (well : r.WellFormed)
    (stored : r.activeEntries[index]? = some entry) {change : Entry → Entry}
    (tile : ∀ entry, (change entry).tile = entry.tile)
    (buffer : (change entry).compressed.length = entry.compressed.length)
    (sound : (change entry).Sound) : (r.modifyEntry index change).WellFormed := by
  obtain ⟨inside, value⟩ := List.getElem?_eq_some_iff.mp stored
  have replaced : (r.modifyEntry index change).activeEntries =
      r.activeEntries.set index (change entry) := by
    rw [← value]
    exact List.modify_eq_set_get change inside
  have lengths : ((r.modifyEntry index change).activeEntries.map
      fun entry => entry.compressed.length) =
        r.activeEntries.map fun entry => entry.compressed.length := by
    rw [replaced, List.map_set, buffer, ← value]
    apply List.ext_getElem?
    intro i
    rw [List.getElem?_set]
    split
    · rename_i here
      subst here
      simp [inside]
    · rfl
  have cases : ∀ other ∈ (r.modifyEntry index change).activeEntries,
      other ∈ r.activeEntries ∨ other = change entry := by
    intro other member
    rw [replaced] at member
    exact List.mem_or_eq_of_mem_set member
  refine ⟨well.indexed.modify index tile, ?_, ?_, well.bytes_le, ?_, ?_⟩
  · intro other member
    rcases cases other member with old | rfl
    · exact well.numbered other old
    · rw [tile]
      exact well.numbered entry (List.mem_of_getElem? stored)
  · rw [lengths]
    exact well.bytes
  · rw [replaced, List.length_set]
    exact well.entries_le
  · intro other member
    rcases cases other member with old | rfl
    · exact well.sound other old
    · exact sound

theorem WellFormed.opened (well : r.WellFormed) (entry : Entry) {added : Nat}
    {recycled : List Entry} (free : r.table.slot entry.tile = none)
    (numbered : entry.tile.tileId < r.slotCount entry.tile.size)
    (buffer : entry.compressed.length = added)
    (room : r.overBudget added = false) (sound : entry.Sound) :
    { r with
      table := r.table.push Entry.tile entry
      recycledEntries := recycled
      activePayloadBytes := r.activePayloadBytes + added
      : TileReassembler }.WellFormed := by
  simp only [overBudget, Bool.or_eq_false_iff, decide_eq_false_iff_not] at room
  have bytes := well.bytes
  refine ⟨well.indexed.push free, ?_, ?_, ?_, ?_, ?_⟩
  · intro other member
    rcases List.mem_append.mp member with old | new
    · exact well.numbered other old
    · rw [List.mem_singleton.mp new]
      exact numbered
  · show r.activePayloadBytes + added = ((r.activeEntries ++ [entry]).map _).sum
    rw [List.map_append, List.sum_append, ← bytes, List.map_singleton,
      List.sum_singleton, buffer]
  · show r.activePayloadBytes + added ≤ r.maxActivePayloadBytes
    omega
  · show (r.activeEntries ++ [entry]).length ≤ r.maxActiveEntries
    rw [List.length_append, List.length_singleton]
    omega
  · intro other member
    rcases List.mem_append.mp member with old | new
    · exact well.sound other old
    · rw [List.mem_singleton.mp new]
      exact sound

theorem WellFormed.relaid (well : r.WellFormed) (idle : r.activeEntries = [])
    (slotCount : TileSize → Nat) (width height : Nat) :
    { r with
      slotCount := slotCount
      entryFrameWidth := width
      entryFrameHeight := height
      activePayloadBytes := 0
      : TileReassembler }.WellFormed := by
  have none : ∀ entry, entry ∉ r.activeEntries := by
    intro entry
    rw [idle]
    exact List.not_mem_nil
  exact {
    indexed := well.indexed
    numbered := fun entry member => absurd member (none entry)
    bytes := by
      show 0 = (r.activeEntries.map _).sum
      rw [idle]
      rfl
    bytes_le := Nat.zero_le _
    entries_le := well.entries_le
    sound := fun entry member => absurd member (none entry) }

theorem WellFormed.bytes_eq_zero (well : r.WellFormed)
    (idle : r.activeEntries = []) : r.activePayloadBytes = 0 := by
  rw [well.bytes, idle]
  rfl

end TileReassembler

/-! ## Acts -/

namespace ReceiverState

theorem beginEntry_sound (header : UdpTilePacketDecoded) (now : Nat)
    (entry : Entry) : (beginEntry header now entry).Sound where
  buffer := List.length_replicate
  count := by
    show 0 = Entry.setBits 0
    exact (List.countP_eq_zero.mpr fun i _ => by simp).symm
  bits := by
    intro packetId set
    exact absurd set (by simp [Entry.received, beginEntry])

theorem noteMetadata_tile (header : UdpTilePacketDecoded) (entry : Entry) :
    (noteMetadata header entry).tile = entry.tile := by
  unfold noteMetadata
  split <;> rfl

theorem noteMetadata_compressed (header : UdpTilePacketDecoded)
    (entry : Entry) :
    (noteMetadata header entry).compressed = entry.compressed := by
  unfold noteMetadata
  split <;> rfl

variable {entry : Entry}

theorem noteMetadata_sound {header : UdpTilePacketDecoded} (sound : entry.Sound) :
    (noteMetadata header entry).Sound := by
  unfold noteMetadata
  split
  · exact ⟨sound.buffer, sound.count, sound.bits⟩
  · exact sound

theorem copyFragment_sound {zstd : Zstd} {config : ReceiveConfig}
    {packet : List UInt8} {header : UdpTilePacketDecoded} (sound : entry.Sound)
    (checked : Checked zstd config packet header)
    (count : entry.packetCount = header.tilePktCount)
    (size : entry.compressedSize = header.tilePayloadSize)
    (fresh : entry.received header.tilePktId = false) :
    (copyFragment header (header.tilePktId * config.payloadTarget)
      (packet.drop header.headerSize) entry).Sound := by
  have inside := checked.inside
  have length := checked.payload_length
  have packetId := checked.packetId_lt
  have below := checked.valid.packetId
  refine ⟨?_, ?_, ?_⟩
  · rw [← sound.buffer] at size
    show (overwrite _ _ _).length = entry.compressedSize
    rw [length_overwrite (by rw [length, size]; exact inside)]
    exact sound.buffer
  · show entry.receivedCount + 1 = Entry.setBits
      (entry.receivedBitmap ||| BitVec.twoPow 256 header.tilePktId)
    rw [entry.setBits_copy packetId fresh, sound.count]
  · intro i set
    have either : (entry.received i || decide (i = header.tilePktId)) = true := by
      rw [← entry.received_copy packetId i]
      exact set
    show i < entry.packetCount
    rcases (Bool.or_eq_true _ _).mp either with old | new
    · exact sound.bits i old
    · rw [decide_eq_true_eq.mp new, count]
      exact below

structure Safe (s : ReceiverState) : Prop where
  well : s.reassembler.WellFormed
  copies : ∀ copy ∈ s.trace.copies, copy.offset + copy.size ≤ copy.bufferSize

variable {zstd : Zstd} {taken : Option UdpTilePacketDecoded}
  {s s' : ReceiverState}

theorem removeEntry_eq {index : Nat} {cause : RetireCause}
    (stored : s.reassembler.activeEntries[index]? = some entry) :
    s.removeEntry index cause =
      { s with
        reassembler := s.reassembler.removeEntry index
        trace := { s.trace with
          retired := s.trace.retired ++
            [⟨entry, cause, s.config.display, s.receivedGeneration,
              s.repairs⟩] } } := by
  unfold removeEntry
  rw [stored]

theorem Safe.removeEntry (safe : s.Safe) {index : Nat} {cause : RetireCause}
    (stored : s.reassembler.activeEntries[index]? = some entry) :
    (s.removeEntry index cause).Safe := by
  rw [removeEntry_eq stored]
  exact ⟨safe.well.removed stored (TileReassembler.removeEntry_removed stored),
    safe.copies⟩

theorem Safe.repairs (safe : s.Safe) (repairs : RepairTracking) :
    { s with repairs := repairs }.Safe :=
  ⟨safe.well, safe.copies⟩

theorem Act.safe (act : Act zstd taken s s') (safe : s.Safe) : s'.Safe := by
  cases act with
  | abandon stored loss reason =>
      exact Safe.removeEntry (s := s.queueEntryRepair _) (safe.repairs _) stored
  | complete taking stored own =>
      exact Safe.removeEntry (s := s.clearEntryRetxInflight _) (safe.repairs _)
        stored
  | supersede taking stored own mismatch notOutdated current =>
      exact Safe.removeEntry (s := s.clearEntryRetxInflight _) (safe.repairs _)
        stored
  | @activate packet header now taking storage checked current missing numbered
      room =>
      exact ⟨safe.well.opened (beginEntry header now
        { storage with tile := header.tile }) missing numbered
        List.length_replicate room (beginEntry_sound header now _),
        safe.copies⟩
  | note taking stored own =>
      refine ⟨safe.well.modifyEntry stored (noteMetadata_tile _) ?_ ?_,
        safe.copies⟩
      · rw [noteMetadata_compressed]
      · exact noteMetadata_sound (safe.well.sound _ (List.mem_of_getElem? stored))
  | touch inside =>
      refine ⟨safe.well, ?_⟩
      intro copy member
      rcases List.mem_append.mp member with old | new
      · exact safe.copies copy old
      · rw [List.mem_singleton.mp new]
        exact inside
  | copy taking stored own checked count size fresh =>
      have sound := safe.well.sound _ (List.mem_of_getElem? stored)
      have copied := copyFragment_sound sound checked count size fresh
      refine ⟨safe.well.modifyEntry stored (fun _ => rfl) ?_ copied, safe.copies⟩
      rw [copied.buffer, sound.buffer]
      rfl

def limits (r : TileReassembler) : Nat × Nat :=
  (r.maxActiveEntries, r.maxActivePayloadBytes)

theorem removeEntry_limits (index : Nat) (cause : RetireCause) :
    limits (s.removeEntry index cause).reassembler = limits s.reassembler := by
  cases stored : s.reassembler.activeEntries[index]? with
  | none => rw [removeEntry, stored]
  | some entry =>
      have removed := TileReassembler.removeEntry_removed stored
      rw [removeEntry_eq stored]
      exact Prod.ext removed.maxEntries removed.maxBytes

theorem Act.limits_eq (act : Act zstd taken s s') :
    limits s'.reassembler = limits s.reassembler := by
  cases act with
  | abandon => exact removeEntry_limits (s := s.queueEntryRepair _) _ _
  | complete => exact removeEntry_limits (s := s.clearEntryRetxInflight _) _ _
  | supersede => exact removeEntry_limits (s := s.clearEntryRetxInflight _) _ _
  | activate => rfl
  | note => rfl
  | touch => rfl
  | copy => rfl

theorem Acts.limits_eq (acts : Acts zstd taken s s') :
    limits s'.reassembler = limits s.reassembler :=
  acts.keep (P := fun t => limits t.reassembler = limits s.reassembler)
    (fun act same => act.limits_eq.trans same) rfl

def layout (r : TileReassembler) : (TileSize → Nat) × Nat × Nat :=
  (r.slotCount, r.entryFrameWidth, r.entryFrameHeight)

theorem removeEntry_layout (index : Nat) (cause : RetireCause) :
    layout (s.removeEntry index cause).reassembler = layout s.reassembler := by
  cases stored : s.reassembler.activeEntries[index]? with
  | none => rw [removeEntry, stored]
  | some entry =>
      have removed := TileReassembler.removeEntry_removed stored
      rw [removeEntry_eq stored]
      exact Prod.ext removed.slotCount
        (Prod.ext removed.frameWidth removed.frameHeight)

theorem Act.layout_eq (act : Act zstd taken s s') :
    layout s'.reassembler = layout s.reassembler := by
  cases act with
  | abandon => exact removeEntry_layout (s := s.queueEntryRepair _) _ _
  | complete => exact removeEntry_layout (s := s.clearEntryRetxInflight _) _ _
  | supersede => exact removeEntry_layout (s := s.clearEntryRetxInflight _) _ _
  | activate => rfl
  | note => rfl
  | touch => rfl
  | copy => rfl

theorem Acts.layout_eq (acts : Acts zstd taken s s') :
    layout s'.reassembler = layout s.reassembler :=
  acts.keep (P := fun t => layout t.reassembler = layout s.reassembler)
    (fun act same => act.layout_eq.trans same) rfl

theorem Acts.safe (acts : Acts zstd taken s s') (safe : s.Safe) : s'.Safe :=
  acts.keep (fun act => act.safe) safe

end ReceiverState

end WayDisplay.Client
