import Mathlib.Logic.Relation
import WayDisplay.Client.Reassembly.System

/-!
What the reassembler can do to its entries.

Taking a packet and expiring entries are sequences of a few acts: an entry is
abandoned, completed or superseded, a new one is opened, or a fragment is copied.
The guards of an act are what the code has checked when it gets there: without a
packet entries only time out or are evicted, and a packet does nothing else to
the entries of other tiles.  Whatever every act keeps, these keep.
Laying out the slots anew and resetting are no acts: they drop every entry.
-/

namespace WayDisplay.Client

open Common Foundation Relation

def RetireCause.isLoss : RetireCause → Bool
  | .timedOut | .evicted | .conflict | .wrongSize | .undecodable => true
  | _ => false

/-! ## Valid headers -/

structure ValidHeader (zstd : Zstd) (config : ReceiveConfig)
    (header : UdpTilePacketDecoded) (packetSize : Nat) : Prop where
  session : header.sessionId = config.sessionId
  token : header.connectionToken = config.connectionToken
  inGrid : header.tileId <
    tilesForWidthWithTile config.display.width header.tileSize.width *
      tilesForHeightWithTile config.display.height header.tileSize.height
  numbered : tilesForWidthWithTile config.display.width header.tileSize.width *
    tilesForHeightWithTile config.display.height header.tileSize.height ≤
      uint16Limit
  packetId : header.tilePktId < header.tilePktCount
  payload : header.payloadSize ≠ 0
  compressed : header.isCompressed = true →
    header.tilePayloadSize ≤ zstd.compressBound header.tileSize.bytes
  raw : header.isCompressed = false →
    header.tilePayloadSize = header.tileSize.bytes
  layout : udpTileFragmentLayoutValid header packetSize config.payloadTarget
    header.tilePayloadSize = true

theorem tilePayload_ne_zero {header : UdpTilePacketDecoded}
    {packetSize target total : Nat}
    (layout : udpTileFragmentLayoutValid header packetSize target total = true) :
    total ≠ 0 := by
  simp only [udpTileFragmentLayoutValid, Bool.and_eq_true,
    decide_eq_true_eq] at layout
  exact layout.1.1.1.1.1.1.1.2

theorem validate_eq_valid_iff {zstd : Zstd} {config : ReceiveConfig}
    {header : UdpTilePacketDecoded} {packetSize : Nat} :
    ReceiverState.validateTilePacketHeader zstd config header packetSize =
        .valid ↔
      ValidHeader zstd config header packetSize := by
  constructor
  · intro valid
    simp only [ReceiverState.validateTilePacketHeader] at valid
    split_ifs at valid with identity geometry fragment large other layout
    exact {
      session := by by_contra differs; exact identity (Or.inl differs)
      token := by by_contra differs; exact identity (Or.inr differs)
      inGrid := by omega
      numbered := by omega
      packetId := by omega
      payload := by omega
      compressed := by
        intro compressed
        by_contra above
        exact large ⟨compressed, by omega⟩
      raw := by
        intro raw
        by_contra differs
        exact other ⟨by rw [raw]; exact Bool.false_ne_true, differs⟩
      layout := by simpa using layout }
  · intro valid
    have inGrid := valid.inGrid
    have total := tilePayload_ne_zero valid.layout
    have columns : tilesForWidthWithTile config.display.width
        header.tileSize.width ≠ 0 := by
      intro zero
      rw [zero, Nat.zero_mul] at inGrid
      exact Nat.not_lt_zero _ inGrid
    have rows : tilesForHeightWithTile config.display.height
        header.tileSize.height ≠ 0 := by
      intro zero
      rw [zero, Nat.mul_zero] at inGrid
      exact Nat.not_lt_zero _ inGrid
    have packetId := valid.packetId
    have payload := valid.payload
    have numbered := valid.numbered
    simp only [ReceiverState.validateTilePacketHeader]
    rw [if_neg (by
        rintro (differs | differs)
        · exact differs valid.session
        · exact differs valid.token),
      if_neg (by omega), if_neg (by omega),
      if_neg (by
        rintro ⟨compressed, above⟩
        exact Nat.not_le_of_gt above (valid.compressed compressed)),
      if_neg (by
        rintro ⟨raw, differs⟩
        exact differs (valid.raw (by simpa using raw))),
      if_neg (by rw [valid.layout]; exact Bool.false_ne_true)]

structure Checked (zstd : Zstd) (config : ReceiveConfig) (packet : List UInt8)
    (header : UdpTilePacketDecoded) : Prop where
  decoded : udpTilePacketDecode packet = some header
  valid : ValidHeader zstd config header packet.length

namespace Checked

variable {zstd : Zstd} {config : ReceiveConfig} {packet : List UInt8}
  {header : UdpTilePacketDecoded}

theorem payload_length (checked : Checked zstd config packet header) :
    (packet.drop header.headerSize).length = header.payloadSize := by
  have size := (decodes_of_decode checked.decoded).size
  rw [List.length_drop]
  omega

theorem inside (checked : Checked zstd config packet header) :
    header.tilePktId * config.payloadTarget + header.payloadSize ≤
      header.tilePayloadSize :=
  fragment_inside checked.valid.layout

theorem packetId_lt (checked : Checked zstd config packet header) :
    header.tilePktId < 256 := by
  have decodes := decodes_of_decode checked.decoded
  have below := decodes.packetId_lt
  have limit := decodes.packetCount_le
  have value : uint8Limit = 255 := rfl
  omega

end Checked

namespace ReceiverState

def opened (s : ReceiverState) (header : UdpTilePacketDecoded) (now : Nat)
    (storage : Entry) : ReceiverState :=
  { s with
    reassembler := { s.reassembler with
      table := s.reassembler.table.push Entry.tile
        (beginEntry header now { storage with tile := header.tile })
      recycledEntries := s.reassembler.recycledEntries.dropLast
      activePayloadBytes :=
        s.reassembler.activePayloadBytes + header.tilePayloadSize }
    repairs := (forEachBaseTileCovered s.config.display header.tile).foldl
      (RepairTracking.markInflight header.tileGeneration now) s.repairs }

/-- What may happen to the entries, while a packet is taken or without one. -/
inductive Act (zstd : Zstd) (taken : Option UdpTilePacketDecoded)
    (s : ReceiverState) : ReceiverState → Prop
  | abandon {index : Nat} {entry : Entry} {cause : RetireCause}
      (stored : s.reassembler.activeEntries[index]? = some entry)
      (loss : cause.isLoss = true)
      (reason : cause = .timedOut ∨ cause = .evicted ∨
        ∃ header, taken = some header ∧ entry.tile = header.tile) :
      Act zstd taken s ((s.queueEntryRepair entry).removeEntry index cause)
  | complete {index : Nat} {entry : Entry} {header : UdpTilePacketDecoded}
      (taking : taken = some header)
      (stored : s.reassembler.activeEntries[index]? = some entry)
      (own : entry.tile = header.tile) :
      Act zstd taken s
        ((s.clearEntryRetxInflight entry).removeEntry index .completed)
  | supersede {index : Nat} {entry : Entry} {header : UdpTilePacketDecoded}
      (taking : taken = some header)
      (stored : s.reassembler.activeEntries[index]? = some entry)
      (own : entry.tile = header.tile)
      (mismatch : matchesHeader header entry = false)
      (notOutdated : outdated header entry = false)
      (current : header.contentEpoch = s.remote.epoch) :
      Act zstd taken s ((s.clearEntryRetxInflight entry).removeEntry index
        (.replaced header.contentEpoch header.tileGeneration))
  | activate {packet : List UInt8} {header : UdpTilePacketDecoded} {now : Nat}
      (taking : taken = some header) (storage : Entry)
      (checked : Checked zstd s.config packet header)
      (current : header.contentEpoch = s.remote.epoch)
      (missing : s.reassembler.table.slot header.tile = none)
      (numbered : header.tile.tileId <
        s.reassembler.slotCount header.tile.size)
      (room : s.reassembler.overBudget header.tilePayloadSize = false) :
      Act zstd taken s (s.opened header now storage)
  | note {index : Nat} {entry : Entry} {header : UdpTilePacketDecoded}
      (taking : taken = some header)
      (stored : s.reassembler.activeEntries[index]? = some entry)
      (own : entry.tile = header.tile) :
      Act zstd taken s (s.updateEntry index (noteMetadata header))
  | touch {copy : FragmentCopy}
      (inside : copy.offset + copy.size ≤ copy.bufferSize) :
      Act zstd taken s (s.noteCopy copy)
  | copy {index : Nat} {entry : Entry} {packet : List UInt8}
      {header : UdpTilePacketDecoded} (taking : taken = some header)
      (stored : s.reassembler.activeEntries[index]? = some entry)
      (own : entry.tile = header.tile)
      (checked : Checked zstd s.config packet header)
      (count : entry.packetCount = header.tilePktCount)
      (size : entry.compressedSize = header.tilePayloadSize)
      (fresh : entry.received header.tilePktId = false) :
      Act zstd taken s (s.updateEntry index
        (copyFragment header (header.tilePktId * s.config.payloadTarget)
          (packet.drop header.headerSize)))

def Acts (zstd : Zstd) (taken : Option UdpTilePacketDecoded)
    (s s' : ReceiverState) : Prop :=
  ReflTransGen (Act zstd taken) s s'

variable {zstd : Zstd} {taken : Option UdpTilePacketDecoded}
  {s s' s'' : ReceiverState}

theorem Acts.refl : Acts zstd taken s s := ReflTransGen.refl

theorem Act.acts (act : Act zstd taken s s') : Acts zstd taken s s' :=
  ReflTransGen.single act

theorem Acts.trans (first : Acts zstd taken s s')
    (second : Acts zstd taken s' s'') : Acts zstd taken s s'' :=
  ReflTransGen.trans first second

theorem Acts.keep {P : ReceiverState → Prop}
    (kept : ∀ {s s'}, Act zstd taken s s' → P s → P s')
    (acts : Acts zstd taken s s') (holds : P s) : P s' := by
  induction acts with
  | refl => exact holds
  | tail _ act ih => exact kept act ih

/-! ## What no act changes -/

theorem removeEntry_config (index : Nat) (cause : RetireCause) :
    (s.removeEntry index cause).config = s.config ∧
      (s.removeEntry index cause).remote = s.remote ∧
      (s.removeEntry index cause).receivedGeneration =
        s.receivedGeneration := by
  unfold removeEntry
  split <;> exact ⟨rfl, rfl, rfl⟩

theorem Act.rest (act : Act zstd taken s s') :
    s'.config = s.config ∧ s'.remote = s.remote ∧
      s'.receivedGeneration = s.receivedGeneration := by
  cases act with
  | abandon => exact removeEntry_config _ _
  | complete => exact removeEntry_config _ _
  | supersede => exact removeEntry_config _ _
  | activate => exact ⟨rfl, rfl, rfl⟩
  | note => exact ⟨rfl, rfl, rfl⟩
  | touch => exact ⟨rfl, rfl, rfl⟩
  | copy => exact ⟨rfl, rfl, rfl⟩

theorem Acts.rest (acts : Acts zstd taken s s') :
    s'.config = s.config ∧ s'.remote = s.remote ∧
      s'.receivedGeneration = s.receivedGeneration := by
  refine acts.keep (P := fun s' => s'.config = s.config ∧
    s'.remote = s.remote ∧ s'.receivedGeneration = s.receivedGeneration) ?_
    ⟨rfl, rfl, rfl⟩
  rintro t t' act ⟨config, remote, received⟩
  obtain ⟨config', remote', received'⟩ := act.rest
  exact ⟨config'.trans config, remote'.trans remote, received'.trans received⟩

/-! ## Records -/

theorem removeEntry_grows (index : Nat) (cause : RetireCause) :
    ∃ added, (s.removeEntry index cause).trace.retired =
      s.trace.retired ++ added := by
  unfold removeEntry
  split
  · exact ⟨[], (List.append_nil _).symm⟩
  · exact ⟨_, rfl⟩

theorem Acts.grows (acts : Acts zstd taken s s') :
    ∃ added, s'.trace.retired = s.trace.retired ++ added := by
  refine acts.keep (P := fun t => ∃ added, t.trace.retired =
    s.trace.retired ++ added) ?_ ⟨[], (List.append_nil _).symm⟩
  rintro t t' act ⟨added, before⟩
  have later : ∃ more, t'.trace.retired = t.trace.retired ++ more := by
    cases act with
    | abandon => exact removeEntry_grows _ _
    | complete => exact removeEntry_grows _ _
    | supersede => exact removeEntry_grows _ _
    | activate => exact ⟨[], (List.append_nil _).symm⟩
    | note => exact ⟨[], (List.append_nil _).symm⟩
    | touch => exact ⟨[], (List.append_nil _).symm⟩
    | copy => exact ⟨[], (List.append_nil _).symm⟩
  obtain ⟨more, after⟩ := later
  exact ⟨added ++ more, by rw [after, before, List.append_assoc]⟩

end ReceiverState

end WayDisplay.Client
