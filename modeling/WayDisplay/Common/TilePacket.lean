import WayDisplay.Common.Tile
import WayDisplay.Common.Wire

/-!
Tile packets on the wire (`wd_protocol.h`).

Every fragment of a tile carries the same base header.  The first one may carry
an input sequence behind it.  A decoded header says how long it was, so that the
payload can be found.
-/

namespace WayDisplay.Common

/-! ## Limits -/

def udpPayloadTargetDefault : Nat := 1400

def minProbedUdpPayload : Nat := 512

def udpTilePayloadMax : Nat := 65507 - 44

def uint8Limit : Nat := 2 ^ 8 - 1

def bytesPerTilePixel : Nat := 4

/-! ## Size codes -/

namespace TileSize

def code : TileSize → Nat
  | .tile128x64 => 0
  | .tile64x64 => 1
  | .tile32x32 => 2
  | .tile16x16 => 3

def ofCode : Nat → Option TileSize
  | 0 => some .tile128x64
  | 1 => some .tile64x64
  | 2 => some .tile32x32
  | 3 => some .tile16x16
  | _ => none

@[simp]
theorem ofCode_code (size : TileSize) : ofCode size.code = some size := by
  cases size <;> rfl

theorem code_lt (size : TileSize) : size.code < 4 := by
  cases size <;> decide

def bytes (size : TileSize) : Nat := size.width * size.height * bytesPerTilePixel

end TileSize

/-! ## Headers -/

structure UdpTilePacketDecoded where
  sessionId : Nat
  connectionToken : Nat
  contentEpoch : Nat
  flags : Nat
  tileSize : TileSize
  tilePktId : Nat
  tileId : Nat
  tilePktCount : Nat
  payloadSize : Nat
  tilePayloadSize : Nat
  tileGeneration : Nat
  inputSequence : Nat
  headerSize : Nat
  deriving DecidableEq, Repr

def udpTileFlagCompressed : Nat := 1

def udpTileFlagInputSequence : Nat := 2

def udpTileFlagMask : Nat := 3

def udpTileHeaderMinSize : Nat := 36

def udpTileHeaderMaxSize : Nat := 44

/-- The mask covers the low bits, so flags outside it are those above it. -/
def udpTileHeaderSizeForFlags (flags : Nat) : Nat :=
  if flags > udpTileFlagMask then 0
  else
    udpTileHeaderMinSize +
      if flags &&& udpTileFlagInputSequence ≠ 0 then 8 else 0

namespace UdpTilePacketDecoded

def tile (header : UdpTilePacketDecoded) : WireTile :=
  ⟨header.tileSize, header.tileId⟩

def isCompressed (header : UdpTilePacketDecoded) : Bool :=
  header.flags &&& udpTileFlagCompressed != 0

def hasInputSequence (header : UdpTilePacketDecoded) : Bool :=
  header.flags &&& udpTileFlagInputSequence != 0

/-- What both the encoder and the decoder ask of the base header. -/
def complete (header : UdpTilePacketDecoded) : Bool :=
  header.sessionId ≠ 0 && header.connectionToken ≠ 0 &&
    header.contentEpoch ≠ 0 && header.tilePktCount ≠ 0 &&
    header.tilePktId < header.tilePktCount && header.payloadSize ≠ 0 &&
    header.tilePayloadSize ≠ 0 &&
    header.payloadSize ≤ header.tilePayloadSize && header.tileGeneration ≠ 0

def fields (header : UdpTilePacketDecoded) : List PackedField :=
  [⟨1, header.sessionId⟩, ⟨8, header.connectionToken⟩,
    ⟨8, header.contentEpoch⟩, ⟨1, header.flags⟩, ⟨1, header.tileSize.code⟩,
    ⟨1, header.tilePktId⟩, ⟨2, header.tileId⟩, ⟨1, header.tilePktCount⟩,
    ⟨1, 0⟩, ⟨2, header.payloadSize⟩, ⟨2, header.tilePayloadSize⟩,
    ⟨8, header.tileGeneration⟩]

def extension (header : UdpTilePacketDecoded) : List PackedField :=
  if header.hasInputSequence then [⟨8, header.inputSequence⟩] else []

end UdpTilePacketDecoded

def udpTileHeaderWidths : List Nat := [1, 8, 8, 1, 1, 1, 2, 1, 1, 2, 2, 8]

/-! ## Encoding and decoding -/

def udpTilePacketEncodeHeader (destinationSize : Nat)
    (header : UdpTilePacketDecoded) : Option (List UInt8) :=
  if !header.complete then none
  else if udpTileHeaderSizeForFlags header.flags = 0 ∨
      destinationSize < udpTileHeaderSizeForFlags header.flags ∨
      header.hasInputSequence ∧
        (header.tilePktId ≠ 0 ∨ header.inputSequence = 0) then none
  else some (pack header.fields ++ pack header.extension)

def decodeExtension (header : UdpTilePacketDecoded) (packet : List UInt8) :
    Option UdpTilePacketDecoded :=
  if header.hasInputSequence then
    let inputSequence :=
      ofLittleEndian ((packet.drop udpTileHeaderMinSize).take 8)
    if header.tilePktId ≠ 0 ∨ inputSequence = 0 then none
    else some { header with inputSequence := inputSequence }
  else some header

def decodeFields : List Nat → Option (UdpTilePacketDecoded × Nat)
  | [sessionId, connectionToken, contentEpoch, flags, tileSize, tilePktId,
      tileId, tilePktCount, reserved, payloadSize, tilePayloadSize,
      tileGeneration] =>
      (TileSize.ofCode tileSize).map fun size =>
        ({ sessionId, connectionToken, contentEpoch, flags
           tileSize := size
           tilePktId, tileId, tilePktCount, payloadSize, tilePayloadSize,
           tileGeneration
           inputSequence := 0
           headerSize := udpTileHeaderSizeForFlags flags }, reserved)
  | _ => none

def udpTilePacketDecode (packet : List UInt8) : Option UdpTilePacketDecoded :=
  if packet.length < udpTileHeaderMinSize then none
  else
    match decodeFields (unpack udpTileHeaderWidths packet) with
    | none => none
    | some (header, reserved) =>
        if header.headerSize = 0 ∨ packet.length < header.headerSize ∨
            reserved ≠ 0 ∨ !header.complete then none
        else
          match decodeExtension header packet with
          | none => none
          | some header =>
              if header.headerSize + header.payloadSize = packet.length then
                some header
              else none

def udpTileFragmentLayoutValid (header : UdpTilePacketDecoded)
    (packetSize udpPayloadTarget totalPayloadSize : Nat) : Bool :=
  let expectedPacketCount :=
    (totalPayloadSize + udpPayloadTarget - 1) / udpPayloadTarget
  let offset := header.tilePktId * udpPayloadTarget
  udpPayloadTarget ≠ 0 && totalPayloadSize ≠ 0 &&
    totalPayloadSize = header.tilePayloadSize &&
    header.headerSize + header.payloadSize = packetSize &&
    expectedPacketCount ≠ 0 && expectedPacketCount ≤ uint8Limit &&
    header.tilePktCount = expectedPacketCount &&
    header.tilePktId < expectedPacketCount &&
    header.payloadSize = min (totalPayloadSize - offset) udpPayloadTarget

/-! ## Round trip -/

namespace UdpTilePacketDecoded

structure Sized (header : UdpTilePacketDecoded) : Prop where
  sessionId : header.sessionId < 2 ^ 8
  connectionToken : header.connectionToken < 2 ^ 64
  contentEpoch : header.contentEpoch < 2 ^ 64
  tilePktId : header.tilePktId < 2 ^ 8
  tileId : header.tileId < 2 ^ 16
  tilePktCount : header.tilePktCount < 2 ^ 8
  payloadSize : header.payloadSize < 2 ^ 16
  tilePayloadSize : header.tilePayloadSize < 2 ^ 16
  tileGeneration : header.tileGeneration < 2 ^ 64
  inputSequence : header.inputSequence < 2 ^ 64

/-- The header says what its flags say. -/
structure Normal (header : UdpTilePacketDecoded) : Prop where
  headerSize : header.headerSize = udpTileHeaderSizeForFlags header.flags
  inputSequence : header.hasInputSequence = false → header.inputSequence = 0

variable {header : UdpTilePacketDecoded}

theorem complete_iff :
    header.complete = true ↔
      header.sessionId ≠ 0 ∧ header.connectionToken ≠ 0 ∧
        header.contentEpoch ≠ 0 ∧ header.tilePktCount ≠ 0 ∧
        header.tilePktId < header.tilePktCount ∧ header.payloadSize ≠ 0 ∧
        header.tilePayloadSize ≠ 0 ∧
        header.payloadSize ≤ header.tilePayloadSize ∧
        header.tileGeneration ≠ 0 := by
  simp [complete, and_assoc]

theorem fields_widths (header : UdpTilePacketDecoded) :
    header.fields.map PackedField.width = udpTileHeaderWidths :=
  rfl

theorem pack_fields_length (header : UdpTilePacketDecoded) :
    (pack header.fields).length = udpTileHeaderMinSize := by
  rw [pack_length, fields_widths]
  rfl

theorem Sized.fields_fit (sized : header.Sized)
    (flags : header.flags ≤ udpTileFlagMask) :
    ∀ field ∈ header.fields, field.fits := by
  have code := header.tileSize.code_lt
  have mask : udpTileFlagMask = 3 := rfl
  intro field member
  simp only [fields, List.mem_cons, List.not_mem_nil, or_false] at member
  rcases member with rfl | rfl | rfl | rfl | rfl | rfl | rfl | rfl | rfl | rfl |
    rfl | rfl
  · exact sized.sessionId
  · exact sized.connectionToken
  · exact sized.contentEpoch
  · exact show header.flags < 256 by omega
  · exact show header.tileSize.code < 256 by omega
  · exact sized.tilePktId
  · exact sized.tileId
  · exact sized.tilePktCount
  · exact Nat.pow_pos (by decide)
  · exact sized.payloadSize
  · exact sized.tilePayloadSize
  · exact sized.tileGeneration

theorem flags_le {flags : Nat} (sized : udpTileHeaderSizeForFlags flags ≠ 0) :
    flags ≤ udpTileFlagMask := by
  by_contra above
  rw [udpTileHeaderSizeForFlags, if_pos (by omega)] at sized
  exact sized rfl

def base (header : UdpTilePacketDecoded) : UdpTilePacketDecoded :=
  { header with
    inputSequence := 0
    headerSize := udpTileHeaderSizeForFlags header.flags }

theorem decodeFields_values (header : UdpTilePacketDecoded) :
    decodeFields (header.fields.map PackedField.value) =
      some (header.base, 0) := by
  simp [fields, decodeFields, base]

theorem headerSize_eq (flags : header.flags ≤ udpTileFlagMask) :
    udpTileHeaderSizeForFlags header.flags =
      (pack header.fields ++ pack header.extension).length := by
  rw [List.length_append, pack_fields_length, udpTileHeaderSizeForFlags,
    if_neg (by omega), extension, hasInputSequence]
  by_cases flagged : header.flags &&& udpTileFlagInputSequence ≠ 0
  · rw [if_pos flagged, if_pos (by simpa using flagged), pack_length]
    rfl
  · rw [if_neg flagged, if_neg (by simpa using flagged)]
    rfl

theorem decodeExtension_base {header : UdpTilePacketDecoded}
    (sized : header.Sized) (normal : header.Normal)
    (first : header.hasInputSequence = true →
      header.tilePktId = 0 ∧ header.inputSequence ≠ 0) (payload : List UInt8) :
    decodeExtension header.base
        (pack header.fields ++ pack header.extension ++ payload) =
      some header := by
  have same : header.base.hasInputSequence = header.hasInputSequence := rfl
  have rebuilt : { header.base with inputSequence := header.inputSequence } =
      header := by
    rw [base, ← normal.headerSize]
  rw [decodeExtension, same]
  cases flagged : header.hasInputSequence with
  | false =>
      have whole : header.base = header := by
        rw [base, ← normal.headerSize, ← normal.inputSequence flagged]
      rw [if_neg Bool.false_ne_true, whole]
  | true =>
      obtain ⟨firstPacket, nonzero⟩ := first flagged
      have read : ofLittleEndian (((pack header.fields ++ pack header.extension ++
          payload).drop udpTileHeaderMinSize).take 8) =
            header.inputSequence := by
        rw [List.append_assoc, List.drop_left' header.pack_fields_length,
          extension, if_pos flagged, pack, pack, List.append_nil,
          List.take_left' (littleEndian_length _ _)]
        exact ofLittleEndian_littleEndian sized.inputSequence
      rw [if_pos rfl]
      dsimp only
      rw [read, if_neg (by
        rintro (late | zero)
        · exact late firstPacket
        · exact nonzero zero), rebuilt]

end UdpTilePacketDecoded

theorem udpTilePacketDecode_encodeHeader {header : UdpTilePacketDecoded}
    {destinationSize : Nat} {bytes payload : List UInt8}
    (sized : header.Sized) (normal : header.Normal)
    (encoded : udpTilePacketEncodeHeader destinationSize header = some bytes)
    (length : payload.length = header.payloadSize) :
    udpTilePacketDecode (bytes ++ payload) = some header := by
  simp only [udpTilePacketEncodeHeader] at encoded
  split_ifs at encoded with incomplete refused
  cases Option.some.inj encoded
  have nonzero : udpTileHeaderSizeForFlags header.flags ≠ 0 := fun zero =>
    refused (Or.inl zero)
  have first : header.hasInputSequence = true →
      header.tilePktId = 0 ∧ header.inputSequence ≠ 0 := by
    intro flagged
    constructor
    · by_contra late
      exact refused (Or.inr (Or.inr ⟨flagged, Or.inl late⟩))
    · intro zero
      exact refused (Or.inr (Or.inr ⟨flagged, Or.inr zero⟩))
  have flags := UdpTilePacketDecoded.flags_le nonzero
  have size := UdpTilePacketDecoded.headerSize_eq flags
  have baseLength := header.pack_fields_length
  have whole : header.complete = true := by simpa using incomplete
  have complete : header.base.complete = true := whole
  have read : unpack udpTileHeaderWidths
      (pack header.fields ++ pack header.extension ++ payload) =
        header.fields.map PackedField.value := by
    rw [List.append_assoc, ← header.fields_widths]
    exact unpack_pack_append _ (sized.fields_fit flags)
  have total : (pack header.fields ++ pack header.extension ++ payload).length =
      header.headerSize + header.payloadSize := by
    rw [List.length_append, ← size, length, normal.headerSize]
  have headerSize : header.base.headerSize = header.headerSize :=
    normal.headerSize.symm
  rw [udpTilePacketDecode, read, header.decodeFields_values,
    if_neg (by
      rw [List.length_append, List.length_append, baseLength]
      omega)]
  dsimp only
  rw [if_neg (by
      rw [headerSize, complete, total]
      rw [← normal.headerSize] at nonzero
      simp only [Bool.not_true, Bool.false_eq_true, or_false, ne_eq,
        not_true_eq_false]
      omega),
    UdpTilePacketDecoded.decodeExtension_base sized normal first]
  dsimp only
  rw [if_pos total.symm]

/-! ## What decoding checks -/

/-- A decoded header fits its packet, and its numbers their fields. -/
structure Decodes (packet : List UInt8) (header : UdpTilePacketDecoded) :
    Prop where
  size : header.headerSize + header.payloadSize = packet.length
  generation_pos : 0 < header.tileGeneration
  packetId_lt : header.tilePktId < header.tilePktCount
  packetCount_le : header.tilePktCount ≤ uint8Limit
  payload_pos : 0 < header.payloadSize

/-- What a packet goes through that is accepted. -/
theorem udpTilePacketDecode_eq_some {packet : List UInt8}
    {header : UdpTilePacketDecoded}
    (decoded : udpTilePacketDecode packet = some header) :
    ∃ base, decodeFields (unpack udpTileHeaderWidths packet) = some (base, 0) ∧
      udpTileHeaderMinSize ≤ packet.length ∧ base.headerSize ≠ 0 ∧
      base.headerSize ≤ packet.length ∧ base.complete = true ∧
      decodeExtension base packet = some header ∧
      header.headerSize + header.payloadSize = packet.length := by
  unfold udpTilePacketDecode at decoded
  split_ifs at decoded with short
  cases read : decodeFields (unpack udpTileHeaderWidths packet) with
  | none => simp [read] at decoded
  | some pair =>
      obtain ⟨base, reserved⟩ := pair
      simp only [read] at decoded
      split_ifs at decoded with refused
      simp only [not_or, Nat.not_lt, ne_eq, not_not, Bool.not_eq_true,
        Bool.not_eq_false'] at refused
      obtain ⟨size, enough, rfl, complete⟩ := refused
      cases extended : decodeExtension base packet with
      | none => simp [extended] at decoded
      | some full =>
          simp only [extended] at decoded
          split_ifs at decoded with total
          cases Option.some.inj decoded
          exact ⟨base, rfl, Nat.not_lt.mp short, size, enough, complete,
            extended, total⟩

theorem decodeExtension_eq_some {header extended : UdpTilePacketDecoded}
    {packet : List UInt8} (decoded : decodeExtension header packet =
      some extended) :
    ∃ inputSequence, extended = { header with inputSequence } ∧
      (header.hasInputSequence = true → header.tilePktId = 0 ∧
        inputSequence ≠ 0 ∧ inputSequence =
          ofLittleEndian ((packet.drop udpTileHeaderMinSize).take 8)) ∧
      (header.hasInputSequence = false →
        inputSequence = header.inputSequence) := by
  simp only [decodeExtension] at decoded
  split_ifs at decoded with flagged refused
  · rw [not_or, not_not] at refused
    exact ⟨_, (Option.some.inj decoded).symm,
      fun _ => ⟨refused.1, refused.2, rfl⟩, by simp [flagged]⟩
  · exact ⟨_, (Option.some.inj decoded).symm, by simp [flagged], fun _ => rfl⟩

theorem TileSize.code_of_ofCode {code : Nat} {size : TileSize}
    (found : ofCode code = some size) : size.code = code := by
  unfold ofCode at found
  split at found <;> cases found <;> rfl

/-- The fields of a decoded header are those of its packet. -/
theorem decodeFields_eq_some {values : List Nat}
    {header : UdpTilePacketDecoded}
    (fit : List.Forall₂ (fun width value => value < 256 ^ width)
      udpTileHeaderWidths values)
    (decoded : decodeFields values = some (header, 0)) :
    header.Sized ∧ header.inputSequence = 0 ∧
      header.headerSize = udpTileHeaderSizeForFlags header.flags ∧
      header.fields = List.zipWith PackedField.mk udpTileHeaderWidths values := by
  unfold decodeFields at decoded
  split at decoded
  next =>
      obtain ⟨size, found, same⟩ := Option.map_eq_some_iff.mp decoded
      cases same
      simp only [udpTileHeaderWidths, List.forall₂_cons] at fit
      obtain ⟨session, token, epoch, -, -, packetId, tileId, count, -, payload,
        tilePayload, generation, -⟩ := fit
      refine ⟨⟨session, token, epoch, packetId, tileId, count, payload,
        tilePayload, generation, Nat.two_pow_pos 64⟩, rfl, rfl, ?_⟩
      simp [UdpTilePacketDecoded.fields, udpTileHeaderWidths,
        TileSize.code_of_ofCode found]
  next => cases decoded

theorem decodes_of_decode {packet : List UInt8} {header : UdpTilePacketDecoded}
    (decoded : udpTilePacketDecode packet = some header) :
    Decodes packet header := by
  obtain ⟨base, read, -, -, -, complete, extended, size⟩ :=
    udpTilePacketDecode_eq_some decoded
  obtain ⟨sequence, rfl, -⟩ := decodeExtension_eq_some extended
  obtain ⟨-, -, -, -, packetId, payload, -, -, generation⟩ :=
    UdpTilePacketDecoded.complete_iff.mp complete
  have count := (decodeFields_eq_some (unpack_lt _ _) read).1.tilePktCount
  exact ⟨size, Nat.pos_of_ne_zero generation, packetId, Nat.le_of_lt_succ count,
    Nat.pos_of_ne_zero payload⟩

/-- A packet is accepted only as the encoding of its header, with the payload
behind it. -/
theorem encodeHeader_of_decode {packet : List UInt8}
    {header : UdpTilePacketDecoded}
    (decoded : udpTilePacketDecode packet = some header) :
    header.Sized ∧ header.Normal ∧ ∃ bytes payload,
      udpTilePacketEncodeHeader udpTileHeaderMaxSize header = some bytes ∧
        payload.length = header.payloadSize ∧ packet = bytes ++ payload := by
  obtain ⟨base, read, least, nonzero, enough, complete, extended, size⟩ :=
    udpTilePacketDecode_eq_some decoded
  obtain ⟨sized, unset, headerSize, fields⟩ :=
    decodeFields_eq_some (unpack_lt _ _) read
  obtain ⟨sequence, rfl, flagged, plain⟩ := decodeExtension_eq_some extended
  have flags : base.flags ≤ udpTileFlagMask :=
    UdpTilePacketDecoded.flags_le (headerSize ▸ nonzero)
  have packed : pack base.fields = packet.take udpTileHeaderMinSize := by
    rw [fields]
    exact pack_unpack least
  have extent : base.headerSize = udpTileHeaderMinSize +
      if base.hasInputSequence then 8 else 0 := by
    rw [headerSize, udpTileHeaderSizeForFlags, if_neg (Nat.not_lt.mpr flags)]
    simp [UdpTilePacketDecoded.hasInputSequence]
  have whole : pack base.fields ++ pack (UdpTilePacketDecoded.extension
      { base with inputSequence := sequence }) =
        packet.take base.headerSize := by
    have same : UdpTilePacketDecoded.hasInputSequence
        { base with inputSequence := sequence } = base.hasInputSequence := rfl
    rw [packed, UdpTilePacketDecoded.extension, same]
    dsimp only
    rw [extent]
    cases has : base.hasInputSequence with
    | false => simp [pack]
    | true =>
        rw [extent, has, if_pos rfl] at enough
        have eight : ((packet.drop udpTileHeaderMinSize).take 8).length = 8 :=
          List.length_take_of_le (by rw [List.length_drop]; omega)
        have read := littleEndian_ofLittleEndian
          ((packet.drop udpTileHeaderMinSize).take 8)
        rw [eight, ← (flagged has).2.2] at read
        rw [if_pos rfl, if_pos rfl, pack, pack, List.append_nil, read,
          List.take_add]
  refine ⟨{ sized with inputSequence := ?_ }, ⟨headerSize, ?_⟩,
    packet.take base.headerSize, packet.drop base.headerSize, ?_, ?_, ?_⟩
  · cases has : base.hasInputSequence with
    | false => exact (plain has).trans unset ▸ Nat.two_pow_pos 64
    | true =>
        rw [(flagged has).2.2]
        exact Nat.lt_of_lt_of_le (ofLittleEndian_lt _)
          (Nat.pow_le_pow_right (by decide) (List.length_take_le _ _))
  · intro has
    exact (plain has).trans unset
  · rw [udpTilePacketEncodeHeader, if_neg, if_neg]
    · rw [← whole]
      rfl
    · rintro (zero | short | ⟨has, late | zero⟩)
      · exact nonzero (headerSize.trans zero)
      · have large : base.headerSize ≤ udpTileHeaderMaxSize := by
          rw [extent]
          split <;> decide
        exact Nat.not_lt.mpr (headerSize ▸ large) short
      · exact late (flagged has).1
      · exact (flagged has).2.1 zero
    · rw [show UdpTilePacketDecoded.complete
        { base with inputSequence := sequence } = true from complete]
      decide
  · rw [List.length_drop]
    exact Nat.sub_eq_of_eq_add' size.symm
  · exact (List.take_append_drop _ _).symm

/-- The decoder accepts the encodings of normal headers with their payload behind
them, and nothing else. -/
theorem udpTilePacketDecode_exact (packet : List UInt8)
    (header : UdpTilePacketDecoded) :
    udpTilePacketDecode packet = some header ↔
      header.Sized ∧ header.Normal ∧ ∃ bytes payload,
        udpTilePacketEncodeHeader udpTileHeaderMaxSize header = some bytes ∧
          payload.length = header.payloadSize ∧ packet = bytes ++ payload := by
  constructor
  · exact encodeHeader_of_decode
  · rintro ⟨sized, normal, bytes, payload, encoded, length, rfl⟩
    exact udpTilePacketDecode_encodeHeader sized normal encoded length

theorem fragment_inside {header : UdpTilePacketDecoded}
    {packetSize udpPayloadTarget totalPayloadSize : Nat}
    (valid : udpTileFragmentLayoutValid header packetSize udpPayloadTarget
      totalPayloadSize = true) :
    header.tilePktId * udpPayloadTarget + header.payloadSize ≤
      totalPayloadSize := by
  simp only [udpTileFragmentLayoutValid, Bool.and_eq_true,
    decide_eq_true_eq] at valid
  obtain ⟨⟨⟨⟨⟨⟨⟨⟨positive, _⟩, _⟩, _⟩, _⟩, _⟩, _⟩, within⟩, size⟩ := valid
  have below : header.tilePktId * udpPayloadTarget < totalPayloadSize := by
    have bound := (Nat.lt_div_iff_mul_lt (Nat.pos_of_ne_zero positive)).mp within
    omega
  omega

end WayDisplay.Common
