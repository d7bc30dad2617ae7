import Mathlib.Algebra.Order.Ring.Nat
import Mathlib.Data.List.Basic

/-!
Little-endian wire encoding of packed protocol structures (`wd_protocol.h`).
-/

namespace WayDisplay.Common

def littleEndian : Nat → Nat → List UInt8
  | 0, _ => []
  | width + 1, value => UInt8.ofNat value :: littleEndian width (value / 256)

@[simp]
theorem littleEndian_length (width value : Nat) :
    (littleEndian width value).length = width := by
  induction width generalizing value with
  | zero => rfl
  | succ width ih => simp [littleEndian, ih]

def ofLittleEndian : List UInt8 → Nat
  | [] => 0
  | byte :: rest => byte.toNat + 256 * ofLittleEndian rest

theorem ofLittleEndian_littleEndian {width value : Nat}
    (fits : value < 256 ^ width) :
    ofLittleEndian (littleEndian width value) = value := by
  induction width generalizing value with
  | zero =>
      rw [Nat.pow_zero, Nat.lt_one_iff] at fits
      rw [fits, littleEndian, ofLittleEndian]
  | succ width ih =>
      have rest : value / 256 < 256 ^ width := by
        rw [Nat.div_lt_iff_lt_mul (by decide), ← Nat.pow_succ]
        exact fits
      rw [littleEndian, ofLittleEndian, ih rest, UInt8.toNat_ofNat']
      exact Nat.mod_add_div value 256

theorem littleEndian_ofLittleEndian (bytes : List UInt8) :
    littleEndian bytes.length (ofLittleEndian bytes) = bytes := by
  induction bytes with
  | nil => rfl
  | cons byte rest ih =>
      have small := byte.toNat_lt
      rw [ofLittleEndian, List.length_cons, littleEndian, Nat.add_comm,
        Nat.mul_add_div (by decide), Nat.div_eq_of_lt small, Nat.add_zero, ih]
      congr 1
      apply UInt8.toNat_inj.mp
      rw [UInt8.toNat_ofNat', Nat.mul_add_mod, Nat.mod_eq_of_lt small]

theorem ofLittleEndian_lt (bytes : List UInt8) :
    ofLittleEndian bytes < 256 ^ bytes.length := by
  induction bytes with
  | nil => exact Nat.one_pos
  | cons byte rest ih =>
      have small := byte.toNat_lt
      rw [ofLittleEndian, List.length_cons, Nat.pow_succ]
      omega

/-! ## Packed structures -/

structure PackedField where
  width : Nat
  value : Nat

def PackedField.fits (field : PackedField) : Prop := field.value < 256 ^ field.width

def pack : List PackedField → List UInt8
  | [] => []
  | field :: rest => littleEndian field.width field.value ++ pack rest

def unpack : List Nat → List UInt8 → List Nat
  | [], _ => []
  | width :: rest, bytes =>
      ofLittleEndian (bytes.take width) :: unpack rest (bytes.drop width)

theorem pack_length (fields : List PackedField) :
    (pack fields).length = (fields.map PackedField.width).sum := by
  induction fields with
  | nil => rfl
  | cons field rest ih => simp [pack, ih]

theorem unpack_pack_append {fields : List PackedField} (bytes : List UInt8)
    (fit : ∀ field ∈ fields, field.fits) :
    unpack (fields.map PackedField.width) (pack fields ++ bytes) =
      fields.map PackedField.value := by
  induction fields with
  | nil => rfl
  | cons field rest ih =>
      have later := ih fun other member => fit other (List.mem_cons_of_mem _ member)
      have own := ofLittleEndian_littleEndian (fit field List.mem_cons_self)
      rw [List.map_cons, List.map_cons, unpack, pack, List.append_assoc,
        List.take_left' (littleEndian_length _ _),
        List.drop_left' (littleEndian_length _ _), own, later]

theorem pack_unpack {widths : List Nat} {bytes : List UInt8}
    (enough : widths.sum ≤ bytes.length) :
    pack (List.zipWith PackedField.mk widths (unpack widths bytes)) =
      bytes.take widths.sum := by
  induction widths generalizing bytes with
  | nil => simp [unpack, pack]
  | cons width rest ih =>
      rw [List.sum_cons] at enough ⊢
      have first : (bytes.take width).length = width :=
        List.length_take_of_le (by omega)
      have own := littleEndian_ofLittleEndian (bytes.take width)
      rw [first] at own
      rw [unpack, List.zipWith_cons_cons, pack, own, List.take_add,
        ih (by rw [List.length_drop]; omega)]

theorem unpack_lt (widths : List Nat) (bytes : List UInt8) :
    List.Forall₂ (fun width value => value < 256 ^ width) widths
      (unpack widths bytes) := by
  induction widths generalizing bytes with
  | nil => exact .nil
  | cons width rest ih =>
      refine .cons ?_ (ih (bytes.drop width))
      refine Nat.lt_of_lt_of_le (ofLittleEndian_lt _) ?_
      exact Nat.pow_le_pow_right (by decide) (List.length_take_le _ _)

/-! ## TCP -/

def tcpMagic : Nat := 0x54434457

def protocolVersion : Nat := 2

def tcpHeader (messageType payloadSize : Nat) : List UInt8 :=
  littleEndian 4 tcpMagic ++ littleEndian 2 protocolVersion ++
    littleEndian 2 messageType ++ littleEndian 4 payloadSize

@[simp]
theorem tcpHeader_length (messageType payloadSize : Nat) :
    (tcpHeader messageType payloadSize).length = 12 := by
  simp [tcpHeader]

end WayDisplay.Common
