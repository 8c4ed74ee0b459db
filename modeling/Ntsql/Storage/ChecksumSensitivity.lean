import Ntsql.Foundation.ByteLayout
import Ntsql.Storage.Frame

/-! # What the checksum notices

Mixing a byte into the state of the checksum can be undone, so a checksum tells
apart any two byte strings that differ in one byte. A byte array that ends with
the checksum of what comes before is sealed; no two sealed arrays differ in one
byte. -/

namespace Ntsql.Storage

open Bytes Checked SensitiveFold

/-! ## Mixing -/

def mixByte (state : UInt64) (byte : UInt8) : UInt64 :=
  rotateLeft ((state ^^^ byte.toUInt64) * CHECKSUM_MULTIPLIER) 7 ^^^ CHECKSUM_XOR

def CHECKSUM_MULTIPLIER_INVERSE : UInt64 := 0x4b7e576b_236ddf85

theorem rotateLeft_rest (value : UInt64) :
    rotateLeft (rotateLeft value 7) 57 = value := by
  apply UInt64.toBitVec_inj.mp
  apply BitVec.eq_of_getLsbD_eq
  intro index isLt
  have beyond (offset : Nat) (far : 64 ≤ offset) :
      value.toBitVec.getLsbD offset = false :=
    BitVec.getLsbD_of_ge _ _ far
  by_cases low : index < 57
  · have inWord : 7 + index < 64 := by omega
    simp only [rotateLeft, UInt64.toBitVec_or, UInt64.toBitVec_shiftLeft,
      UInt64.toBitVec_shiftRight]
    simp [low, inWord, beyond (57 + (7 + index)) (by omega),
      BitVec.getLsbD_eq_getElem isLt]
  · have position : 57 + (index - 57) = index := by omega
    have wrapped : index - 57 < 7 := by omega
    simp [rotateLeft, low, isLt, wrapped, position, beyond (57 + (7 + index)) (by omega)]

theorem rotateLeft_injective : Function.Injective fun value => rotateLeft value 7 :=
  Function.LeftInverse.injective (g := fun value => rotateLeft value 57) rotateLeft_rest

theorem multiplier_inverse (value : UInt64) :
    value * CHECKSUM_MULTIPLIER * CHECKSUM_MULTIPLIER_INVERSE = value := by
  have inverse : CHECKSUM_MULTIPLIER * CHECKSUM_MULTIPLIER_INVERSE = 1 := by decide
  rw [UInt64.mul_assoc, inverse, UInt64.mul_one]

theorem multiply_injective :
    Function.Injective fun value : UInt64 => value * CHECKSUM_MULTIPLIER :=
  Function.LeftInverse.injective (g := fun value => value * CHECKSUM_MULTIPLIER_INVERSE)
    multiplier_inverse

theorem mixByte_eq_iff {left right : UInt64} {first second : UInt8} :
    mixByte left first = mixByte right second ↔
      left ^^^ first.toUInt64 = right ^^^ second.toUInt64 := by
  rw [mixByte, mixByte, UInt64.xor_left_inj]
  constructor
  · intro same
    exact multiply_injective (rotateLeft_injective same)
  · intro same
    rw [same]

theorem mixByte_keeps_states (byte : UInt8) :
    Function.Injective fun state => mixByte state byte := by
  intro left right same
  exact (UInt64.xor_left_inj _).mp (mixByte_eq_iff.mp same)

theorem mixByte_tells_bytes (state : UInt64) : Function.Injective (mixByte state) := by
  intro left right same
  have widened := (UInt64.xor_right_inj _).mp (mixByte_eq_iff.mp same)
  apply UInt8.toNat.inj
  rw [← UInt8.toNat_toUInt64, ← UInt8.toNat_toUInt64, widened]

/-! ## The checksum -/

theorem checksumV1_eq (bytes : List UInt8) :
    checksumV1 bytes =
      ⟨(bytes.foldl mixByte CHECKSUM_SEED ^^^ (· + 1)^[bytes.length] 0).toNat,
        UInt64.toNat_lt _⟩ := by
  have split (start : UInt64 × UInt64) :
      bytes.foldl (fun (state : UInt64 × UInt64) byte =>
      let mixed := (state.1 ^^^ byte.toUInt64) * CHECKSUM_MULTIPLIER
      (rotateLeft mixed 7 ^^^ CHECKSUM_XOR, state.2 + 1)) start =
        (bytes.foldl mixByte start.1, (· + 1)^[bytes.length] start.2) := by
    induction bytes generalizing start with
    | nil => rfl
    | cons byte bytes induction => exact induction _
  rw [checksumV1]
  simp only [split]

/-- Byte strings that differ in one byte have different checksums. -/
theorem checksumV1_ne {index : Nat} {left right : List UInt8}
    (differ : DifferAt index left right) :
    checksumV1 left ≠ checksumV1 right := by
  rw [checksumV1_eq, checksumV1_eq, differ.length]
  intro same
  have folded := UInt64.toNat.inj (congrArg Fin.val same)
  exact foldl_ne mixByte_keeps_states mixByte_tells_bytes differ CHECKSUM_SEED
    ((UInt64.xor_left_inj _).mp folded)

/-! ## Sealed arrays -/

section Sealed

variable {width : Nat}

/-- The array ends with the checksum of what comes before. -/
def Sealed (bytes : Bytes width) (offset : Nat) : Prop :=
  bytes.readU64 offset = checksumV1 (bytes.slice 0 offset)

/-- No byte of a sealed array can be replaced: the checksum protects those
before it, and a replaced checksum is another one. -/
theorem Sealed.not_replaceByte {bytes : Bytes width} {offset : Nat} {index : Fin width}
    {byte : UInt8} (isSealed : Sealed bytes offset) (total : offset + 8 = width)
    (replaced : byte ≠ bytes.get index) :
      ¬Sealed (bytes.replaceByte index byte) offset := by
  intro resealed
  rw [Sealed] at isSealed resealed
  have isLt := index.isLt
  by_cases protects : index.val < offset
  · have kept : (bytes.replaceByte index byte).readU64 offset = bytes.readU64 offset := by
      rw [readU64, slice_replaceByte_of_outside (.inl protects), readU64]
    rw [kept, isSealed] at resealed
    exact checksumV1_ne (slice_replaceByte_differAt replaced ⟨Nat.zero_le _, by omega⟩)
      resealed.symm
  · have kept : (bytes.replaceByte index byte).slice 0 offset = bytes.slice 0 offset :=
      slice_replaceByte_of_outside (.inr (by omega))
    rw [kept, ← isSealed] at resealed
    have same := slice_eq_of_uintOf_eq (rfl : 64 = 8 * 8) (Nat.le_of_eq total) resealed
    have inside : offset ≤ index.val ∧ index.val < offset + 8 :=
      ⟨Nat.le_of_not_lt protects, by omega⟩
    have differ := slice_replaceByte_differAt replaced inside
    exact differ.differs (by rw [same])

theorem Sealed.eq_of_agree {left right : Bytes width} {offset : Nat}
    (leftSealed : Sealed left offset) (rightSealed : Sealed right offset)
    (lengths : List Nat) (covers : lengths.sum = offset) (total : offset + 8 = width)
    (agree : Agree left.toList right.toList 0 lengths) :
    left = right := by
  subst covers
  have front := slice_eq_of_agree lengths agree
  rw [Sealed] at leftSealed rightSealed
  have checksums : left.readU64 lengths.sum = right.readU64 lengths.sum := by
    rw [leftSealed, rightSealed, front]
  have last := slice_eq_of_uintOf_eq (rfl : 64 = 8 * 8) (Nat.le_of_eq total) checksums
  apply Bytes.eq_of_agree [lengths.sum, 8] (by simpa using total)
  refine ⟨front, ?_, trivial⟩
  rw [Nat.zero_add]
  exact last

end Sealed

end Ntsql.Storage
