import Ntsql.Foundation.CheckedSlice
import Ntsql.Foundation.SensitiveFold

/-! # Layouts that cover a byte array

A byte array is determined by the fields of a layout that covers it, and an
integer field by the integer. A single byte is replaced in one field only. -/

namespace Ntsql

namespace Bytes

open Checked SensitiveFold

variable {width : Nat}

/-! ## Fields -/

theorem toList_length (bytes : Bytes width) : bytes.toList.length = width := by simp

theorem eq_of_agree (lengths : List Nat) (covers : lengths.sum = width)
    {left right : Bytes width}
    (agree : Agree left.toList right.toList 0 lengths) : left = right := by
  have leftLength : left.toList.length = lengths.sum := by rw [toList_length, covers]
  have rightLength : right.toList.length = lengths.sum := by rw [toList_length, covers]
  exact Vector.toList_inj.mp ((eq_iff_agree lengths leftLength rightLength).mpr agree)

theorem slice_eq_of_agree (lengths : List Nat) {start : Nat} {left right : Bytes width}
    (agree : Agree left.toList right.toList start lengths) :
    left.slice start lengths.sum = right.slice start lengths.sum := by
  induction lengths generalizing start with
  | nil => rfl
  | cons length lengths induction =>
      rw [List.sum_cons, slice_add, slice_add, ← field_toList left, ← field_toList right,
        agree.1, induction agree.2]

theorem slice_eq_bigEndian {bits length offset : Nat} {bytes : Bytes width}
    (matching : bits = 8 * length) (fits : offset + length ≤ width) :
    bytes.slice offset length =
      bigEndian length (uintOf bits (bytes.slice offset length)).val := by
  have total : offset + length ≤ bytes.toList.length := by rw [toList_length]; exact fits
  exact (field_eq_bigEndian_iff matching total _).mpr rfl

theorem slice_eq_of_uintOf_eq {bits length offset : Nat} {left right : Bytes width}
    (matching : bits = 8 * length) (fits : offset + length ≤ width)
    (same : uintOf bits (left.slice offset length) = uintOf bits
      (right.slice offset length)) :
    left.slice offset length = right.slice offset length := by
  rw [slice_eq_bigEndian matching fits, same, ← slice_eq_bigEndian matching fits]

theorem slice_eq_replicate {bytes : Bytes width} {start length : Nat}
    (fits : start + length ≤ width)
    (zero : anyNonzero (bytes.slice start length) = false) :
    bytes.slice start length = List.replicate length 0 := by
  rw [List.eq_replicate_iff]
  constructor
  · rw [length_slice]
    omega
  · intro byte among
    simpa [anyNonzero] using (List.any_eq_false.mp zero) byte among

theorem slice_one {bytes : Bytes width} {offset : Nat} (fits : offset < width) :
    bytes.slice offset 1 = [bytes.byteAt offset] := by
  have length : (bytes.slice offset 1).length = 1 := by
    rw [length_slice]
    omega
  rcases List.length_eq_one_iff.mp length with ⟨byte, only⟩
  rw [byteAt, only]
  rfl

theorem byteAt_copyFromSlice_self {bytes : Bytes width} {offset : Nat} {byte : UInt8}
    (fits : offset < width) :
      (bytes.copyFromSlice offset [byte]).byteAt offset = byte := by
  have written : (bytes.copyFromSlice offset [byte]).slice offset 1 = [byte] :=
    slice_copyFromSlice_self (by omega) (List.length_singleton)
  rw [byteAt, written, List.headD_cons]

theorem slice_eq_replicate_iff {bytes : Bytes width} {start length : Nat}
    (fits : start + length ≤ width) :
    bytes.slice start length = List.replicate length 0 ↔
      ∀ offset ∈ List.range' start length, bytes.byteAt offset = 0 := by
  induction length generalizing start with
  | zero => simp [slice]
  | succ length induction =>
      have split := slice_add bytes start 1 length
      rw [slice_one (by omega), List.singleton_append, Nat.add_comm 1 length] at split
      rw [split, List.replicate_succ, List.cons_eq_cons, induction (by omega),
        List.range'_succ, List.forall_mem_cons]

/-! ## One replaced byte -/

def replaceByte (bytes : Bytes width) (index : Fin width) (byte : UInt8) : Bytes width :=
  bytes.set index.val byte index.isLt

theorem slice_replaceByte_of_outside {bytes : Bytes width} {index : Fin width}
    {start length : Nat} {byte : UInt8}
    (outside : index.val < start ∨ start + length ≤ index.val) :
    (bytes.replaceByte index byte).slice start length = bytes.slice start length := by
  apply List.ext_getElem?
  intro other
  rw [slice_getElem?, slice_getElem?, replaceByte]
  by_cases within : other < length
  · rw [if_pos within, if_pos within, Vector.getElem?_set_ne index.isLt (by omega)]
  · rw [if_neg within, if_neg within]

theorem slice_replaceByte_differAt {bytes : Bytes width} {index : Fin width}
    {start length : Nat} {byte : UInt8} (replaced : byte ≠ bytes.get index)
    (inside : start ≤ index.val ∧ index.val < start + length) :
    DifferAt (index.val - start) ((bytes.replaceByte index byte).slice start length)
      (bytes.slice start length) where
  length := by rw [length_slice, length_slice]
  differs := by
    have position : start + (index.val - start) = index.val := by omega
    rw [slice_getElem?, slice_getElem?, if_pos (by omega), if_pos (by omega), position,
      replaceByte, Vector.getElem?_set_self index.isLt,
      Vector.getElem?_eq_getElem index.isLt]
    exact fun same => replaced (Option.some.inj same)
  elsewhere other apart := by
    rw [slice_getElem?, slice_getElem?, replaceByte]
    by_cases within : other < length
    · rw [if_pos within, if_pos within, Vector.getElem?_set_ne index.isLt (by omega)]
    · rw [if_neg within, if_neg within]

end Bytes

end Ntsql
