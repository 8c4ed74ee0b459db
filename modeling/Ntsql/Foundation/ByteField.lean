import Ntsql.Foundation.MachineInteger

/-! # Fields of byte arrays

Fixed-width byte arrays, slices written into them and read back, and unsigned
integers laid out most significant byte first. Two writes to disjoint ranges do
not disturb each other. -/

namespace Ntsql

/-- `[u8; width]`. -/
abbrev Bytes (width : Nat) := Vector UInt8 width

/-! ## Big-endian integers -/

/-- The `width` low bytes of `value`, most significant first. -/
def bigEndian : Nat → Nat → List UInt8
  | 0, _ => []
  | width + 1, value => bigEndian width (value / 256) ++ [UInt8.ofNat value]

def fromBigEndian (bytes : List UInt8) : Nat :=
  bytes.foldl (fun value byte => value * 256 + byte.toNat) 0

@[simp] theorem length_bigEndian (width value : Nat) :
    (bigEndian width value).length = width := by
  induction width generalizing value with
  | zero => rfl
  | succ width induction => simp [bigEndian, induction]

theorem fromBigEndian_bigEndian (width value : Nat) :
    fromBigEndian (bigEndian width value) = value % 256 ^ width := by
  induction width generalizing value with
  | zero => simp [bigEndian, fromBigEndian, Nat.mod_one]
  | succ width induction =>
      have front := induction (value / 256)
      simp only [fromBigEndian] at front
      have low : (UInt8.ofNat value).toNat = value % 256 := by simp
      simp only [bigEndian, fromBigEndian, List.foldl_append, List.foldl_cons,
        List.foldl_nil, front, low]
      rw [Nat.pow_succ', Nat.mod_mul]
      omega

theorem bigEndian_zero (width : Nat) : bigEndian width 0 = List.replicate width 0 := by
  induction width with
  | zero => rfl
  | succ width induction =>
      have zero : UInt8.ofNat 0 = 0 := rfl
      rw [bigEndian, Nat.zero_div, induction, zero, ← List.replicate_succ']

/-- The integer of `2 ^ (8 * width)` values a byte string denotes. -/
def uintOf (bits : Nat) (bytes : List UInt8) : Fin (2 ^ bits) :=
  ⟨fromBigEndian bytes % 2 ^ bits, Nat.mod_lt _ (Nat.two_pow_pos bits)⟩

theorem uintOf_bigEndian {bits width : Nat} (matching : bits = 8 * width)
    (value : Fin (2 ^ bits)) :
    uintOf bits (bigEndian width value.val) = value := by
  have power : 256 ^ width = 2 ^ bits := by
    rw [matching, Nat.pow_mul]
  apply Fin.ext
  change fromBigEndian (bigEndian width value.val) % 2 ^ bits = value.val
  rw [fromBigEndian_bigEndian, power, Nat.mod_mod, Nat.mod_eq_of_lt value.isLt]

namespace Bytes

variable {width : Nat}

def zero (width : Nat) : Bytes width := Vector.replicate width 0

def singleton (byte : UInt8) : Bytes 1 := #v[byte]

/-- `bytes[start..start + length]`. -/
def slice (bytes : Bytes width) (start length : Nat) : List UInt8 :=
  (bytes.toList.drop start).take length

/-- `bytes[start..start + source.len()].copy_from_slice(source)`. -/
def copyFromSlice (bytes : Bytes width) (start : Nat) (source : List UInt8) :
    Bytes width :=
  Vector.ofFn fun index =>
    if start ≤ index.val then (source[index.val - start]?).getD
      bytes[index] else bytes[index]

/-- `bytes[offset]`. -/
def byteAt (bytes : Bytes width) (offset : Nat) : UInt8 := (bytes.slice offset 1).headD 0

/-- `bytes.iter().any(|byte| *byte != 0)` of a slice. -/
def anyNonzero (bytes : List UInt8) : Bool := bytes.any fun byte => byte != 0

/-- The array a reader fills from the front of `source`. -/
def ofList (width : Nat) (source : List UInt8) : Bytes width :=
  Vector.ofFn fun index => (source[index.val]?).getD 0

theorem toList_ofList {source : List UInt8} (length : source.length = width) :
    (ofList width source).toList = source := by
  apply List.ext_getElem
  · simp [length]
  · intro index isLt inSource
    simp [ofList, inSource]

theorem ofList_toList (bytes : Bytes width) : ofList width bytes.toList = bytes := by
  apply Vector.ext
  intro index isLt
  simp [ofList]

/-! ## Slices -/

theorem length_slice (bytes : Bytes width) (start length : Nat) :
    (bytes.slice start length).length = min length (width - start) := by
  simp [slice]

theorem slice_getElem? (bytes : Bytes width) (start length index : Nat) :
    (bytes.slice start length)[index]? =
      if index < length then bytes[start + index]? else none := by
  simp [slice, List.getElem?_take, List.getElem?_drop]

theorem copyFromSlice_getElem? (bytes : Bytes width) (start : Nat) (source : List UInt8)
    (index : Nat) (isLt : index < width) :
    (bytes.copyFromSlice start source)[index]? =
      if start ≤ index ∧ index < start + source.length then source[index - start]?
      else bytes[index]? := by
  by_cases after : start ≤ index
  · by_cases within : index < start + source.length
    · have inSource : index - start < source.length := by omega
      simp [copyFromSlice, after, within, isLt, inSource]
    · have outside : source.length ≤ index - start := by omega
      simp [copyFromSlice, after, within, isLt, outside]
  · simp [copyFromSlice, after, isLt]

@[simp] theorem slice_copyFromSlice_self {bytes : Bytes width} {start length : Nat}
    {source : List UInt8} (fits : start + length ≤ width)
    (exact : source.length = length) :
    (bytes.copyFromSlice start source).slice start length = source := by
  apply List.ext_getElem?
  intro index
  rw [slice_getElem?]
  by_cases within : index < length
  · have range : start ≤ start + index ∧ start + index < start + source.length := by omega
    rw [if_pos within,
      copyFromSlice_getElem? bytes start source (start + index) (by omega), if_pos range,
      Nat.add_sub_cancel_left]
  · rw [if_neg within, List.getElem?_eq_none (by omega)]

theorem slice_copyFromSlice_of_disjoint {bytes : Bytes width} {start offset length : Nat}
    {source : List UInt8}
    (disjoint : offset + length ≤ start ∨ start + source.length ≤ offset) :
    (bytes.copyFromSlice start source).slice offset length =
      bytes.slice offset length := by
  apply List.ext_getElem?
  intro index
  rw [slice_getElem?, slice_getElem?]
  by_cases within : index < length
  · rw [if_pos within, if_pos within]
    by_cases isLt : offset + index < width
    · have outside : ¬(start ≤ offset + index ∧ offset + index < start + source.length) :=
        by omega
      rw [copyFromSlice_getElem? bytes start source (offset + index) isLt, if_neg outside]
    · rw [Vector.getElem?_eq_none (by omega), Vector.getElem?_eq_none (by omega)]
  · rw [if_neg within, if_neg within]

theorem slice_ofList_append {prefixWidth : Nat} (bytes : Bytes width) (rest : List UInt8)
    {start length : Nat} (inPrefix : start + length ≤ prefixWidth)
    (fits : prefixWidth ≤ width) :
    (ofList prefixWidth (bytes.toList ++ rest)).slice start length =
      bytes.slice start length := by
  apply List.ext_getElem?
  intro index
  rw [slice_getElem?, slice_getElem?]
  by_cases within : index < length
  · have isLt : start + index < prefixWidth := by omega
    have inBytes : start + index < width := by omega
    simp [within, ofList, isLt, inBytes, List.getElem?_append]
  · simp [within]

theorem slice_ofList_take {prefixWidth cut : Nat} (bytes : Bytes width)
    {start length : Nat} (inPrefix : start + length ≤ prefixWidth)
    (kept : prefixWidth ≤ cut) (fits : cut ≤ width) :
    (ofList prefixWidth (bytes.toList.take cut)).slice start length =
      bytes.slice start length := by
  apply List.ext_getElem?
  intro index
  rw [slice_getElem?, slice_getElem?]
  by_cases within : index < length
  · have isLt : start + index < prefixWidth := by omega
    have inCut : start + index < cut := by omega
    have inBytes : start + index < width := by omega
    simp [within, ofList, isLt, inCut, inBytes, List.getElem?_take]
  · simp [within]

theorem ofList_append (bytes : Bytes width) (rest : List UInt8) :
    ofList width (bytes.toList ++ rest) = bytes := by
  apply Vector.ext
  intro index isLt
  simp [ofList, List.getElem?_append]

theorem slice_zero {start length : Nat} (fits : start + length ≤ width) :
    (zero width).slice start length = List.replicate length 0 := by
  apply List.ext_getElem?
  intro index
  rw [slice_getElem?]
  by_cases within : index < length
  · have isLt : start + index < width := by omega
    simp [zero, within, isLt]
  · simp [within]

theorem slice_copyFromSlice_slice {otherWidth : Nat} {bytes : Bytes width}
    {other : Bytes otherWidth} {count offset length : Nat}
    (inside : offset + length ≤ count) (fits : count ≤ width)
    (copied : count ≤ otherWidth) :
    (bytes.copyFromSlice 0 (other.slice 0 count)).slice offset length =
      other.slice offset length := by
  have total : (other.slice 0 count).length = count := by
    rw [length_slice]
    omega
  apply List.ext_getElem?
  intro index
  rw [slice_getElem?, slice_getElem?]
  by_cases within : index < length
  · have range : 0 ≤ offset + index ∧ offset + index < 0 + (other.slice 0 count).length :=
      by omega
    rw [if_pos within, if_pos within, copyFromSlice_getElem? _ _ _ _ (by omega),
      if_pos range, slice_getElem?, if_pos (by omega), Nat.sub_zero, Nat.zero_add]
  · rw [if_neg within, if_neg within]

theorem slice_add (bytes : Bytes width) (start first second : Nat) :
    bytes.slice start (first + second) =
      bytes.slice start first ++ bytes.slice (start + first) second := by
  simp only [slice, List.take_add, List.drop_drop]

theorem copyFromSlice_congr {left right : Bytes width} {start : Nat} {source : List UInt8}
    (front : left.slice 0 start = right.slice 0 start)
    (toEnd : start + source.length = width) :
    left.copyFromSlice start source = right.copyFromSlice start source := by
  apply Vector.ext
  intro index isLt
  apply Option.some.inj
  rw [← Vector.getElem?_eq_getElem, ← Vector.getElem?_eq_getElem,
    copyFromSlice_getElem? _ _ _ _ isLt, copyFromSlice_getElem? _ _ _ _ isLt]
  by_cases after : start ≤ index
  · rw [if_pos ⟨after, by omega⟩, if_pos ⟨after, by omega⟩]
  · have same := congrArg (fun slice => slice[index]?) front
    simp only [slice_getElem?, if_pos (Nat.not_le.mp after), Nat.zero_add] at same
    rw [if_neg (by omega), if_neg (by omega), same]

@[simp] theorem anyNonzero_replicate (length : Nat) :
    anyNonzero (List.replicate length 0) = false := by
  simp [anyNonzero]

/-! ## Integer fields -/

def readU16 (bytes : Bytes width) (offset : Nat) : U16 := uintOf 16 (bytes.slice offset 2)

def readU32 (bytes : Bytes width) (offset : Nat) : Fin (2 ^ 32) :=
  uintOf 32 (bytes.slice offset 4)

def readU64 (bytes : Bytes width) (offset : Nat) : U64 := uintOf 64 (bytes.slice offset 8)

def readU128 (bytes : Bytes width) (offset : Nat) : U128 :=
  uintOf 128 (bytes.slice offset 16)

def writeU16 (bytes : Bytes width) (offset : Nat) (value : U16) : Bytes width :=
  bytes.copyFromSlice offset (bigEndian 2 value.val)

def writeU32 (bytes : Bytes width) (offset : Nat) (value : Fin (2 ^ 32)) : Bytes width :=
  bytes.copyFromSlice offset (bigEndian 4 value.val)

def writeU64 (bytes : Bytes width) (offset : Nat) (value : U64) : Bytes width :=
  bytes.copyFromSlice offset (bigEndian 8 value.val)

def writeU128 (bytes : Bytes width) (offset : Nat) (value : U128) : Bytes width :=
  bytes.copyFromSlice offset (bigEndian 16 value.val)

end Bytes

end Ntsql
