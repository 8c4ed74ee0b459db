import Ntsql.Foundation.Fallible
import Ntsql.Foundation.ByteField
import Mathlib.Tactic.Ring

/-! # Reads that may panic

Byte strings are read through slices with checked bounds, and offsets are
computed with host-sized integers that must not overflow. Leaving either is a
panic, which is an outcome apart from success and from an error. -/

namespace Ntsql

/-- A computation that succeeds, fails with an error, or panics (`none`). -/
abbrev Checked (ε α : Type) := ExceptT ε Option α

/-- A byte string a program can hold: its length is a `usize`. -/
structure Blob (usizeMax : Nat) where
  bytes : List UInt8
  length_le : bytes.length ≤ usizeMax
deriving DecidableEq

namespace Checked

variable {ε α β : Type}

def panics : Checked ε α := ExceptT.mk none

def ofResult (result : Except ε α) : Checked ε α := ExceptT.mk (some result)

/-- The computation succeeds with a value. -/
def Yields (action : Checked ε α) (value : α) : Prop := action.run = some (.ok value)

/-- The computation does not panic. -/
def Total (action : Checked ε α) : Prop := action.run ≠ none

theorem yields_bind_iff {action : Checked ε α} {next : α → Checked ε β} {value : β} :
    Yields (action >>= next) value ↔
      ∃ middle, Yields action middle ∧ Yields (next middle) value := by
  simp only [Yields, ExceptT.run_bind]
  cases action.run with
  | none => simp
  | some result => cases result <;> simp [pure]

theorem total_bind {action : Checked ε α} {next : α → Checked ε β} (first : Total action)
    (rest : ∀ middle, Yields action middle → Total (next middle)) :
      Total (action >>= next) := by
  simp only [Total, Yields, ExceptT.run_bind] at *
  cases result : action.run with
  | none => exact absurd result first
  | some outcome =>
      cases outcome with
      | error error => simp [pure]
      | ok value => exact rest value result

@[simp] theorem yields_pure_iff {value other : α} :
    Yields (pure value : Checked ε α) other ↔ value = other := by
  simp [Yields, pure, ExceptT.pure, ExceptT.mk, ExceptT.run]

theorem total_pure (value : α) : Total (pure value : Checked ε α) := by
  simp [Total, pure, ExceptT.pure, ExceptT.mk, ExceptT.run]

@[simp] theorem yields_ofResult_iff {result : Except ε α} {value : α} :
    Yields (ofResult result) value ↔ result = .ok value := by
  simp [Yields, ofResult, ExceptT.mk, ExceptT.run]

theorem total_ofResult (result : Except ε α) : Total (ofResult result) := by
  simp [Total, ofResult, ExceptT.mk, ExceptT.run]

/-- Return an error when a condition holds. -/
def refuseIf (condition : Prop) [Decidable condition] (error : ε) : Checked ε Unit :=
  ofResult (rejectIf condition error)

@[simp] theorem yields_refuseIf_iff {condition : Prop} [Decidable condition] {error : ε}
    {value : Unit} : Yields (refuseIf condition error) value ↔ ¬condition := by
  simp [refuseIf]

theorem total_refuseIf (condition : Prop) [Decidable condition] (error : ε) :
    Total (refuseIf condition error) := total_ofResult _

@[simp] theorem not_yields_panics (value : α) : ¬Yields (panics : Checked ε α) value := by
  simp [Yields, panics, ExceptT.mk, ExceptT.run]

/-! ## Fields of byte strings -/

/-- The `length` bytes at `offset`, as far as they exist. -/
def field (bytes : List UInt8) (offset length : Nat) : List UInt8 :=
  (bytes.drop offset).take length

theorem length_field {bytes : List UInt8} {offset length : Nat}
    (fits : offset + length ≤ bytes.length) :
      (field bytes offset length).length = length := by
  simp only [field, List.length_take, List.length_drop]
  omega

theorem field_toList {width : Nat} (bytes : Bytes width) (offset length : Nat) :
    field bytes.toList offset length = bytes.slice offset length := rfl

theorem drop_eq_iff (length : Nat) {left right : List UInt8} {offset : Nat} :
    left.drop offset = right.drop offset ↔
      field left offset length = field right offset length ∧
        left.drop (offset + length) = right.drop (offset + length) := by
  simp only [field, ← List.drop_drop]
  constructor
  · intro same
    rw [same]
    exact ⟨rfl, rfl⟩
  · intro parts
    rw [← List.take_append_drop length (left.drop offset), parts.1, parts.2,
      List.take_append_drop]

/-- Byte strings agree on consecutive fields of the given lengths. -/
def Agree (left right : List UInt8) : Nat → List Nat → Prop
  | _, [] => True
  | offset, length :: lengths =>
      field left offset length = field right offset length ∧
        Agree left right (offset + length) lengths

theorem drop_eq_iff_agree {left right : List UInt8} {offset : Nat} {lengths : List Nat}
    (leftLength : left.length = offset + lengths.sum)
    (rightLength : right.length = offset + lengths.sum) :
    left.drop offset = right.drop offset ↔ Agree left right offset lengths := by
  induction lengths generalizing offset with
  | nil =>
      rw [List.sum_nil] at leftLength rightLength
      have leftEnd : left.drop offset = [] := List.drop_eq_nil_of_le (by omega)
      have rightEnd : right.drop offset = [] := List.drop_eq_nil_of_le (by omega)
      simp only [Agree, leftEnd, rightEnd]
  | cons length lengths induction =>
      rw [List.sum_cons] at leftLength rightLength
      rw [drop_eq_iff length, Agree, induction (by omega) (by omega)]

theorem eq_iff_agree (lengths : List Nat) {left right : List UInt8}
    (leftLength : left.length = lengths.sum) (rightLength : right.length = lengths.sum) :
    left = right ↔ Agree left right 0 lengths := by
  rw [← drop_eq_iff_agree (by omega) (by omega), List.drop_zero, List.drop_zero]

theorem field_field {bytes : List UInt8} {start count offset length : Nat}
    (inside : offset + length ≤ count) :
    field (field bytes start count) offset length =
      field bytes (start + offset) length := by
  simp only [field, List.drop_take, List.take_take, List.drop_drop]
  rw [Nat.min_eq_left (by omega)]

theorem agree_field_iff {left right : List UInt8} {count offset : Nat}
    {lengths : List Nat} (inside : offset + lengths.sum ≤ count) :
    Agree (field left 0 count) right offset lengths ↔
      Agree left right offset lengths := by
  induction lengths generalizing offset with
  | nil => exact Iff.rfl
  | cons length lengths induction =>
      rw [List.sum_cons] at inside
      rw [Agree, Agree, field_field (by omega), Nat.zero_add, induction (by omega)]

theorem front_eq_iff_agree (lengths : List Nat) {bytes front : List UInt8}
    (frontLength : front.length = lengths.sum) (fits : front.length ≤ bytes.length) :
    field bytes 0 front.length = front ↔ Agree bytes front 0 lengths := by
  have whole : (field bytes 0 front.length).length = lengths.sum := by
    rw [length_field (by omega), frontLength]
  rw [eq_iff_agree lengths whole frontLength, agree_field_iff (by omega)]

theorem field_add (bytes : List UInt8) (offset first second : Nat) :
    field bytes offset (first + second) =
      field bytes offset first ++ field bytes (offset + first) second := by
  simp only [field, List.take_add, List.drop_drop]

theorem field_eq_append_iff {bytes front rest : List UInt8} {offset : Nat}
    (fits : offset + (front.length + rest.length) ≤ bytes.length) :
    field bytes offset (front ++ rest).length = front ++ rest ↔
      field bytes offset front.length = front ∧
        field bytes (offset + front.length) rest.length = rest := by
  rw [List.length_append, field_add]
  constructor
  · intro whole
    exact List.append_inj whole (length_field (by omega))
  · rintro ⟨first, second⟩
    rw [first, second]

/-! ## Reads -/

/-- `bytes[start..stop]`. -/
def slice (bytes : List UInt8) (start stop : Nat) : Checked ε (List UInt8) :=
  if start ≤ stop ∧ stop ≤ bytes.length then pure (field bytes start (stop - start))
  else panics

/-- `bytes[index]`. -/
def byteAt (bytes : List UInt8) (index : Nat) : Checked ε UInt8 :=
  match bytes[index]? with
  | some byte => pure byte
  | none => panics

/-- `left + right` of host-sized integers. -/
def add (usizeMax left right : Nat) : Checked ε Nat :=
  if left + right ≤ usizeMax then pure (left + right) else panics

/-- `left - right` of host-sized integers. -/
def sub (left right : Nat) : Checked ε Nat :=
  if right ≤ left then pure (left - right) else panics

/-- `left * right` of host-sized integers. -/
def mul (usizeMax left right : Nat) : Checked ε Nat :=
  if left * right ≤ usizeMax then pure (left * right) else panics

/-- `read_u16`, `read_u64` and `read_u128`, by their number of bytes. -/
def readUint (usizeMax bits width : Nat) (bytes : List UInt8) (offset : Nat) :
    Checked ε (Fin (2 ^ bits)) := do
  let stop ← add usizeMax offset width
  let source ← slice bytes offset stop
  return uintOf bits source

section Reads

variable {usizeMax bits width offset start stop : Nat} {bytes : List UInt8}

theorem slice_eq (ordered : start ≤ stop) (fits : stop ≤ bytes.length) :
    (slice bytes start stop : Checked ε (List UInt8)) = pure
      (field bytes start (stop - start)) :=
  if_pos ⟨ordered, fits⟩

theorem add_eq {left right : Nat} (fits : left + right ≤ usizeMax) :
    (add usizeMax left right : Checked ε Nat) = pure (left + right) := if_pos fits

theorem yields_add_iff {left right value : Nat} :
    Yields (add usizeMax left right : Checked ε Nat) value ↔
      left + right ≤ usizeMax ∧ left + right = value := by
  rw [add]
  split <;> simp_all

theorem yields_mul_iff {left right value : Nat} :
    Yields (mul usizeMax left right : Checked ε Nat) value ↔
      left * right ≤ usizeMax ∧ left * right = value := by
  rw [mul]
  split <;> simp_all

theorem sub_eq {left right : Nat} (ordered : right ≤ left) :
    (sub left right : Checked ε Nat) = pure (left - right) := if_pos ordered

theorem mul_eq {left right : Nat} (fits : left * right ≤ usizeMax) :
    (mul usizeMax left right : Checked ε Nat) = pure (left * right) := if_pos fits

theorem readUint_eq (fits : offset + width ≤ bytes.length)
    (held : bytes.length ≤ usizeMax) :
    (readUint usizeMax bits width bytes offset : Checked ε (Fin (2 ^ bits))) =
      pure (uintOf bits (field bytes offset width)) := by
  rw [readUint, add_eq (fits.trans held), pure_bind, slice_eq (Nat.le_add_right _ _) fits,
    pure_bind, Nat.add_sub_cancel_left]

theorem field_one (fits : offset < bytes.length) :
    field bytes offset 1 = [bytes[offset]] := by
  rw [field, List.drop_eq_getElem_cons fits]
  rfl

theorem byteAt_eq (fits : offset < bytes.length) :
    (byteAt bytes offset : Checked ε UInt8) = pure ((field bytes offset 1).headD 0) := by
  rw [byteAt, List.getElem?_eq_getElem fits, field_one fits]
  rfl

theorem headD_field_eq_iff (fits : offset < bytes.length) (byte : UInt8) :
    (field bytes offset 1).headD 0 = byte ↔ field bytes offset 1 = [byte] := by
  simp [field_one fits]

end Reads

/-! ## Integers as bytes -/

theorem bigEndian_fromBigEndian (bytes : List UInt8) :
    bigEndian bytes.length (fromBigEndian bytes) = bytes := by
  induction bytes using List.reverseRecOn with
  | nil => rfl
  | append_singleton front last induction =>
      have value :
          fromBigEndian (front ++ [last]) = fromBigEndian front * 256 + last.toNat := by
        simp [fromBigEndian, List.foldl_append]
      have high :
          (fromBigEndian front * 256 + last.toNat) / 256 = fromBigEndian front := by
        have bound := last.toNat_lt
        omega
      have low : UInt8.ofNat (fromBigEndian front * 256 + last.toNat) = last := by
        apply UInt8.toNat.inj
        simp
      rw [List.length_append, List.length_singleton, value, bigEndian, high, induction,
        low]

theorem fromBigEndian_lt (bytes : List UInt8) :
    fromBigEndian bytes < 256 ^ bytes.length := by
  have same := fromBigEndian_bigEndian bytes.length (fromBigEndian bytes)
  rw [bigEndian_fromBigEndian] at same
  rw [same]
  exact Nat.mod_lt _ (Nat.pow_pos (by decide))

theorem eq_bigEndian_iff {bits width : Nat} (matching : bits = 8 * width)
    {bytes : List UInt8} (length : bytes.length = width) (value : Fin (2 ^ bits)) :
    bytes = bigEndian width value.val ↔ uintOf bits bytes = value := by
  constructor
  · intro same
    rw [same, uintOf_bigEndian matching]
  · intro same
    have bound := fromBigEndian_lt bytes
    have power : 256 ^ width = 2 ^ bits := by rw [matching, Nat.pow_mul]
    rw [length, power] at bound
    rw [← same, uintOf]
    dsimp only
    rw [Nat.mod_eq_of_lt bound, ← length, bigEndian_fromBigEndian]

theorem field_eq_bigEndian_iff {bits width offset : Nat} {bytes : List UInt8}
    (matching : bits = 8 * width) (fits : offset + width ≤ bytes.length)
    (value : Fin (2 ^ bits)) :
    field bytes offset width = bigEndian width value.val ↔
      uintOf bits (field bytes offset width) = value :=
  eq_bigEndian_iff matching (length_field fits) value

/-! ## Arithmetic that is checked -/

def checkedAdd (max left right : Nat) : Option Nat :=
  if left + right ≤ max then some (left + right) else none

def checkedMul (max left right : Nat) : Option Nat :=
  if left * right ≤ max then some (left * right) else none

/-- `u64::try_from` of a host-sized integer. -/
def u64TryFrom (value : Nat) : Option U64 :=
  if inRange : value < 2 ^ 64 then some ⟨value, inRange⟩ else none

@[simp] theorem u64TryFrom_eq_some {value : Nat} {converted : U64} :
    u64TryFrom value = some converted ↔ converted.val = value := by
  rw [u64TryFrom]
  split
  · rw [Option.some.injEq, Fin.ext_iff]
    exact eq_comm
  · have bound := converted.isLt
    simp only [reduceCtorEq, false_iff]
    omega

@[simp] theorem checkedAdd_eq_some {max left right sum : Nat} :
    checkedAdd max left right = some sum ↔ left + right ≤ max ∧ left + right = sum := by
  simp [checkedAdd]

@[simp] theorem checkedMul_eq_some {max left right product : Nat} :
    checkedMul max left right = some product ↔
      left * right ≤ max ∧ left * right = product := by
  simp [checkedMul]

/-! ## Tables -/

/-- Entries of equal width, from the one at `index` on. -/
def readTable (usizeMax tableOffset width : Nat) (readEntry : Nat → Nat → Checked ε α) :
    Nat → Nat → Checked ε (List α)
  | _, 0 => pure []
  | index, remaining + 1 => do
      let entryOffset ← add usizeMax tableOffset (← mul usizeMax index width)
      let entry ← readEntry entryOffset index
      let entries ← readTable usizeMax tableOffset width readEntry (index + 1) remaining
      return entry :: entries

section Tables

variable {usizeMax tableOffset width : Nat} {readEntry : Nat → Nat → Checked ε α}
  {bytes : List UInt8} {encode : α → List UInt8}

theorem length_flatMap_encode (encodedLength : ∀ entry, (encode entry).length = width)
    (entries : List α) : (entries.flatMap encode).length = entries.length * width := by
  induction entries with
  | nil => simp
  | cons entry rest induction =>
      rw [List.flatMap_cons, List.length_append, encodedLength, induction,
        List.length_cons, Nat.succ_mul, Nat.add_comm]

theorem readTable_yields_iff (encodedLength : ∀ entry, (encode entry).length = width)
    (reads : ∀ offset index entry, offset + width ≤ bytes.length →
      (Yields (readEntry offset index) entry ↔ field bytes offset width = encode entry))
    (held : bytes.length ≤ usizeMax) {index remaining : Nat} (entries : List α)
    (fits : tableOffset + (index + remaining) * width ≤ bytes.length) :
    Yields (readTable usizeMax tableOffset width readEntry index remaining) entries ↔
      entries.length = remaining ∧
        field bytes (tableOffset + index * width) (remaining * width) =
          entries.flatMap encode := by
  induction remaining generalizing index entries with
  | zero =>
      rw [readTable, yields_pure_iff, List.length_eq_zero_iff]
      constructor
      · rintro rfl
        simp [field]
      · rintro ⟨rfl, _⟩
        rfl
  | succ remaining induction =>
      have product : (index + (remaining + 1)) * width =
          index * width + width + remaining * width := by ring
      have fitsHere : tableOffset + index * width + width ≤ bytes.length := by omega
      have fitsRest : tableOffset + ((index + 1) + remaining) * width ≤ bytes.length := by
        rw [Nat.add_right_comm, Nat.add_assoc]
        exact fits
      have next : tableOffset + (index + 1) * width =
          tableOffset + index * width + width := by ring
      rw [readTable, mul_eq (by omega), pure_bind, add_eq (by omega), pure_bind,
        Nat.succ_mul, Nat.add_comm _ width, field_add]
      simp only [yields_bind_iff, yields_pure_iff, reads _ _ _ fitsHere,
        induction _ fitsRest, next]
      constructor
      · rintro ⟨entry, here, rest, ⟨length, after⟩, rfl⟩
        rw [here, after]
        exact ⟨by rw [List.length_cons, length], rfl⟩
      · rintro ⟨length, whole⟩
        cases entries with
        | nil => simp at length
        | cons entry rest =>
            rw [List.flatMap_cons] at whole
            have parts :=
              List.append_inj whole (by rw [length_field fitsHere, encodedLength])
            exact ⟨entry, parts.1, rest, ⟨Nat.succ.inj length, parts.2⟩, rfl⟩

theorem readTable_total (held : bytes.length ≤ usizeMax)
    (reads : ∀ offset index, offset + width ≤ bytes.length →
      Total (readEntry offset index))
    {index remaining : Nat}
    (fits : tableOffset + (index + remaining) * width ≤ bytes.length) :
    Total (readTable usizeMax tableOffset width readEntry index remaining) := by
  induction remaining generalizing index with
  | zero => exact total_pure []
  | succ remaining induction =>
      have product : (index + (remaining + 1)) * width =
          index * width + width + remaining * width := by ring
      have fitsRest : tableOffset + ((index + 1) + remaining) * width ≤ bytes.length := by
        rw [Nat.add_right_comm, Nat.add_assoc]
        exact fits
      rw [readTable, mul_eq (by omega), pure_bind, add_eq (by omega), pure_bind]
      apply total_bind (reads _ _ (by omega))
      intro entry _
      apply total_bind (induction fitsRest)
      intro entries _
      exact total_pure _

end Tables

end Checked

end Ntsql
