import Ntsql.Foundation.CheckedSlice
import Ntsql.Transaction.CheckpointBaseline

/-! # Fields of encoded checkpoints

Both checkpoint codecs write optional positions with a presence byte, keep
reserved bytes zero and encode transactions in the same 64 bytes. Their decoders
differ in the errors they report. -/

namespace Ntsql.Storage.Checkpoint

open Bytes Checked Transaction

def ABSENT : UInt8 := 0

def PRESENT : UInt8 := 1

def STATE_UNCOMMITTED : UInt8 := 0

def STATE_COMMITTED : UInt8 := 1

section Optional

variable {ε : Type} {width : Nat}

/-- `write_optional_u64`. -/
def writeOptionalU64 (bytes : Bytes width) (valueOffset presenceOffset : Nat) :
    Option U64 → Bytes width
  | some value =>
      (bytes.writeU64 valueOffset value).copyFromSlice presenceOffset [PRESENT]
  | none => bytes.copyFromSlice presenceOffset [ABSENT]

/-- A value with a presence byte; the decoders differ only in their errors. -/
def decodeOptional (invalid : UInt8 → ε) (nonzero : U64 → ε) (presence : UInt8)
    (value : U64) :
    Except ε (Option U64) :=
  if presence = ABSENT then do
    rejectIf (value ≠ 0) (nonzero value)
    return none
  else if presence = PRESENT then
    .ok (some value)
  else
    .error (invalid presence)

def presenceOf (value : Option U64) : UInt8 := if value.isSome then PRESENT else ABSENT

theorem decodeOptional_ok_iff (invalid : UInt8 → ε) (nonzero : U64 → ε) (presence : UInt8)
    (value : U64) (decoded : Option U64) :
    decodeOptional invalid nonzero presence value = .ok decoded ↔
      presence = presenceOf decoded ∧ value = decoded.getD 0 := by
  have apart : PRESENT ≠ ABSENT := by decide
  cases decoded with
  | none =>
      by_cases absent : presence = ABSENT
      · simp [decodeOptional, absent, presenceOf, Except.bind_ok_iff, pure, Except.pure]
      · by_cases present : presence = PRESENT
        · simp [decodeOptional, present, presenceOf, apart]
        · simp [decodeOptional, absent, present, presenceOf]
  | some position =>
      by_cases absent : presence = ABSENT
      · simp [decodeOptional, absent, presenceOf, Except.bind_ok_iff, pure, Except.pure,
          apart.symm]
      · by_cases present : presence = PRESENT
        · simp [decodeOptional, present, presenceOf, apart]
        · simp [decodeOptional, absent, present, presenceOf]

section Written

variable {bytes : Bytes width} {valueOffset presenceOffset : Nat}

theorem slice_writeOptionalU64_of_disjoint {start length : Nat} (value : Option U64)
    (outsideValue : start + length ≤ valueOffset ∨ valueOffset + 8 ≤ start)
    (outsidePresence : start + length ≤ presenceOffset ∨ presenceOffset + 1 ≤ start) :
    (writeOptionalU64 bytes valueOffset presenceOffset value).slice start length =
      bytes.slice start length := by
  cases value with
  | none => rw [writeOptionalU64, slice_copyFromSlice_of_disjoint outsidePresence]
  | some position =>
      rw [writeOptionalU64, slice_copyFromSlice_of_disjoint outsidePresence, writeU64,
        slice_copyFromSlice_of_disjoint (by simpa using outsideValue)]

theorem slice_writeOptionalU64_value (value : Option U64)
    (zeros : bytes.slice valueOffset 8 = List.replicate 8 0)
    (within : valueOffset + 8 ≤ width)
    (apart : valueOffset + 8 ≤ presenceOffset ∨ presenceOffset + 1 ≤ valueOffset) :
    (writeOptionalU64 bytes valueOffset presenceOffset value).slice valueOffset 8 =
      bigEndian 8 (value.getD 0).val := by
  cases value with
  | none =>
      rw [writeOptionalU64, slice_copyFromSlice_of_disjoint apart, zeros]
      exact (bigEndian_zero 8).symm
  | some position =>
      rw [writeOptionalU64, slice_copyFromSlice_of_disjoint apart, writeU64,
        slice_copyFromSlice_self within (length_bigEndian _ _)]
      rfl

theorem slice_writeOptionalU64_presence (value : Option U64)
    (within : presenceOffset + 1 ≤ width) :
    (writeOptionalU64 bytes valueOffset presenceOffset value).slice presenceOffset 1 =
      [presenceOf value] := by
  cases value with
  | none => exact slice_copyFromSlice_self within rfl
  | some position => exact slice_copyFromSlice_self within rfl

end Written

/-! ## Reserved bytes -/

/-- Refuse the first reserved byte that is not zero. -/
def checkReservedBytes (usizeMax : Nat) (nonzero : Nat → UInt8 → ε) (start : Nat) :
    Nat → List UInt8 → Checked ε Unit
  | _, [] => pure ()
  | relativeOffset, byte :: rest =>
      if byte ≠ 0 then do
        let offset ← add usizeMax start relativeOffset
        ofResult (.error (nonzero offset byte))
      else
        checkReservedBytes usizeMax nonzero start (relativeOffset + 1) rest

theorem checkReservedBytes_yields_iff (usizeMax : Nat) (nonzero : Nat → UInt8 → ε)
    (start : Nat) (relativeOffset : Nat) (reserved : List UInt8) (value : Unit) :
    Yields (checkReservedBytes usizeMax nonzero start relativeOffset reserved) value ↔
      reserved = List.replicate reserved.length 0 := by
  induction reserved generalizing relativeOffset with
  | nil => simp [checkReservedBytes]
  | cons byte rest induction =>
      by_cases zero : byte = 0
      · simp [checkReservedBytes, zero, induction, List.replicate_succ]
      · simp [checkReservedBytes, zero, yields_bind_iff, List.replicate_succ]

theorem checkReservedBytes_total {usizeMax : Nat} (nonzero : Nat → UInt8 → ε)
    {start : Nat} {relativeOffset : Nat} {reserved : List UInt8}
    (fits : start + relativeOffset + reserved.length ≤ usizeMax) :
    Total (checkReservedBytes usizeMax nonzero start relativeOffset reserved) := by
  induction reserved generalizing relativeOffset with
  | nil => exact total_pure ()
  | cons byte rest induction =>
      rw [List.length_cons] at fits
      rw [checkReservedBytes]
      split
      · rw [add_eq (by omega), pure_bind]
        exact total_ofResult _
      · exact induction (by omega)

end Optional

/-! ## Transaction entries -/

inductive RestartCheckpointBaselineEntryOptionalField where
  | firstOwnedPagePosition
  | lastOwnedPagePosition
deriving DecidableEq

structure TransactionEntryErrors (ε : Type) where
  reservedByteNonZero : Nat → UInt8 → ε
  entryPositionPresenceInvalid :
    Nat → RestartCheckpointBaselineEntryOptionalField → UInt8 → ε
  absentEntryPositionValueNonZero :
    Nat → RestartCheckpointBaselineEntryOptionalField → U64 → ε
  uncommittedPositionValueNonZero : Nat → U64 → ε
  entryStateInvalid : Nat → UInt8 → ε

def writeTransactionState (bytes : Bytes 64) :
    RestartCheckpointBaselineStateObservation → Bytes 64
  | .uncommitted => bytes.copyFromSlice 48 [STATE_UNCOMMITTED]
  | .committed commitPosition =>
      (bytes.writeU64 40 commitPosition).copyFromSlice 48 [STATE_COMMITTED]

def encodeTransactionEntry
    (entry : RestartCheckpointBaselineEntryObservation) : Bytes 64 :=
  let bytes := Bytes.zero 64
  let bytes := bytes.writeU64 0 entry.epoch
  let bytes := bytes.writeU64 8 entry.sequence
  let bytes := writeOptionalU64 bytes 16 49 entry.firstOwnedPagePosition
  let bytes := writeOptionalU64 bytes 24 50 entry.lastOwnedPagePosition
  let bytes := bytes.writeU64 32 entry.ownedPageRecordCount
  writeTransactionState bytes entry.state

def decodeTransactionState {ε : Type} (errors : TransactionEntryErrors ε) (index : Nat)
    (state : UInt8) (commitPosition : U64) :
    Except ε RestartCheckpointBaselineStateObservation :=
  if state = STATE_UNCOMMITTED then do
    rejectIf (commitPosition ≠ 0)
      (errors.uncommittedPositionValueNonZero index commitPosition)
    return .uncommitted
  else if state = STATE_COMMITTED then
    .ok (.committed commitPosition)
  else
    .error (errors.entryStateInvalid index state)

def decodeTransactionEntry {ε : Type} (errors : TransactionEntryErrors ε) (usizeMax : Nat)
    (bytes : List UInt8) (entryOffset index : Nat) :
    Checked ε RestartCheckpointBaselineEntryObservation := do
  let stop ← add usizeMax entryOffset 64
  let entry ← slice bytes entryOffset stop
  let reservedStart ← add usizeMax entryOffset 51
  checkReservedBytes usizeMax errors.reservedByteNonZero reservedStart 0
    (← slice entry 51 64)
  let firstOwnedPagePosition ← ofResult (decodeOptional
    (errors.entryPositionPresenceInvalid index .firstOwnedPagePosition)
    (errors.absentEntryPositionValueNonZero index .firstOwnedPagePosition)
    (← byteAt entry 49) (← readUint usizeMax 64 8 entry 16))
  let lastOwnedPagePosition ← ofResult (decodeOptional
    (errors.entryPositionPresenceInvalid index .lastOwnedPagePosition)
    (errors.absentEntryPositionValueNonZero index .lastOwnedPagePosition)
    (← byteAt entry 50) (← readUint usizeMax 64 8 entry 24))
  let commitPosition ← readUint usizeMax 64 8 entry 40
  let state ← ofResult
    (decodeTransactionState errors index (← byteAt entry 48) commitPosition)
  let epoch ← readUint usizeMax 64 8 entry 0
  let sequence ← readUint usizeMax 64 8 entry 8
  let ownedPageRecordCount ← readUint usizeMax 64 8 entry 32
  return {
    epoch, sequence, firstOwnedPagePosition, lastOwnedPagePosition, ownedPageRecordCount
    state }

theorem length_encodeTransactionEntry
    (entry : RestartCheckpointBaselineEntryObservation) :
    (encodeTransactionEntry entry).toList.length = 64 := Vector.length_toList

def encodeTransactions (transactions : List RestartCheckpointBaselineEntryObservation) :
    List UInt8 :=
  transactions.flatMap fun entry => (encodeTransactionEntry entry).toList

theorem length_encodeTransactions
    (transactions : List RestartCheckpointBaselineEntryObservation) :
    (encodeTransactions transactions).length = transactions.length * 64 :=
  length_flatMap_encode length_encodeTransactionEntry transactions

/-- A state is a commit position or none, and is written like one. -/
def commitPositionOf : RestartCheckpointBaselineStateObservation → Option U64
  | .uncommitted => none
  | .committed commitPosition => some commitPosition

theorem writeTransactionState_eq (bytes : Bytes 64)
    (state : RestartCheckpointBaselineStateObservation) :
    writeTransactionState bytes state =
      writeOptionalU64 bytes 40 48 (commitPositionOf state) := by
  cases state <;> rfl

theorem decodeTransactionState_ok_iff {ε : Type} (errors : TransactionEntryErrors ε)
    (index : Nat) (byte : UInt8) (commitPosition : U64)
    (state : RestartCheckpointBaselineStateObservation) :
    decodeTransactionState errors index byte commitPosition = .ok state ↔
      byte = presenceOf (commitPositionOf state) ∧
        commitPosition = (commitPositionOf state).getD 0 := by
  rw [← decodeOptional_ok_iff (errors.entryStateInvalid index)
    (errors.uncommittedPositionValueNonZero index), decodeTransactionState,
      decodeOptional]
  have uncommitted : STATE_UNCOMMITTED = ABSENT := rfl
  have committed : STATE_COMMITTED = PRESENT := rfl
  rw [uncommitted, committed]
  split
  · cases state <;> simp [commitPositionOf, Except.bind_ok_iff, pure, Except.pure]
  · split
    · cases state <;> simp [commitPositionOf]
    · simp

def entryFields : List Nat := [8, 8, 8, 8, 8, 8, 1, 1, 1, 13]

section Layout

variable (entry : RestartCheckpointBaselineEntryObservation)

attribute [local simp] encodeTransactionEntry writeU64 slice_copyFromSlice_of_disjoint
  slice_writeOptionalU64_of_disjoint slice_writeOptionalU64_value
    slice_writeOptionalU64_presence
  writeTransactionState_eq slice_zero

theorem encodeTransactionEntry_agrees (bytes : List UInt8) :
    Agree bytes (encodeTransactionEntry entry).toList 0 entryFields ↔
      field bytes 0 8 = bigEndian 8 entry.epoch.val ∧
      field bytes 8 8 = bigEndian 8 entry.sequence.val ∧
      field bytes 16 8 = bigEndian 8 (entry.firstOwnedPagePosition.getD 0).val ∧
      field bytes 24 8 = bigEndian 8 (entry.lastOwnedPagePosition.getD 0).val ∧
      field bytes 32 8 = bigEndian 8 entry.ownedPageRecordCount.val ∧
      field bytes 40 8 = bigEndian 8 ((commitPositionOf entry.state).getD 0).val ∧
      field bytes 48 1 = [presenceOf (commitPositionOf entry.state)] ∧
      field bytes 49 1 = [presenceOf entry.firstOwnedPagePosition] ∧
      field bytes 50 1 = [presenceOf entry.lastOwnedPagePosition] ∧
      field bytes 51 13 = List.replicate 13 0 := by
  simp [Agree, entryFields, field_toList]

end Layout

section Decoded

variable {ε : Type} (errors : TransactionEntryErrors ε) {usizeMax : Nat}
  {bytes : List UInt8} {entryOffset : Nat} (index : Nat)

theorem decodeTransactionEntry_yields_iff (fits : entryOffset + 64 ≤ bytes.length)
    (held : bytes.length ≤ usizeMax) (entry : RestartCheckpointBaselineEntryObservation) :
    Yields (decodeTransactionEntry errors usizeMax bytes entryOffset index) entry ↔
      field bytes entryOffset 64 = (encodeTransactionEntry entry).toList := by
  have length := length_field fits
  rw [eq_iff_agree entryFields length (length_encodeTransactionEntry entry),
    encodeTransactionEntry_agrees, decodeTransactionEntry, add_eq (fits.trans held),
    pure_bind, slice_eq (Nat.le_add_right _ _) fits, pure_bind, Nat.add_sub_cancel_left]
  generalize field bytes entryOffset 64 = read at length ⊢
  simp (disch := omega) only [add_eq, slice_eq, readUint_eq, byteAt_eq, pure_bind,
    yields_bind_iff, checkReservedBytes_yields_iff, yields_ofResult_iff, yields_pure_iff,
    decodeOptional_ok_iff, decodeTransactionState_ok_iff, length_field,
    headD_field_eq_iff]
  simp (disch := omega) only [field_eq_bigEndian_iff]
  constructor
  · rintro ⟨_, reserved, first, ⟨firstPresence, firstValue⟩, last,
      ⟨lastPresence, lastValue⟩, state, ⟨statePresence, commitValue⟩, rfl⟩
    exact ⟨rfl, rfl, firstValue, lastValue, rfl, commitValue, statePresence,
      firstPresence, lastPresence, reserved⟩
  · rintro ⟨epoch, sequence, firstValue, lastValue, count, commitValue, statePresence,
      firstPresence, lastPresence, reserved⟩
    refine ⟨(), reserved, _, ⟨firstPresence, firstValue⟩, _, ⟨lastPresence, lastValue⟩, _,
      ⟨statePresence, commitValue⟩, ?_⟩
    rw [epoch, sequence, count]

theorem decodeTransactionEntry_total (fits : entryOffset + 64 ≤ bytes.length)
    (held : bytes.length ≤ usizeMax) :
    Total (decodeTransactionEntry errors usizeMax bytes entryOffset index) := by
  have length := length_field fits
  rw [decodeTransactionEntry, add_eq (fits.trans held), pure_bind,
    slice_eq (Nat.le_add_right _ _) fits, pure_bind, Nat.add_sub_cancel_left]
  generalize field bytes entryOffset 64 = read at length ⊢
  simp (disch := omega) only [add_eq, slice_eq, readUint_eq, byteAt_eq, pure_bind]
  have reserved :
      Total (checkReservedBytes usizeMax errors.reservedByteNonZero (entryOffset + 51) 0
      (field read 51 (64 - 51))) := by
    apply checkReservedBytes_total
    rw [length_field (by omega)]
    omega
  apply total_bind reserved
  intro _ _
  apply total_bind (total_ofResult _)
  intro first _
  apply total_bind (total_ofResult _)
  intro last _
  apply total_bind (total_ofResult _)
  intro state _
  exact total_pure _

end Decoded

end Ntsql.Storage.Checkpoint
