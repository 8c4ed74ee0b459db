import Ntsql.Storage.CheckpointEntry
import Ntsql.Storage.CheckpointEnvelope

/-! # The transaction checkpoint codec

A header of 64 bytes, an entry of 64 bytes for each transaction and a footer.
Decoding keeps contradictory fields: it reads back whatever was encoded, and
accepts no byte string but the encoding of what it reads. -/

namespace Ntsql.Storage.RestartCheckpoint

open Bytes Checked Checkpoint Transaction

def HEADER_MAGIC : List UInt8 := [0x4e, 0x54, 0x53, 0x51, 0x43, 0x4b, 0x50, 0x31]

def FOOTER_MAGIC : List UInt8 := [0x4e, 0x54, 0x53, 0x51, 0x43, 0x4b, 0x45, 0x31]

def FORMAT_VERSION : U16 := 1

inductive RestartCheckpointBaselineEncodeError where
  | transactionCountOutOfRange (transactionCount : Nat)
  | encodedLengthOverflow (transactionCount : Nat)
  | encodedLengthOutOfRange (encodedLength : Nat)
deriving DecidableEq

inductive RestartCheckpointBaselineDecodeError where
  | truncated (expectedLength actualLength : Nat)
  | headerMagicMismatch (actual : List UInt8)
  | unsupportedVersion (actual : U16)
  | headerLengthMismatch (actual : U16)
  | entryLengthMismatch (actual : U16)
  | footerLengthMismatch (actual : U16)
  | transactionCountOutOfRange (transactionCount : U64)
  | encodedLengthOverflow (transactionCount : U64)
  | totalLengthOutOfRange (totalLength : Nat)
  | declaredLengthMismatch (declared : U64) (expected : Nat)
  | trailingBytes (expectedLength actualLength : Nat)
  | footerMagicMismatch (actual : List UInt8)
  | checksumMismatch (expected actual : U64)
  | frontierPresenceInvalid (actual : UInt8)
  | absentFrontierValueNonZero (actual : U64)
  | reservedByteNonZero (offset : Nat) (actual : UInt8)
  | entryStateInvalid (transactionIndex : Nat) (actual : UInt8)
  | entryPositionPresenceInvalid (transactionIndex : Nat)
      (field : RestartCheckpointBaselineEntryOptionalField) (actual : UInt8)
  | absentEntryPositionValueNonZero (transactionIndex : Nat)
      (field : RestartCheckpointBaselineEntryOptionalField) (actual : U64)
  | uncommittedPositionValueNonZero (transactionIndex : Nat) (actual : U64)
deriving DecidableEq

/-! ## Encoding -/

def encodeHeader (persistentLogId : U128) (durableFrontier : Option U64)
    (transactionCount encodedLength : U64) : Bytes 64 :=
  let header := Bytes.zero 64
  let header := header.copyFromSlice 0 HEADER_MAGIC
  let header := header.writeU16 8 FORMAT_VERSION
  let header := header.writeU16 10 64
  let header := header.writeU16 12 64
  let header := header.writeU16 14 16
  let header := header.writeU128 16 persistentLogId
  let header := writeOptionalU64 header 32 40 durableFrontier
  let header := header.writeU64 48 transactionCount
  header.writeU64 56 encodedLength

def encodedLengthOf (usizeMax transactionCount : Nat) : Option Nat :=
  (checkedMul usizeMax transactionCount 64).bind fun entriesLength =>
    (checkedAdd usizeMax 64 entriesLength).bind fun length =>
      checkedAdd usizeMax length 16

def encodeFields (usizeMax : Nat) (observation : RestartCheckpointBaselineObservation) :
    Except RestartCheckpointBaselineEncodeError (List UInt8) := do
  let count := observation.transactions.length
  let transactionCount ← okOr (u64TryFrom count) (.transactionCountOutOfRange count)
  let encodedLength ← okOr (encodedLengthOf usizeMax count) (.encodedLengthOverflow count)
  let encodedLengthU64 ← okOr (u64TryFrom encodedLength)
    (.encodedLengthOutOfRange encodedLength)
  let header := encodeHeader observation.persistentLogId observation.durableFrontier
    transactionCount encodedLengthU64
  return withFooter FOOTER_MAGIC
    (header.toList ++ encodeTransactions observation.transactions)

def envelopeErrors : EnvelopeErrors RestartCheckpointBaselineDecodeError where
  declaredLengthMismatch := .declaredLengthMismatch
  totalLengthOutOfRange := .totalLengthOutOfRange
  truncated := .truncated
  trailingBytes := .trailingBytes
  footerMagicMismatch := .footerMagicMismatch
  checksumMismatch := .checksumMismatch

def entryErrors : TransactionEntryErrors RestartCheckpointBaselineDecodeError where
  reservedByteNonZero := .reservedByteNonZero
  entryPositionPresenceInvalid := .entryPositionPresenceInvalid
  absentEntryPositionValueNonZero := .absentEntryPositionValueNonZero
  uncommittedPositionValueNonZero := .uncommittedPositionValueNonZero
  entryStateInvalid := .entryStateInvalid

def expectedLength (transactionCount : U64) : Option Nat :=
  (checkedMul u64Max transactionCount.val 64).bind fun length =>
    (checkedAdd u64Max length 64).bind fun length => checkedAdd u64Max length 16

def decodeRestartCheckpointBaseline (usizeMax : Nat) (bytes : List UInt8) :
    Checked RestartCheckpointBaselineDecodeError
      RestartCheckpointBaselineObservation := do
  refuseIf (bytes.length < 64) (.truncated 64 bytes.length)
  let headerMagic ← copyMagic usizeMax bytes 0
  refuseIf (headerMagic ≠ HEADER_MAGIC) (.headerMagicMismatch headerMagic)
  let version ← readUint usizeMax 16 2 bytes 8
  refuseIf (version ≠ FORMAT_VERSION) (.unsupportedVersion version)
  let headerLength ← readUint usizeMax 16 2 bytes 10
  refuseIf (headerLength ≠ 64) (.headerLengthMismatch headerLength)
  let entryLength ← readUint usizeMax 16 2 bytes 12
  refuseIf (entryLength ≠ 64) (.entryLengthMismatch entryLength)
  let footerLength ← readUint usizeMax 16 2 bytes 14
  refuseIf (footerLength ≠ 16) (.footerLengthMismatch footerLength)
  let transactionCount ← readUint usizeMax 64 8 bytes 48
  refuseIf (usizeMax < transactionCount.val)
    (.transactionCountOutOfRange transactionCount)
  let expected ← ofResult (okOr (expectedLength transactionCount)
    (.encodedLengthOverflow transactionCount))
  let declaredLength ← readUint usizeMax 64 8 bytes 56
  checkEnvelope envelopeErrors usizeMax FOOTER_MAGIC bytes expected declaredLength
  Checkpoint.checkReservedBytes usizeMax .reservedByteNonZero 41 0 (← slice bytes 41 48)
  let durableFrontier ← ofResult (decodeOptional .frontierPresenceInvalid
    .absentFrontierValueNonZero (← byteAt bytes 40) (← readUint usizeMax 64 8 bytes 32))
  let transactions ← readTable usizeMax 64 64
    (decodeTransactionEntry entryErrors usizeMax bytes) 0 transactionCount.val
  let persistentLogId ← readUint usizeMax 128 16 bytes 16
  return { persistentLogId, durableFrontier, transactions }

/-! ## What is encoded -/

theorem expectedLength_eq_some {transactionCount : U64} {expected : Nat} :
    expectedLength transactionCount = some expected ↔
      expected ≤ u64Max ∧ transactionCount.val * 64 + 64 + 16 = expected := by
  simp only [expectedLength, Option.bind_eq_some_iff, checkedMul_eq_some,
    checkedAdd_eq_some]
  constructor
  · rintro ⟨_, ⟨_, rfl⟩, _, ⟨_, rfl⟩, fits, rfl⟩
    exact ⟨fits, rfl⟩
  · rintro ⟨fits, rfl⟩
    exact ⟨_, ⟨by omega, rfl⟩, _, ⟨by omega, rfl⟩, fits, rfl⟩

theorem encodedLengthOf_eq_some {usizeMax transactionCount encodedLength : Nat} :
    encodedLengthOf usizeMax transactionCount = some encodedLength ↔
      encodedLength ≤ usizeMax ∧ transactionCount * 64 + 64 + 16 = encodedLength := by
  simp only [encodedLengthOf, Option.bind_eq_some_iff, checkedMul_eq_some,
    checkedAdd_eq_some]
  constructor
  · rintro ⟨_, ⟨_, rfl⟩, _, ⟨_, rfl⟩, fits, total⟩
    omega
  · rintro ⟨fits, total⟩
    exact ⟨_, ⟨by omega, rfl⟩, _, ⟨by omega, rfl⟩, by omega, by omega⟩

theorem encodeFields_ok_iff {usizeMax : Nat}
    {observation : RestartCheckpointBaselineObservation} {bytes : List UInt8} :
    encodeFields usizeMax observation = .ok bytes ↔
      ∃ transactionCount encodedLength : U64,
        transactionCount.val = observation.transactions.length ∧
        encodedLength.val = transactionCount.val * 64 + 64 + 16 ∧
        encodedLength.val ≤ usizeMax ∧
        bytes = withFooter FOOTER_MAGIC ((encodeHeader observation.persistentLogId
          observation.durableFrontier transactionCount encodedLength).toList ++
            encodeTransactions observation.transactions) := by
  simp only [encodeFields, Except.bind_ok_iff, okOr_ok_iff, u64TryFrom_eq_some,
    encodedLengthOf_eq_some, Except.pure_ok_iff]
  constructor
  · rintro ⟨count, counted, length, ⟨fits, total⟩, converted, same, sealed⟩
    exact ⟨count, converted, counted, by omega, by omega, sealed.symm⟩
  · rintro ⟨count, total, counted, length, fits, sealed⟩
    exact ⟨count, counted, total.val, ⟨fits, by omega⟩, total, rfl, sealed.symm⟩

def headerFields : List Nat := [8, 2, 2, 2, 2, 16, 8, 1, 7, 8, 8]

section Layout

variable (persistentLogId : U128) (durableFrontier : Option U64)
  (transactionCount encodedLength : U64)

attribute [local simp] encodeHeader writeU16 writeU64 writeU128
  slice_copyFromSlice_of_disjoint
  slice_writeOptionalU64_of_disjoint slice_writeOptionalU64_value
    slice_writeOptionalU64_presence
  slice_zero

theorem encodeHeader_agrees (bytes : List UInt8) :
    Agree bytes (encodeHeader persistentLogId durableFrontier transactionCount
      encodedLength).toList 0 headerFields ↔
      field bytes 0 8 = HEADER_MAGIC ∧
      field bytes 8 2 = bigEndian 2 FORMAT_VERSION.val ∧
      field bytes 10 2 = bigEndian 2 (64 : U16).val ∧
      field bytes 12 2 = bigEndian 2 (64 : U16).val ∧
      field bytes 14 2 = bigEndian 2 (16 : U16).val ∧
      field bytes 16 16 = bigEndian 16 persistentLogId.val ∧
      field bytes 32 8 = bigEndian 8 (durableFrontier.getD 0).val ∧
      field bytes 40 1 = [presenceOf durableFrontier] ∧
      field bytes 41 7 = List.replicate 7 0 ∧
      field bytes 48 8 = bigEndian 8 transactionCount.val ∧
      field bytes 56 8 = bigEndian 8 encodedLength.val := by
  have eight : HEADER_MAGIC.length = 8 := rfl
  simp [Agree, headerFields, field_toList, eight]

end Layout

theorem eq_encoded_iff {bytes : List UInt8} {header : Bytes 64}
    {transactions : List RestartCheckpointBaselineEntryObservation} :
    bytes = withFooter FOOTER_MAGIC (header.toList ++ encodeTransactions transactions) ↔
      bytes.length = transactions.length * 64 + 64 + 16 ∧
        Agree bytes header.toList 0 headerFields ∧
          field bytes 64 (transactions.length * 64) = encodeTransactions transactions ∧
            field bytes (transactions.length * 64 + 64) 8 = FOOTER_MAGIC ∧
              field bytes (transactions.length * 64 + 64 + 8) 8 =
                bigEndian 8 (checksumV1
                  (field bytes 0 (transactions.length * 64 + 64 + 8))).val := by
  have eight : FOOTER_MAGIC.length = 8 := rfl
  have entries := length_encodeTransactions transactions
  have sixtyFour : header.toList.length = 64 := Vector.length_toList
  have total : (header.toList ++ encodeTransactions transactions).length =
      transactions.length * 64 + 64 := by
    rw [List.length_append, sixtyFour, entries, Nat.add_comm]
  by_cases length : bytes.length = transactions.length * 64 + 64 + 16
  · rw [eq_withFooter_iff eight (by omega), field_eq_append_iff (by omega),
      front_eq_iff_agree headerFields sixtyFour (by omega), Nat.zero_add, sixtyFour,
      entries, total]
    simp only [length, true_and, and_assoc]
  · constructor
    · intro sealed
      rw [sealed, length_withFooter eight, total] at length
      exact absurd rfl length
    · rintro ⟨same, _⟩
      exact absurd same length

section Decoded

variable {usizeMax : Nat} {bytes : List UInt8}

theorem decode_yields_iff (held : bytes.length ≤ usizeMax)
    (observation : RestartCheckpointBaselineObservation) :
    Yields (decodeRestartCheckpointBaseline usizeMax bytes) observation ↔
      encodeFields usizeMax observation = .ok bytes := by
  simp only [encodeFields_ok_iff, eq_encoded_iff, encodeHeader_agrees]
  by_cases short : bytes.length < 64
  · constructor
    · intro decoded
      simp only [decodeRestartCheckpointBaseline, yields_bind_iff, yields_refuseIf_iff]
        at decoded
      rcases decoded with ⟨_, enough, _⟩
      exact absurd short enough
    · rintro ⟨_, _, _, _, _, length, _⟩
      omega
  · simp (disch := omega) only [decodeRestartCheckpointBaseline, copyMagic_eq,
      readUint_eq, byteAt_eq, slice_eq, pure_bind, yields_bind_iff, yields_refuseIf_iff,
      yields_ofResult_iff, yields_pure_iff, okOr_ok_iff, expectedLength_eq_some,
      decodeOptional_ok_iff, checkReservedBytes_yields_iff, length_field,
      headD_field_eq_iff, Decidable.not_not]
    simp (disch := omega) only [field_eq_bigEndian_iff, exists_const]
    have entries : ∀ count, 64 + (0 + count) * 64 ≤ bytes.length → ∀ transactions,
        (Yields (readTable usizeMax 64 64
          (decodeTransactionEntry entryErrors usizeMax bytes) 0
          count) transactions ↔ transactions.length = count ∧
            field bytes (64 + 0 * 64) (count * 64) = encodeTransactions transactions) :=
      fun count fits transactions => readTable_yields_iff length_encodeTransactionEntry
        (fun offset index entry inside =>
          decodeTransactionEntry_yields_iff entryErrors index inside held entry)
        held transactions fits
    constructor
    · rintro ⟨_, magic, version, headerLength, entryLength, footerLength, _, _,
        ⟨expectedFits, rfl⟩, _, envelope, reserved, frontier, ⟨presence, frontierValue⟩,
          transactions,
        table, rfl⟩
      rw [checkEnvelope_yields_iff held] at envelope
      rcases envelope with ⟨declared, length, footerMagic, checksum⟩
      rw [entries _ (by omega)] at table
      rcases table with ⟨counted, table⟩
      rw [← counted] at table length footerMagic checksum
      exact ⟨_, _, counted.symm, declared, by omega, length,
        ⟨magic, version, headerLength,
        entryLength, footerLength, rfl, frontierValue, presence, reserved, rfl, rfl⟩,
          table,
        footerMagic, checksum⟩
    · rintro ⟨count, total, counted, totalEq, totalFits, length,
        ⟨magic, version, headerLength,
        entryLength, footerLength, logId, frontierValue, presence, reserved, rfl, rfl⟩,
          table,
        footerMagic, checksum⟩
      rw [← counted] at table length footerMagic checksum
      refine ⟨short, magic, version, headerLength, entryLength, footerLength, by omega, _,
        ⟨?_, rfl⟩, (), ?_, reserved, _, ⟨presence, frontierValue⟩,
          observation.transactions, ?_,
        by rw [logId]⟩
      · have bound := (uintOf 64 (field bytes 56 8)).isLt
        rw [u64Max]
        omega
      · rw [checkEnvelope_yields_iff held]
        exact ⟨totalEq, length, footerMagic, checksum⟩
      · rw [entries _ (by omega)]
        exact ⟨counted.symm, table⟩

theorem decode_total (held : bytes.length ≤ usizeMax) :
    Total (decodeRestartCheckpointBaseline usizeMax bytes) := by
  rw [decodeRestartCheckpointBaseline]
  apply total_bind (total_refuseIf _ _)
  intro _ long
  rw [yields_refuseIf_iff] at long
  simp (disch := omega) only [copyMagic_eq, readUint_eq, byteAt_eq, slice_eq, pure_bind]
  apply total_bind (total_refuseIf _ _)
  intro _ _
  apply total_bind (total_refuseIf _ _)
  intro _ _
  apply total_bind (total_refuseIf _ _)
  intro _ _
  apply total_bind (total_refuseIf _ _)
  intro _ _
  apply total_bind (total_refuseIf _ _)
  intro _ _
  apply total_bind (total_refuseIf _ _)
  intro _ _
  apply total_bind (total_ofResult _)
  intro expected computed
  rw [yields_ofResult_iff, okOr_ok_iff, expectedLength_eq_some] at computed
  rcases computed with ⟨_, rfl⟩
  apply total_bind (checkEnvelope_total held _)
  intro _ envelope
  rw [checkEnvelope_yields_iff held] at envelope
  have length := envelope.2.1
  apply total_bind
  · apply checkReservedBytes_total
    rw [length_field (by omega)]
    omega
  intro _ _
  apply total_bind (total_ofResult _)
  intro durableFrontier _
  apply total_bind
  · apply readTable_total held
    · intro offset index inside
      exact decodeTransactionEntry_total entryErrors index inside held
    · omega
  intro transactions _
  exact total_pure _

end Decoded

end Ntsql.Storage.RestartCheckpoint
