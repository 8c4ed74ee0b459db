import Ntsql.Storage.CheckpointEnvelope
import Ntsql.Storage.CompletenessEntry

/-! # The completeness checkpoint codec

A header of 128 bytes that also holds the replay start, entries of 64 bytes for
transactions and then for pages, and a footer. As for transaction checkpoints,
the accepted bytes are the encodings and nothing else. -/

namespace Ntsql.Storage.RestartCheckpointCompleteness

open Bytes Checked Checkpoint Transaction

def HEADER_MAGIC : List UInt8 := [0x4e, 0x54, 0x53, 0x51, 0x43, 0x4d, 0x50, 0x31]

def FOOTER_MAGIC : List UInt8 := [0x4e, 0x54, 0x53, 0x51, 0x43, 0x4d, 0x45, 0x31]

def FORMAT_VERSION : U16 := 1

inductive RestartCheckpointCompletenessBaselineEncodeError where
  | transactionCountOutOfRange (transactionCount : Nat)
  | pageCountOutOfRange (pageCount : Nat)
  | encodedLengthOverflow (transactionCount pageCount : Nat)
  | encodedLengthOutOfRange (encodedLength : Nat)
deriving DecidableEq

/-! ## Headers -/

def encodeHeader (observation : RestartCheckpointCompletenessBaselineObservation)
    (transactionCount pageCount encodedLength : U64) : Bytes 128 :=
  let header := Bytes.zero 128
  let header := header.copyFromSlice 0 HEADER_MAGIC
  let header := header.writeU16 8 FORMAT_VERSION
  let header := header.writeU16 10 128
  let header := header.writeU16 12 64
  let header := header.writeU16 14 64
  let header := header.writeU16 16 16
  let header := header.writeU128 24 observation.transactions.persistentLogId
  let header := writeOptionalU64 header 40 48 observation.transactions.durableFrontier
  let header := header.writeU64 56 transactionCount
  let header := header.writeU64 64 pageCount
  let header := header.writeU64 72 encodedLength
  writeReplay header observation.replay

def headerFields : List Nat :=
  [8, 2, 2, 2, 2, 2, 6, 16, 8, 1, 7, 8, 8, 8, 1, 1, 1, 1, 4, 8, 8, 8, 8, 8]

section HeaderLayout

variable (observation : RestartCheckpointCompletenessBaselineObservation)
  (transactionCount pageCount encodedLength : U64)

attribute [local simp] encodeHeader writeReplay writeReplayCause replayCauseFields
  writeU16 writeU64
  writeU128 slice_copyFromSlice_of_disjoint slice_writeOptionalU64_of_disjoint
  slice_writeOptionalU64_value slice_writeOptionalU64_presence slice_zero bigEndian_zero

theorem encodeHeader_agrees (bytes : List UInt8) :
    Agree bytes (encodeHeader observation transactionCount pageCount encodedLength).toList
      0 headerFields ↔
      field bytes 0 8 = HEADER_MAGIC ∧
      field bytes 8 2 = bigEndian 2 FORMAT_VERSION.val ∧
      field bytes 10 2 = bigEndian 2 (128 : U16).val ∧
      field bytes 12 2 = bigEndian 2 (64 : U16).val ∧
      field bytes 14 2 = bigEndian 2 (64 : U16).val ∧
      field bytes 16 2 = bigEndian 2 (16 : U16).val ∧
      field bytes 18 6 = List.replicate 6 0 ∧
      field bytes 24 16 = bigEndian 16 observation.transactions.persistentLogId.val ∧
      field bytes 40 8 =
        bigEndian 8 (observation.transactions.durableFrontier.getD 0).val ∧
      field bytes 48 1 = [presenceOf observation.transactions.durableFrontier] ∧
      field bytes 49 7 = List.replicate 7 0 ∧
      field bytes 56 8 = bigEndian 8 transactionCount.val ∧
      field bytes 64 8 = bigEndian 8 pageCount.val ∧
      field bytes 72 8 = bigEndian 8 encodedLength.val ∧
      field bytes 80 1 = [replayKindCode observation.replay.kind] ∧
      field bytes 81 1 = [presenceOf observation.replay.frontier] ∧
      field bytes 82 1 = [presenceOf observation.replay.position] ∧
      field bytes 83 1 = [(replayCauseFields observation.replay.cause).discriminant] ∧
      field bytes 84 4 = List.replicate 4 0 ∧
      field bytes 88 8 = bigEndian 8 (observation.replay.frontier.getD 0).val ∧
      field bytes 96 8 = bigEndian 8 (observation.replay.position.getD 0).val ∧
      field bytes 104 8 =
        bigEndian 8 (replayCauseFields observation.replay.cause).pageNumber.val ∧
      field bytes 112 8 =
        bigEndian 8 (replayCauseFields observation.replay.cause).epoch.val ∧
      field bytes 120 8 =
        bigEndian 8 (replayCauseFields observation.replay.cause).sequence.val := by
  have eight : HEADER_MAGIC.length = 8 := rfl
  rcases observation with ⟨transactions, pages, kind, frontier, position, cause⟩
  cases cause with
  | none => simp [Agree, headerFields, field_toList, eight]
  | some cause => cases cause <;> simp [Agree, headerFields, field_toList, eight]

end HeaderLayout

/-! ## Encoding -/

def encodePages (pages : List RestartCheckpointCompletenessBaselinePageObservation) :
    List UInt8 :=
  pages.flatMap fun entry => (encodePageEntry entry).toList

def encodedLengthOf (usizeMax transactionCount pageCount : Nat) : Option Nat :=
  (checkedMul usizeMax transactionCount 64).bind fun transactionEntriesLength =>
    (checkedMul usizeMax pageCount 64).bind fun pageEntriesLength =>
      (checkedAdd usizeMax 128 transactionEntriesLength).bind fun length =>
        (checkedAdd usizeMax length pageEntriesLength).bind fun length =>
          checkedAdd usizeMax length 16

def encodeFields (usizeMax : Nat)
    (observation : RestartCheckpointCompletenessBaselineObservation) :
    Except RestartCheckpointCompletenessBaselineEncodeError (List UInt8) := do
  let transactions := observation.transactions.transactions
  let count := transactions.length
  let pages := observation.pages.length
  let transactionCount ← okOr (u64TryFrom count) (.transactionCountOutOfRange count)
  let pageCount ← okOr (u64TryFrom pages) (.pageCountOutOfRange pages)
  let encodedLength ← okOr (encodedLengthOf usizeMax count pages)
    (.encodedLengthOverflow count pages)
  let encodedLengthU64 ← okOr (u64TryFrom encodedLength)
    (.encodedLengthOutOfRange encodedLength)
  let header := encodeHeader observation transactionCount pageCount encodedLengthU64
  return withFooter FOOTER_MAGIC
    (header.toList ++ (encodeTransactions transactions ++ encodePages observation.pages))

def envelopeErrors : EnvelopeErrors RestartCheckpointCompletenessBaselineDecodeError where
  declaredLengthMismatch := .declaredLengthMismatch
  totalLengthOutOfRange := .totalLengthOutOfRange
  truncated := .truncated
  trailingBytes := .trailingBytes
  footerMagicMismatch := .footerMagicMismatch
  checksumMismatch := .checksumMismatch

def entryErrors :
    TransactionEntryErrors RestartCheckpointCompletenessBaselineDecodeError where
  reservedByteNonZero := .reservedByteNonZero
  entryPositionPresenceInvalid := .entryPositionPresenceInvalid
  absentEntryPositionValueNonZero := .absentEntryPositionValueNonZero
  uncommittedPositionValueNonZero := .uncommittedPositionValueNonZero
  entryStateInvalid := .entryStateInvalid

def expectedLength (transactionCount pageCount : U64) : Option Nat :=
  (checkedMul u64Max transactionCount.val 64).bind fun length =>
    ((checkedMul u64Max pageCount.val 64).bind fun pageLength =>
      checkedAdd u64Max length pageLength).bind fun length =>
        (checkedAdd u64Max length 128).bind fun length => checkedAdd u64Max length 16

def decodeRestartCheckpointCompletenessBaseline (usizeMax : Nat) (bytes : List UInt8) :
    Checked RestartCheckpointCompletenessBaselineDecodeError
      RestartCheckpointCompletenessBaselineObservation := do
  refuseIf (bytes.length < 128) (.truncated 128 bytes.length)
  let headerMagic ← copyMagic usizeMax bytes 0
  refuseIf (headerMagic ≠ HEADER_MAGIC) (.headerMagicMismatch headerMagic)
  let version ← readUint usizeMax 16 2 bytes 8
  refuseIf (version ≠ FORMAT_VERSION) (.unsupportedVersion version)
  let headerLength ← readUint usizeMax 16 2 bytes 10
  refuseIf (headerLength ≠ 128) (.headerLengthMismatch headerLength)
  let transactionEntryLength ← readUint usizeMax 16 2 bytes 12
  refuseIf (transactionEntryLength ≠ 64)
    (.transactionEntryLengthMismatch transactionEntryLength)
  let pageEntryLength ← readUint usizeMax 16 2 bytes 14
  refuseIf (pageEntryLength ≠ 64) (.pageEntryLengthMismatch pageEntryLength)
  let footerLength ← readUint usizeMax 16 2 bytes 16
  refuseIf (footerLength ≠ 16) (.footerLengthMismatch footerLength)
  let transactionCount ← readUint usizeMax 64 8 bytes 56
  refuseIf (usizeMax < transactionCount.val)
    (.transactionCountOutOfRange transactionCount)
  let pageCount ← readUint usizeMax 64 8 bytes 64
  refuseIf (usizeMax < pageCount.val) (.pageCountOutOfRange pageCount)
  let expected ← ofResult (okOr (expectedLength transactionCount pageCount)
    (.encodedLengthOverflow transactionCount pageCount))
  let declaredLength ← readUint usizeMax 64 8 bytes 72
  checkEnvelope envelopeErrors usizeMax FOOTER_MAGIC bytes expected declaredLength
  Checkpoint.checkReservedBytes usizeMax .reservedByteNonZero 18 0 (← slice bytes 18 24)
  Checkpoint.checkReservedBytes usizeMax .reservedByteNonZero 49 0 (← slice bytes 49 56)
  Checkpoint.checkReservedBytes usizeMax .reservedByteNonZero 84 0 (← slice bytes 84 88)
  let durableFrontier ← ofResult (decodeOptional .frontierPresenceInvalid
    .absentFrontierValueNonZero (← byteAt bytes 48) (← readUint usizeMax 64 8 bytes 40))
  let replay ← decodeReplay usizeMax bytes
  let transactions ← readTable usizeMax 128 64
    (decodeTransactionEntry entryErrors usizeMax bytes) 0 transactionCount.val
  let pagesStart ← add usizeMax 128 (← mul usizeMax transactionCount.val 64)
  let pages ← readTable usizeMax pagesStart 64 (decodePageEntry usizeMax bytes) 0
    pageCount.val
  let persistentLogId ← readUint usizeMax 128 16 bytes 24
  return {
    transactions := { persistentLogId, durableFrontier, transactions }
    pages, replay }

/-! ## What is encoded -/

theorem length_encodePages
    (pages : List RestartCheckpointCompletenessBaselinePageObservation) :
    (encodePages pages).length = pages.length * 64 :=
  length_flatMap_encode length_encodePageEntry pages

theorem expectedLength_eq_some {transactionCount pageCount : U64} {expected : Nat} :
    expectedLength transactionCount pageCount = some expected ↔
      expected ≤ u64Max ∧
        transactionCount.val * 64 + pageCount.val * 64 + 128 + 16 = expected := by
  simp only [expectedLength, Option.bind_eq_some_iff, checkedMul_eq_some,
    checkedAdd_eq_some]
  constructor
  · rintro ⟨_, ⟨_, rfl⟩, _, ⟨_, ⟨_, rfl⟩, _, rfl⟩, _, ⟨_, rfl⟩, fits, rfl⟩
    exact ⟨fits, rfl⟩
  · rintro ⟨fits, rfl⟩
    exact ⟨_, ⟨by omega, rfl⟩, _, ⟨_, ⟨by omega, rfl⟩, by omega, rfl⟩, _,
      ⟨by omega, rfl⟩, fits, rfl⟩

theorem encodedLengthOf_eq_some
    {usizeMax transactionCount pageCount encodedLength : Nat} :
    encodedLengthOf usizeMax transactionCount pageCount = some encodedLength ↔
      encodedLength ≤ usizeMax ∧
        transactionCount * 64 + pageCount * 64 + 128 + 16 = encodedLength := by
  simp only [encodedLengthOf, Option.bind_eq_some_iff, checkedMul_eq_some,
    checkedAdd_eq_some]
  constructor
  · rintro ⟨_, ⟨_, rfl⟩, _, ⟨_, rfl⟩, _, ⟨_, rfl⟩, _, ⟨_, rfl⟩, fits, total⟩
    omega
  · rintro ⟨fits, total⟩
    exact ⟨_, ⟨by omega, rfl⟩, _, ⟨by omega, rfl⟩, _, ⟨by omega, rfl⟩, _, ⟨by omega, rfl⟩,
      by omega, by omega⟩

theorem encodeFields_ok_iff {usizeMax : Nat}
    {observation : RestartCheckpointCompletenessBaselineObservation}
    {bytes : List UInt8} :
    encodeFields usizeMax observation = .ok bytes ↔
      ∃ transactionCount pageCount encodedLength : U64,
        transactionCount.val = observation.transactions.transactions.length ∧
        pageCount.val = observation.pages.length ∧
        encodedLength.val = transactionCount.val * 64 + pageCount.val * 64 + 128 + 16 ∧
        encodedLength.val ≤ usizeMax ∧
        bytes = withFooter FOOTER_MAGIC
          ((encodeHeader observation transactionCount pageCount encodedLength).toList ++
            (encodeTransactions observation.transactions.transactions ++
              encodePages observation.pages)) := by
  simp only [encodeFields, Except.bind_ok_iff, okOr_ok_iff, u64TryFrom_eq_some,
    encodedLengthOf_eq_some, Except.pure_ok_iff]
  constructor
  · rintro ⟨count, counted, pages, paged, length, ⟨fits, total⟩, converted, same, sealed⟩
    exact ⟨count, pages, converted, counted, paged, by omega, by omega, sealed.symm⟩
  · rintro ⟨count, pages, total, counted, paged, length, fits, sealed⟩
    exact ⟨count, counted, pages, paged, total.val, ⟨fits, by omega⟩, total, rfl,
      sealed.symm⟩

theorem eq_encoded_iff {bytes : List UInt8} {header : Bytes 128}
    {transactions : List RestartCheckpointBaselineEntryObservation}
    {pages : List RestartCheckpointCompletenessBaselinePageObservation} {length : Nat}
    (total : length = transactions.length * 64 + pages.length * 64 + 128) :
    bytes = withFooter FOOTER_MAGIC
        (header.toList ++ (encodeTransactions transactions ++ encodePages pages)) ↔
      bytes.length = length + 16 ∧
        Agree bytes header.toList 0 headerFields ∧
          (field bytes 128 (transactions.length * 64) = encodeTransactions transactions ∧
            field bytes (128 + transactions.length * 64) (pages.length * 64) =
              encodePages pages) ∧
            field bytes length 8 = FOOTER_MAGIC ∧
              field bytes (length + 8) 8 =
                bigEndian 8 (checksumV1 (field bytes 0 (length + 8))).val := by
  have eight : FOOTER_MAGIC.length = 8 := rfl
  have entries := length_encodeTransactions transactions
  have pageEntries := length_encodePages pages
  have wide : header.toList.length = 128 := Vector.length_toList
  have tables : (encodeTransactions transactions ++ encodePages pages).length =
      transactions.length * 64 + pages.length * 64 := by
    rw [List.length_append, entries, pageEntries]
  have contents :
      (header.toList ++ (encodeTransactions transactions ++ encodePages pages)).length =
      length := by
    rw [List.length_append, wide, tables]
    omega
  by_cases exact : bytes.length = length + 16
  · rw [eq_withFooter_iff eight (by omega), field_eq_append_iff (by omega),
      front_eq_iff_agree headerFields wide (by omega), Nat.zero_add, wide,
      field_eq_append_iff (by omega), entries, pageEntries, contents]
    simp only [exact, true_and, and_assoc]
  · constructor
    · intro sealed
      rw [sealed, length_withFooter eight, contents] at exact
      exact absurd rfl exact
    · rintro ⟨same, _⟩
      exact absurd same exact

section Decoded

variable {usizeMax : Nat} {bytes : List UInt8}

theorem transactions_yields_iff (held : bytes.length ≤ usizeMax) {count : Nat}
    (fits : 128 + (0 + count) * 64 ≤ bytes.length)
    (transactions : List RestartCheckpointBaselineEntryObservation) :
    Yields (readTable usizeMax 128 64 (decodeTransactionEntry entryErrors usizeMax bytes)
      0 count) transactions ↔
      transactions.length = count ∧
        field bytes (128 + 0 * 64) (count * 64) = encodeTransactions transactions := by
  apply readTable_yields_iff length_encodeTransactionEntry _ held transactions fits
  intro offset index entry inside
  exact decodeTransactionEntry_yields_iff entryErrors index inside held entry

theorem pages_yields_iff (held : bytes.length ≤ usizeMax) {start count : Nat}
    (fits : start + (0 + count) * 64 ≤ bytes.length)
    (pages : List RestartCheckpointCompletenessBaselinePageObservation) :
    Yields (readTable usizeMax start 64 (decodePageEntry usizeMax bytes) 0 count) pages ↔
      pages.length = count ∧ field bytes (start + 0 * 64) (count * 64) =
        encodePages pages := by
  apply readTable_yields_iff length_encodePageEntry _ held pages fits
  intro offset index entry inside
  exact decodePageEntry_yields_iff index inside held entry

theorem decode_yields_iff (held : bytes.length ≤ usizeMax)
    (observation : RestartCheckpointCompletenessBaselineObservation) :
    Yields (decodeRestartCheckpointCompletenessBaseline usizeMax bytes) observation ↔
      encodeFields usizeMax observation = .ok bytes := by
  rw [encodeFields_ok_iff]
  by_cases short : bytes.length < 128
  · constructor
    · intro decoded
      simp only [decodeRestartCheckpointCompletenessBaseline, yields_bind_iff,
        yields_refuseIf_iff] at decoded
      rcases decoded with ⟨_, enough, _⟩
      exact absurd short enough
    · rintro ⟨_, _, _, _, _, _, _, encoded⟩
      rcases (eq_encoded_iff rfl).mp encoded with ⟨length, _⟩
      omega
  · simp (disch := omega) only [decodeRestartCheckpointCompletenessBaseline, copyMagic_eq,
      readUint_eq, byteAt_eq, slice_eq, pure_bind, yields_bind_iff, yields_refuseIf_iff,
      yields_ofResult_iff, yields_pure_iff, okOr_ok_iff, expectedLength_eq_some,
      decodeOptional_ok_iff, checkReservedBytes_yields_iff, length_field,
      headD_field_eq_iff, Decidable.not_not, decodeReplay_yields_iff, exists_const,
      yields_mul_iff, yields_add_iff, field_eq_bigEndian_iff]
    constructor
    · rintro ⟨_, magic, version, headerLength, transactionLength, pageLength,
        footerLength, _, _,
        _, ⟨expectedFits, rfl⟩, _, envelope, reservedA, reservedB, reservedC, frontier,
        ⟨presence, frontierValue⟩, replay, ⟨kindCode, frontierPresence, positionPresence,
        discriminant, replayFrontier, position, pageNumber, epoch, sequence⟩,
          transactions, table, _,
        ⟨_, rfl⟩, _, ⟨_, rfl⟩, pages, pageTable, rfl⟩
      rw [checkEnvelope_yields_iff held] at envelope
      rcases envelope with ⟨declared, length, footerMagic, checksum⟩
      rw [transactions_yields_iff held (by omega)] at table
      rw [pages_yields_iff held (by omega)] at pageTable
      refine ⟨_, _, _, table.1.symm, pageTable.1.symm, declared, by omega, ?_⟩
      rw [eq_encoded_iff (by rw [table.1, pageTable.1]), encodeHeader_agrees, table.1,
        pageTable.1]
      simp (disch := omega) only [field_eq_bigEndian_iff] at checksum ⊢
      exact ⟨length,
        ⟨magic, version, headerLength, transactionLength, pageLength, footerLength,
        reservedA, trivial, frontierValue, presence, reservedB, trivial, trivial,
          trivial, kindCode,
        frontierPresence, positionPresence, discriminant, reservedC,
          replayFrontier, position,
        pageNumber, epoch, sequence⟩, ⟨table.2, pageTable.2⟩, footerMagic, checksum⟩
    · rintro ⟨count, paged, total, counted, pagesCounted, totalEq, totalFits, encoded⟩
      rw [eq_encoded_iff (by rw [← counted, ← pagesCounted]), encodeHeader_agrees]
        at encoded
      simp (disch := omega) only [field_eq_bigEndian_iff] at encoded
      rcases encoded with
        ⟨length, ⟨magic, version, headerLength, transactionLength, pageLength,
         footerLength, reservedA, logId, frontierValue, presence, reservedB, rfl, rfl,
         rfl, kindCode, frontierPresence, positionPresence, discriminant, reservedC,
         replayFrontier, position, pageNumber, epoch, sequence⟩, ⟨table, pageTable⟩,
         footerMagic, checksum⟩
      rw [← counted] at table pageTable
      rw [← pagesCounted] at pageTable
      refine ⟨short, magic, version, headerLength, transactionLength, pageLength,
        footerLength,
        by omega, by omega, _, ⟨?_, rfl⟩, (), ?_, reservedA, reservedB, reservedC, _,
        ⟨presence, frontierValue⟩, observation.replay, ⟨kindCode, frontierPresence,
        positionPresence, discriminant, replayFrontier, position, pageNumber,
          epoch, sequence⟩,
        observation.transactions.transactions, ?_, _, ⟨by omega, rfl⟩, _, ⟨by omega, rfl⟩,
        observation.pages, ?_, by rw [logId]⟩
      · have bound := (uintOf 64 (field bytes 72 8)).isLt
        rw [u64Max]
        omega
      · rw [checkEnvelope_yields_iff held]
        simp (disch := omega) only [field_eq_bigEndian_iff]
        exact ⟨totalEq, length, footerMagic, checksum⟩
      · rw [transactions_yields_iff held (by omega)]
        exact ⟨counted.symm, table⟩
      · rw [pages_yields_iff held (by omega)]
        exact ⟨pagesCounted.symm, pageTable⟩

theorem decode_total (held : bytes.length ≤ usizeMax) :
    Total (decodeRestartCheckpointCompletenessBaseline usizeMax bytes) := by
  rw [decodeRestartCheckpointCompletenessBaseline]
  apply total_bind (total_refuseIf _ _)
  intro _ long
  rw [yields_refuseIf_iff] at long
  simp (disch := omega) only [copyMagic_eq, readUint_eq, byteAt_eq, slice_eq, pure_bind]
  iterate 8
    apply total_bind (total_refuseIf _ _)
    intro _ _
  apply total_bind (total_ofResult _)
  intro expected computed
  rw [yields_ofResult_iff, okOr_ok_iff, expectedLength_eq_some] at computed
  rcases computed with ⟨_, rfl⟩
  apply total_bind (checkEnvelope_total held _)
  intro _ envelope
  rw [checkEnvelope_yields_iff held] at envelope
  have length := envelope.2.1
  have reserved : ∀ start count, start + count ≤ 128 →
      Total (Checkpoint.checkReservedBytes usizeMax
        RestartCheckpointCompletenessBaselineDecodeError.reservedByteNonZero start 0
        (field bytes start count)) := by
    intro start count inside
    apply checkReservedBytes_total
    rw [length_field (by omega)]
    omega
  apply total_bind (reserved 18 6 (by omega))
  intro _ _
  apply total_bind (reserved 49 7 (by omega))
  intro _ _
  apply total_bind (reserved 84 4 (by omega))
  intro _ _
  apply total_bind (total_ofResult _)
  intro durableFrontier _
  apply total_bind (decodeReplay_total (by omega) held)
  intro replay _
  apply total_bind
  · apply readTable_total held
    · intro offset index inside
      exact decodeTransactionEntry_total entryErrors index inside held
    · omega
  intro transactions _
  rw [mul_eq (by omega), pure_bind, add_eq (by omega), pure_bind]
  apply total_bind
  · apply readTable_total held
    · intro offset index inside
      exact decodePageEntry_total index inside held
    · omega
  intro pages _
  exact total_pure _

end Decoded

end Ntsql.Storage.RestartCheckpointCompleteness
