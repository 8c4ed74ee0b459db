import Ntsql.Storage.CheckpointEntry

/-! # Pages and replay starts in encoded checkpoints

A page entry and a replay start have fields that only some of their kinds use.
Those a kind does not use are zero, and decoding refuses anything else. -/

namespace Ntsql.Storage.RestartCheckpointCompleteness

open Bytes Checked Checkpoint Transaction

def PAGE_STATE_NO_REQUIRED_IMAGE : UInt8 := 0

def PAGE_STATE_STORE_MISSING : UInt8 := 1

def PAGE_STATE_STORE_CURRENT : UInt8 := 2

def PAGE_STATE_STORE_BEHIND : UInt8 := 3

def REQUIRED_IMAGE_KIND_RAW : UInt8 := 0

def REQUIRED_IMAGE_KIND_COMMITTED_TRANSACTION : UInt8 := 1

def REPLAY_KIND_AFTER_FRONTIER : UInt8 := 0

def REPLAY_KIND_AT_POSITION : UInt8 := 1

def REPLAY_CAUSE_ABSENT : UInt8 := 0

def REPLAY_CAUSE_STORE_MISSING_PAGE : UInt8 := 1

def REPLAY_CAUSE_STORE_BEHIND_PAGE : UInt8 := 2

def REPLAY_CAUSE_UNCOMMITTED_TRANSACTION : UInt8 := 3

inductive RequiredImageField where
  | pagePosition
  | epoch
  | sequence
  | commitPosition
deriving DecidableEq

inductive ReplayCauseField where
  | pageNumber
  | epoch
  | sequence
deriving DecidableEq

inductive RestartCheckpointCompletenessBaselineDecodeError where
  | truncated (expectedLength actualLength : Nat)
  | headerMagicMismatch (actual : List UInt8)
  | unsupportedVersion (actual : U16)
  | headerLengthMismatch (actual : U16)
  | transactionEntryLengthMismatch (actual : U16)
  | pageEntryLengthMismatch (actual : U16)
  | footerLengthMismatch (actual : U16)
  | transactionCountOutOfRange (transactionCount : U64)
  | pageCountOutOfRange (pageCount : U64)
  | encodedLengthOverflow (transactionCount pageCount : U64)
  | totalLengthOutOfRange (totalLength : Nat)
  | declaredLengthMismatch (declared : U64) (expected : Nat)
  | trailingBytes (expectedLength actualLength : Nat)
  | footerMagicMismatch (actual : List UInt8)
  | checksumMismatch (expected actual : U64)
  | frontierPresenceInvalid (actual : UInt8)
  | absentFrontierValueNonZero (actual : U64)
  | reservedByteNonZero (offset : Nat) (actual : UInt8)
  | entryStateInvalid (transactionIndex : Nat) (actual : UInt8)
  | entryPositionPresenceInvalid (transactionIndex : Nat)
      (field : RestartCheckpointBaselineEntryOptionalField) (actual : UInt8)
  | absentEntryPositionValueNonZero (transactionIndex : Nat)
      (field : RestartCheckpointBaselineEntryOptionalField) (actual : U64)
  | uncommittedPositionValueNonZero (transactionIndex : Nat) (actual : U64)
  | pageStateInvalid (pageIndex : Nat) (actual : UInt8)
  | requiredImagePresenceInvalid (pageIndex : Nat) (actual : UInt8)
  | requiredImageKindInvalid (pageIndex : Nat) (actual : UInt8)
  | requiredImageKindNonZeroWhenAbsent (pageIndex : Nat) (actual : UInt8)
  | absentRequiredImagePayloadNonZero (pageIndex : Nat) (field : RequiredImageField)
      (actual : U64)
  | rawRequiredImagePayloadNonZero (pageIndex : Nat) (field : RequiredImageField)
      (actual : U64)
  | storedPositionPresenceInvalid (pageIndex : Nat) (actual : UInt8)
  | absentStoredPositionValueNonZero (pageIndex : Nat) (actual : U64)
  | replayKindInvalid (actual : UInt8)
  | replayFrontierPresenceInvalid (actual : UInt8)
  | absentReplayFrontierValueNonZero (actual : U64)
  | replayPositionPresenceInvalid (actual : UInt8)
  | absentReplayPositionValueNonZero (actual : U64)
  | replayCauseDiscriminantInvalid (actual : UInt8)
  | replayCauseFieldNonZero (field : ReplayCauseField) (actual : U64)
deriving DecidableEq

/-! ## Page entries -/

def pageStateCode :
    RestartCheckpointCompletenessBaselinePageStateObservation → UInt8
  | .noRequiredImage => PAGE_STATE_NO_REQUIRED_IMAGE
  | .storeMissing => PAGE_STATE_STORE_MISSING
  | .storeCurrent => PAGE_STATE_STORE_CURRENT
  | .storeBehind => PAGE_STATE_STORE_BEHIND

def decodePageState (pageIndex : Nat) (code : UInt8) :
    Except RestartCheckpointCompletenessBaselineDecodeError
      RestartCheckpointCompletenessBaselinePageStateObservation :=
  if code = PAGE_STATE_NO_REQUIRED_IMAGE then .ok .noRequiredImage
  else if code = PAGE_STATE_STORE_MISSING then .ok .storeMissing
  else if code = PAGE_STATE_STORE_CURRENT then .ok .storeCurrent
  else if code = PAGE_STATE_STORE_BEHIND then .ok .storeBehind
  else .error (.pageStateInvalid pageIndex code)

theorem decodePageState_ok_iff (pageIndex : Nat) (code : UInt8)
    (state : RestartCheckpointCompletenessBaselinePageStateObservation) :
    decodePageState pageIndex code = .ok state ↔ code = pageStateCode state := by
  constructor
  · intro decoded
    simp only [decodePageState] at decoded
    split at decoded
    · cases decoded
      assumption
    · split at decoded
      · cases decoded
        assumption
      · split at decoded
        · cases decoded
          assumption
        · split at decoded
          · cases decoded
            assumption
          · cases decoded
  · rintro rfl
    cases state <;> rfl

/-- Refuse the first of the fields that is not zero. -/
def rejectNonZero {ε ι : Type} (nonzero : ι → U64 → ε) (fields : List (ι × U64)) :
    Except ε Unit :=
  fields.forM fun field => rejectIf (field.2 ≠ 0) (nonzero field.1 field.2)

theorem rejectNonZero_ok_iff {ε ι : Type} (nonzero : ι → U64 → ε)
    (fields : List (ι × U64)) (value : Unit) :
    rejectNonZero nonzero fields = .ok value ↔ ∀ field ∈ fields, field.2 = 0 := by
  simp [rejectNonZero, Except.forM_ok_iff]

def writeRequiredImage (bytes : Bytes 64) :
    Option RestartCheckpointCompletenessBaselineRequiredImageObservation → Bytes 64
  | some (.raw pagePosition) =>
      let bytes := bytes.copyFromSlice 9 [PRESENT]
      let bytes := bytes.copyFromSlice 10 [REQUIRED_IMAGE_KIND_RAW]
      bytes.writeU64 16 pagePosition
  | some (.committedTransaction epoch sequence pagePosition commitPosition) =>
      let bytes := bytes.copyFromSlice 9 [PRESENT]
      let bytes := bytes.copyFromSlice 10 [REQUIRED_IMAGE_KIND_COMMITTED_TRANSACTION]
      let bytes := bytes.writeU64 16 pagePosition
      let bytes := bytes.writeU64 24 epoch
      let bytes := bytes.writeU64 32 sequence
      bytes.writeU64 40 commitPosition
  | none => bytes.copyFromSlice 9 [ABSENT]

def decodeRequiredImage (pageIndex : Nat) (presence kind : UInt8)
    (pagePosition epoch sequence commitPosition : U64) :
    Except RestartCheckpointCompletenessBaselineDecodeError
      (Option RestartCheckpointCompletenessBaselineRequiredImageObservation) :=
  if presence = ABSENT then do
    rejectIf (kind ≠ 0) (.requiredImageKindNonZeroWhenAbsent pageIndex kind)
    rejectNonZero (.absentRequiredImagePayloadNonZero pageIndex)
      [(.pagePosition, pagePosition),
        (.epoch, epoch), (.sequence, sequence), (.commitPosition, commitPosition)]
    return none
  else if presence = PRESENT then
    if kind = REQUIRED_IMAGE_KIND_RAW then do
      rejectNonZero (.rawRequiredImagePayloadNonZero pageIndex) [(.epoch, epoch),
        (.sequence, sequence), (.commitPosition, commitPosition)]
      return some (.raw pagePosition)
    else if kind = REQUIRED_IMAGE_KIND_COMMITTED_TRANSACTION then
      .ok (some (.committedTransaction epoch sequence pagePosition commitPosition))
    else
      .error (.requiredImageKindInvalid pageIndex kind)
  else
    .error (.requiredImagePresenceInvalid pageIndex presence)

/-- What is written of a required image; a field that it does not have is zero. -/
structure RequiredImageFields where
  presence : UInt8
  kind : UInt8
  pagePosition : U64
  epoch : U64
  sequence : U64
  commitPosition : U64
deriving DecidableEq

def requiredImageFields :
    Option RestartCheckpointCompletenessBaselineRequiredImageObservation →
      RequiredImageFields
  | none => ⟨ABSENT, 0, 0, 0, 0, 0⟩
  | some (.raw pagePosition) => ⟨PRESENT, REQUIRED_IMAGE_KIND_RAW, pagePosition, 0, 0, 0⟩
  | some (.committedTransaction epoch sequence pagePosition commitPosition) =>
      ⟨PRESENT, REQUIRED_IMAGE_KIND_COMMITTED_TRANSACTION, pagePosition, epoch, sequence,
        commitPosition⟩

theorem decodeRequiredImage_ok_iff (pageIndex : Nat) (presence kind : UInt8)
    (pagePosition epoch sequence commitPosition : U64)
    (image : Option RestartCheckpointCompletenessBaselineRequiredImageObservation) :
    decodeRequiredImage pageIndex presence kind pagePosition epoch sequence
      commitPosition = .ok image ↔
      presence = (requiredImageFields image).presence ∧
        kind = (requiredImageFields image).kind ∧
        pagePosition = (requiredImageFields image).pagePosition ∧
          epoch = (requiredImageFields image).epoch ∧
            sequence = (requiredImageFields image).sequence ∧
              commitPosition = (requiredImageFields image).commitPosition := by
  constructor
  · intro decoded
    rw [decodeRequiredImage] at decoded
    split at decoded
    case isTrue absent =>
      simp only [Except.bind_ok_iff, rejectIf_ok_iff, rejectNonZero_ok_iff,
        Except.pure_ok_iff, List.forall_mem_cons, Decidable.not_not] at decoded
      rcases decoded with
        ⟨_, zeroKind, _, ⟨zeroPosition, zeroEpoch, zeroSequence, zeroCommit, _⟩, rfl⟩
      exact ⟨absent, zeroKind, zeroPosition, zeroEpoch, zeroSequence, zeroCommit⟩
    case isFalse =>
      split at decoded
      case isTrue present =>
        split at decoded
        case isTrue raw =>
          simp only [Except.bind_ok_iff, rejectNonZero_ok_iff, Except.pure_ok_iff,
            List.forall_mem_cons] at decoded
          rcases decoded with ⟨_, ⟨zeroEpoch, zeroSequence, zeroCommit, _⟩, rfl⟩
          exact ⟨present, raw, rfl, zeroEpoch, zeroSequence, zeroCommit⟩
        case isFalse =>
          split at decoded
          case isTrue committed =>
            cases decoded
            exact ⟨present, committed, rfl, rfl, rfl, rfl⟩
          case isFalse => cases decoded
      case isFalse => cases decoded
  · rintro ⟨rfl, rfl, rfl, rfl, rfl, rfl⟩
    cases image with
    | none => rfl
    | some required => cases required <;> rfl

def encodePageEntry
    (entry : RestartCheckpointCompletenessBaselinePageObservation) : Bytes 64 :=
  let bytes := Bytes.zero 64
  let bytes := bytes.writeU64 0 entry.pageNumber
  let bytes := bytes.copyFromSlice 8 [pageStateCode entry.state]
  let bytes := writeRequiredImage bytes entry.requiredImage
  writeOptionalU64 bytes 48 11 entry.storedPosition

def decodePageEntry (usizeMax : Nat) (bytes : List UInt8) (entryOffset pageIndex : Nat) :
    Checked RestartCheckpointCompletenessBaselineDecodeError
      RestartCheckpointCompletenessBaselinePageObservation := do
  let stop ← add usizeMax entryOffset 64
  let entry ← slice bytes entryOffset stop
  let reservedStart ← add usizeMax entryOffset 12
  Checkpoint.checkReservedBytes usizeMax .reservedByteNonZero reservedStart 0
    (← slice entry 12 16)
  let reservedStart ← add usizeMax entryOffset 56
  Checkpoint.checkReservedBytes usizeMax .reservedByteNonZero reservedStart 0
    (← slice entry 56 64)
  let state ← ofResult (decodePageState pageIndex (← byteAt entry 8))
  let pagePosition ← readUint usizeMax 64 8 entry 16
  let epoch ← readUint usizeMax 64 8 entry 24
  let sequence ← readUint usizeMax 64 8 entry 32
  let commitPosition ← readUint usizeMax 64 8 entry 40
  let kind ← byteAt entry 10
  let requiredImage ← ofResult
    (decodeRequiredImage pageIndex (← byteAt entry 9) kind pagePosition
    epoch sequence commitPosition)
  let storedPosition ← ofResult (decodeOptional (.storedPositionPresenceInvalid pageIndex)
    (.absentStoredPositionValueNonZero pageIndex) (← byteAt entry 11)
    (← readUint usizeMax 64 8 entry 48))
  let pageNumber ← readUint usizeMax 64 8 entry 0
  return { pageNumber, state, requiredImage, storedPosition }

theorem length_encodePageEntry
    (entry : RestartCheckpointCompletenessBaselinePageObservation) :
    (encodePageEntry entry).toList.length = 64 := Vector.length_toList

def pageEntryFields : List Nat := [8, 1, 1, 1, 1, 4, 8, 8, 8, 8, 8, 8]

section PageLayout

variable (entry : RestartCheckpointCompletenessBaselinePageObservation)

attribute [local simp] encodePageEntry writeU64 slice_copyFromSlice_of_disjoint
  slice_writeOptionalU64_of_disjoint slice_writeOptionalU64_value
    slice_writeOptionalU64_presence
  writeRequiredImage requiredImageFields slice_zero bigEndian_zero

theorem encodePageEntry_agrees (bytes : List UInt8) :
    Agree bytes (encodePageEntry entry).toList 0 pageEntryFields ↔
      field bytes 0 8 = bigEndian 8 entry.pageNumber.val ∧
      field bytes 8 1 = [pageStateCode entry.state] ∧
      field bytes 9 1 = [(requiredImageFields entry.requiredImage).presence] ∧
      field bytes 10 1 = [(requiredImageFields entry.requiredImage).kind] ∧
      field bytes 11 1 = [presenceOf entry.storedPosition] ∧
      field bytes 12 4 = List.replicate 4 0 ∧
      field bytes 16 8 =
        bigEndian 8 (requiredImageFields entry.requiredImage).pagePosition.val ∧
      field bytes 24 8 = bigEndian 8 (requiredImageFields entry.requiredImage).epoch.val ∧
      field bytes 32 8 =
        bigEndian 8 (requiredImageFields entry.requiredImage).sequence.val ∧
      field bytes 40 8 =
        bigEndian 8 (requiredImageFields entry.requiredImage).commitPosition.val ∧
      field bytes 48 8 = bigEndian 8 (entry.storedPosition.getD 0).val ∧
      field bytes 56 8 = List.replicate 8 0 := by
  rcases entry with ⟨pageNumber, state, requiredImage, storedPosition⟩
  cases requiredImage with
  | none => simp [Agree, pageEntryFields, field_toList]
  | some required => cases required <;> simp [Agree, pageEntryFields, field_toList]

end PageLayout

section PageDecoded

variable {usizeMax : Nat} {bytes : List UInt8} {entryOffset : Nat} (pageIndex : Nat)

theorem decodePageEntry_yields_iff (fits : entryOffset + 64 ≤ bytes.length)
    (held : bytes.length ≤ usizeMax)
    (entry : RestartCheckpointCompletenessBaselinePageObservation) :
    Yields (decodePageEntry usizeMax bytes entryOffset pageIndex) entry ↔
      field bytes entryOffset 64 = (encodePageEntry entry).toList := by
  have length := length_field fits
  rw [eq_iff_agree pageEntryFields length (length_encodePageEntry entry),
    encodePageEntry_agrees, decodePageEntry, add_eq (fits.trans held), pure_bind,
    slice_eq (Nat.le_add_right _ _) fits, pure_bind, Nat.add_sub_cancel_left]
  generalize field bytes entryOffset 64 = read at length ⊢
  simp (disch := omega) only [add_eq, slice_eq, readUint_eq, byteAt_eq, pure_bind,
    yields_bind_iff, checkReservedBytes_yields_iff, yields_ofResult_iff, yields_pure_iff,
    decodeOptional_ok_iff, decodePageState_ok_iff, decodeRequiredImage_ok_iff,
    length_field, headD_field_eq_iff, field_eq_bigEndian_iff]
  constructor
  · rintro ⟨_, reservedA, _, reservedB, state, stateCode, image,
      ⟨imagePresence, imageKind, pagePosition, epoch, sequence, commitPosition⟩, stored,
      ⟨presence, position⟩, rfl⟩
    exact ⟨rfl, stateCode, imagePresence, imageKind, presence, reservedA,
      pagePosition, epoch, sequence, commitPosition, position, reservedB⟩
  · rintro ⟨number, stateCode, imagePresence, imageKind, presence, reservedA,
      pagePosition, epoch, sequence, commitPosition, position, reservedB⟩
    refine ⟨(), reservedA, (), reservedB, _, stateCode, _,
      ⟨imagePresence, imageKind, pagePosition, epoch, sequence, commitPosition⟩, _,
      ⟨presence, position⟩, ?_⟩
    rw [number]

theorem decodePageEntry_total (fits : entryOffset + 64 ≤ bytes.length)
    (held : bytes.length ≤ usizeMax) :
    Total (decodePageEntry usizeMax bytes entryOffset pageIndex) := by
  have length := length_field fits
  rw [decodePageEntry, add_eq (fits.trans held), pure_bind,
    slice_eq (Nat.le_add_right _ _) fits, pure_bind, Nat.add_sub_cancel_left]
  generalize field bytes entryOffset 64 = read at length ⊢
  simp (disch := omega) only [add_eq, slice_eq, readUint_eq, byteAt_eq, pure_bind]
  apply total_bind
  · apply checkReservedBytes_total
    rw [length_field (by omega)]
    omega
  intro _ _
  apply total_bind
  · apply checkReservedBytes_total
    rw [length_field (by omega)]
    omega
  intro _ _
  apply total_bind (total_ofResult _)
  intro state _
  apply total_bind (total_ofResult _)
  intro requiredImage _
  apply total_bind (total_ofResult _)
  intro storedPosition _
  exact total_pure _

end PageDecoded

/-! ## Replay starts -/

def replayKindCode : RestartCheckpointCompletenessBaselineReplayKindObservation → UInt8
  | .afterFrontier => REPLAY_KIND_AFTER_FRONTIER
  | .atPosition => REPLAY_KIND_AT_POSITION

def decodeReplayKind (code : UInt8) :
    Except RestartCheckpointCompletenessBaselineDecodeError
      RestartCheckpointCompletenessBaselineReplayKindObservation :=
  if code = REPLAY_KIND_AFTER_FRONTIER then .ok .afterFrontier
  else if code = REPLAY_KIND_AT_POSITION then .ok .atPosition
  else .error (.replayKindInvalid code)

theorem decodeReplayKind_ok_iff (code : UInt8)
    (kind : RestartCheckpointCompletenessBaselineReplayKindObservation) :
    decodeReplayKind code = .ok kind ↔ code = replayKindCode kind := by
  constructor
  · intro decoded
    rw [decodeReplayKind] at decoded
    split at decoded
    · cases decoded
      assumption
    · split at decoded
      · cases decoded
        assumption
      · cases decoded
  · rintro rfl
    cases kind <;> rfl

def writeReplayCause (header : Bytes 128) :
    Option RestartCheckpointCompletenessBaselineReplayCauseObservation → Bytes 128
  | some (.storeMissingPage pageNumber) =>
      (header.copyFromSlice 83 [REPLAY_CAUSE_STORE_MISSING_PAGE]).writeU64 104 pageNumber
  | some (.storeBehindPage pageNumber) =>
      (header.copyFromSlice 83 [REPLAY_CAUSE_STORE_BEHIND_PAGE]).writeU64 104 pageNumber
  | some (.uncommittedTransaction epoch sequence) =>
      let header := header.copyFromSlice 83 [REPLAY_CAUSE_UNCOMMITTED_TRANSACTION]
      let header := header.writeU64 112 epoch
      header.writeU64 120 sequence
  | none => header.copyFromSlice 83 [REPLAY_CAUSE_ABSENT]

def decodeReplayCause (discriminant : UInt8) (pageNumber epoch sequence : U64) :
    Except RestartCheckpointCompletenessBaselineDecodeError
      (Option RestartCheckpointCompletenessBaselineReplayCauseObservation) :=
  if discriminant = REPLAY_CAUSE_ABSENT then do
    rejectNonZero .replayCauseFieldNonZero [(.pageNumber, pageNumber), (.epoch, epoch),
      (.sequence, sequence)]
    return none
  else if discriminant = REPLAY_CAUSE_STORE_MISSING_PAGE then do
    rejectNonZero .replayCauseFieldNonZero [(.epoch, epoch), (.sequence, sequence)]
    return some (.storeMissingPage pageNumber)
  else if discriminant = REPLAY_CAUSE_STORE_BEHIND_PAGE then do
    rejectNonZero .replayCauseFieldNonZero [(.epoch, epoch), (.sequence, sequence)]
    return some (.storeBehindPage pageNumber)
  else if discriminant = REPLAY_CAUSE_UNCOMMITTED_TRANSACTION then do
    rejectIf (pageNumber ≠ 0) (.replayCauseFieldNonZero .pageNumber pageNumber)
    return some (.uncommittedTransaction epoch sequence)
  else
    .error (.replayCauseDiscriminantInvalid discriminant)

/-- What is written of a cause; a field that it does not have is zero. -/
structure ReplayCauseFields where
  discriminant : UInt8
  pageNumber : U64
  epoch : U64
  sequence : U64
deriving DecidableEq

def replayCauseFields :
    Option RestartCheckpointCompletenessBaselineReplayCauseObservation → ReplayCauseFields
  | none => ⟨REPLAY_CAUSE_ABSENT, 0, 0, 0⟩
  | some (.storeMissingPage pageNumber) =>
      ⟨REPLAY_CAUSE_STORE_MISSING_PAGE, pageNumber, 0, 0⟩
  | some (.storeBehindPage pageNumber) =>
      ⟨REPLAY_CAUSE_STORE_BEHIND_PAGE, pageNumber, 0, 0⟩
  | some (.uncommittedTransaction epoch sequence) =>
      ⟨REPLAY_CAUSE_UNCOMMITTED_TRANSACTION, 0, epoch, sequence⟩

theorem decodeReplayCause_ok_iff (discriminant : UInt8) (pageNumber epoch sequence : U64)
    (cause : Option RestartCheckpointCompletenessBaselineReplayCauseObservation) :
    decodeReplayCause discriminant pageNumber epoch sequence = .ok cause ↔
      discriminant = (replayCauseFields cause).discriminant ∧
        pageNumber = (replayCauseFields cause).pageNumber ∧
          epoch = (replayCauseFields cause).epoch ∧
            sequence = (replayCauseFields cause).sequence := by
  constructor
  · intro decoded
    rw [decodeReplayCause] at decoded
    split at decoded
    case isTrue absent =>
      simp only [Except.bind_ok_iff, rejectNonZero_ok_iff, Except.pure_ok_iff,
        List.forall_mem_cons] at decoded
      rcases decoded with ⟨_, ⟨zeroPage, zeroEpoch, zeroSequence, _⟩, rfl⟩
      exact ⟨absent, zeroPage, zeroEpoch, zeroSequence⟩
    case isFalse =>
      split at decoded
      case isTrue missing =>
        simp only [Except.bind_ok_iff, rejectNonZero_ok_iff, Except.pure_ok_iff,
          List.forall_mem_cons] at decoded
        rcases decoded with ⟨_, ⟨zeroEpoch, zeroSequence, _⟩, rfl⟩
        exact ⟨missing, rfl, zeroEpoch, zeroSequence⟩
      case isFalse =>
        split at decoded
        case isTrue behind =>
          simp only [Except.bind_ok_iff, rejectNonZero_ok_iff, Except.pure_ok_iff,
            List.forall_mem_cons] at decoded
          rcases decoded with ⟨_, ⟨zeroEpoch, zeroSequence, _⟩, rfl⟩
          exact ⟨behind, rfl, zeroEpoch, zeroSequence⟩
        case isFalse =>
          split at decoded
          case isTrue uncommitted =>
            simp only [Except.bind_ok_iff, rejectIf_ok_iff, Except.pure_ok_iff,
              Decidable.not_not] at decoded
            rcases decoded with ⟨_, zeroPage, rfl⟩
            exact ⟨uncommitted, zeroPage, rfl, rfl⟩
          case isFalse => cases decoded
  · rintro ⟨rfl, rfl, rfl, rfl⟩
    cases cause with
    | none => rfl
    | some cause => cases cause <;> rfl

def writeReplay (header : Bytes 128)
    (replay : RestartCheckpointCompletenessBaselineReplayObservation) : Bytes 128 :=
  let header := header.copyFromSlice 80 [replayKindCode replay.kind]
  let header := writeOptionalU64 header 88 81 replay.frontier
  let header := writeOptionalU64 header 96 82 replay.position
  writeReplayCause header replay.cause

def decodeReplay (usizeMax : Nat) (bytes : List UInt8) :
    Checked RestartCheckpointCompletenessBaselineDecodeError
      RestartCheckpointCompletenessBaselineReplayObservation := do
  let kind ← ofResult (decodeReplayKind (← byteAt bytes 80))
  let frontierValue ← readUint usizeMax 64 8 bytes 88
  let frontier ← ofResult (decodeOptional .replayFrontierPresenceInvalid
    .absentReplayFrontierValueNonZero (← byteAt bytes 81) frontierValue)
  let positionValue ← readUint usizeMax 64 8 bytes 96
  let position ← ofResult (decodeOptional .replayPositionPresenceInvalid
    .absentReplayPositionValueNonZero (← byteAt bytes 82) positionValue)
  let causePageNumber ← readUint usizeMax 64 8 bytes 104
  let causeEpoch ← readUint usizeMax 64 8 bytes 112
  let causeSequence ← readUint usizeMax 64 8 bytes 120
  let cause ← ofResult (decodeReplayCause (← byteAt bytes 83) causePageNumber causeEpoch
    causeSequence)
  return { kind, frontier, position, cause }

section ReplayDecoded

variable {usizeMax : Nat} {bytes : List UInt8}

theorem decodeReplay_yields_iff (fits : 128 ≤ bytes.length)
    (held : bytes.length ≤ usizeMax)
    (replay : RestartCheckpointCompletenessBaselineReplayObservation) :
    Yields (decodeReplay usizeMax bytes) replay ↔
      field bytes 80 1 = [replayKindCode replay.kind] ∧
      field bytes 81 1 = [presenceOf replay.frontier] ∧
      field bytes 82 1 = [presenceOf replay.position] ∧
      field bytes 83 1 = [(replayCauseFields replay.cause).discriminant] ∧
      field bytes 88 8 = bigEndian 8 (replay.frontier.getD 0).val ∧
      field bytes 96 8 = bigEndian 8 (replay.position.getD 0).val ∧
      field bytes 104 8 = bigEndian 8 (replayCauseFields replay.cause).pageNumber.val ∧
      field bytes 112 8 = bigEndian 8 (replayCauseFields replay.cause).epoch.val ∧
      field bytes 120 8 = bigEndian 8 (replayCauseFields replay.cause).sequence.val := by
  simp (disch := omega) only [decodeReplay, readUint_eq, byteAt_eq, pure_bind,
    yields_bind_iff, yields_ofResult_iff, yields_pure_iff, decodeReplayKind_ok_iff,
    decodeOptional_ok_iff, decodeReplayCause_ok_iff, headD_field_eq_iff,
    field_eq_bigEndian_iff]
  constructor
  · rintro ⟨kind, kindCode, frontier, ⟨frontierPresence, frontierValue⟩, position,
      ⟨positionPresence, positionValue⟩, cause,
        ⟨discriminant, pageNumber, epoch, sequence⟩, rfl⟩
    exact ⟨kindCode, frontierPresence, positionPresence, discriminant, frontierValue,
      positionValue, pageNumber, epoch, sequence⟩
  · rintro ⟨kindCode, frontierPresence, positionPresence, discriminant, frontierValue,
      positionValue, pageNumber, epoch, sequence⟩
    exact ⟨_, kindCode, _, ⟨frontierPresence, frontierValue⟩, _,
      ⟨positionPresence, positionValue⟩,
      _, ⟨discriminant, pageNumber, epoch, sequence⟩, rfl⟩

theorem decodeReplay_total (fits : 128 ≤ bytes.length) (held : bytes.length ≤ usizeMax) :
    Total (decodeReplay usizeMax bytes) := by
  simp (disch := omega) only [decodeReplay, readUint_eq, byteAt_eq, pure_bind]
  apply total_bind (total_ofResult _)
  intro kind _
  apply total_bind (total_ofResult _)
  intro frontier _
  apply total_bind (total_ofResult _)
  intro position _
  apply total_bind (total_ofResult _)
  intro cause _
  exact total_pure _

end ReplayDecoded

end Ntsql.Storage.RestartCheckpointCompleteness
