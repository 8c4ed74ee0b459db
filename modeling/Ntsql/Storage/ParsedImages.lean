import Ntsql.Storage.ChecksumSensitivity
import Ntsql.Storage.LogHeaderRoundTrip
import Ntsql.Storage.LogScan
import Ntsql.Storage.PageStore

/-! # Parsers accept only what their builders produce

Every byte of a frame and of a header is checked or returned, so what a parser
accepts is the image that its builder lays out of what was returned. -/

namespace Ntsql.Storage

open Bytes Checked

/-! ## Frames -/

theorem parseFrameBytes_image {Kind : Type} {magic : Bytes 4}
    {fromU16 : U16 → Option Kind} {version : U16} {frame : Bytes 56} {offset : Nat}
    {decoded : DecodedFrame Kind}
    (parsed : parseFrameBytes magic fromU16 version frame offset = .ok decoded) :
    fromU16 (frame.readU16 4) = some decoded.kind ∧
      decoded.payload2Bytes = Bytes.ofList 8 (bigEndian 8 decoded.payload2.val) ∧
      Sealed frame 48 ∧
      frame = frameBytes magic (frame.readU16 4) version decoded.payload0 decoded.payload1
        decoded.payload2Bytes := by
  simp only [parseFrameBytes, Except.bind_ok_iff, rejectIf_ok_iff, okOr_ok_iff,
    Decidable.not_not, not_or, Bool.not_eq_true, Except.pure_ok_iff] at parsed
  rcases parsed with
    ⟨_, hasMagic, kind, known, _, hasVersion, _, noFlags, _, hasLength, _, ⟨reserved,
     zeros⟩, _, checksum, rfl⟩
  have payload2 : frame.slice 32 8 = bigEndian 8 (frame.readU64 32).val :=
    slice_eq_bigEndian (rfl : 64 = 8 * 8) (by decide)
  refine ⟨known, ?_, checksum, ?_⟩
  · rw [payload2]
  have payloadLength : (frame.slice 32 8).length = 8 := by
    rw [length_slice]
    rfl
  apply Sealed.eq_of_agree checksum (frameBytes_checksum ..)
    [4, 2, 2, 4, 2, 2, 8, 8, 8, 8] rfl rfl
  simp only [Agree, Nat.reduceAdd, Nat.zero_add, field_toList, and_true]
  refine ⟨?_, ?_, ?_, ?_, ?_, ?_, ?_, ?_, ?_, ?_⟩
  · rw [hasMagic, frameBytes_magic]
  · apply slice_eq_of_uintOf_eq (rfl : 16 = 8 * 2) (by decide)
    exact (frameBytes_code ..).symm
  · apply slice_eq_of_uintOf_eq (rfl : 16 = 8 * 2) (by decide)
    exact hasVersion.trans (frameBytes_version ..).symm
  · apply slice_eq_of_uintOf_eq (rfl : 32 = 8 * 4) (by decide)
    exact noFlags.trans (frameBytes_flags ..).symm
  · apply slice_eq_of_uintOf_eq (rfl : 16 = 8 * 2) (by decide)
    exact hasLength.trans (frameBytes_length ..).symm
  · apply slice_eq_of_uintOf_eq (rfl : 16 = 8 * 2) (by decide)
    exact reserved.trans (frameBytes_reserved ..).1.symm
  · apply slice_eq_of_uintOf_eq (rfl : 64 = 8 * 8) (by decide)
    exact (frameBytes_payload0 ..).symm
  · apply slice_eq_of_uintOf_eq (rfl : 64 = 8 * 8) (by decide)
    exact (frameBytes_payload1 ..).symm
  · rw [frameBytes_payload2, toList_ofList payloadLength]
  · rw [slice_eq_replicate (by decide) zeros, slice_eq_replicate (by decide)
      (frameBytes_reserved ..).2]

theorem FrameKind.code_of_fromU16 {format : LogFormat} {value : U16} {kind : FrameKind}
    (known : FrameKind.fromU16 format value = some kind) : kind.code = value := by
  unfold FrameKind.fromU16 at known
  split_ifs at known <;> cases known <;> simp_all [FrameKind.code]

theorem PageStoreFrameKind.code_of_fromU16 {value : U16} {kind : PageStoreFrameKind}
    (known : PageStoreFrameKind.fromU16 value = some kind) : kind.code = value := by
  unfold PageStoreFrameKind.fromU16 at known
  split_ifs at known <;> cases known <;> simp_all [PageStoreFrameKind.code]

theorem parseFrame_image {frame : Bytes 56} {offset : Nat} {format : LogFormat}
    {decoded : DecodedFrame FrameKind}
    (parsed : parseFrame frame offset format = .ok decoded) :
    frame = buildFrame format decoded.kind decoded.payload0 decoded.payload1
      decoded.payload2 := by
  rw [parseFrame, Except.mapError_ok_iff] at parsed
  rcases parseFrameBytes_image parsed with ⟨known, payload2, _, image⟩
  rw [← FrameKind.code_of_fromU16 known, payload2] at image
  exact image

theorem parsePageStoreFrame_image {frame : Bytes 56} {offset : Nat}
    {decoded : DecodedFrame PageStoreFrameKind}
    (parsed : parsePageStoreFrame frame offset = .ok decoded) :
    frame = buildPageStoreFrame decoded.kind decoded.payload0 decoded.payload1
      decoded.payload2 := by
  rcases parseFrameBytes_image parsed with ⟨known, payload2, _, image⟩
  rw [← PageStoreFrameKind.code_of_fromU16 known, payload2] at image
  exact image

/-! ## Child identities -/

theorem encodeRole_of_decodeRole {byte : UInt8} {role : DatabaseFileRole}
    (decoded : ChildIdentity.decodeRole byte = .ok role) :
      ChildIdentity.encodeRole role = byte := by
  unfold ChildIdentity.decodeRole at decoded
  split_ifs at decoded <;> cases decoded <;> simp_all [ChildIdentity.encodeRole]

theorem decodeDatabaseChildIdentity_image {encoded : Bytes 48}
    {identity : DatabaseFileHeaderIdentity}
    (decoded : decodeDatabaseChildIdentity encoded = .ok identity) :
    encoded = encodeDatabaseChildIdentity identity := by
  simp only [decodeDatabaseChildIdentity, Except.bind_ok_iff, rejectIf_ok_iff,
    okOr_ok_iff, Decidable.not_not, checkReservedBytes, Except.forM_ok_iff,
    NonZeroU128.new_eq_some, Except.pure_ok_iff, List.forall_mem_cons, List.not_mem_nil,
    false_imp_iff, implies_true, and_true] at decoded
  rcases decoded with
    ⟨_, hasMagic, _, hasVersion, _, hasLength, role, hasRole, _, ⟨first, second, third⟩,
     databaseId, hasDatabaseId, fileId, hasFileId, rfl⟩
  have reserved := encodeDatabaseChildIdentity_reserved ⟨databaseId, role, fileId⟩
  simp only [checkReservedBytes, Except.forM_ok_iff, rejectIf_ok_iff, Decidable.not_not,
    List.forall_mem_cons, List.not_mem_nil, false_imp_iff, implies_true,
    and_true] at reserved
  rcases reserved with ⟨builtFirst, builtSecond, builtThird⟩
  have covers : [8, 2, 2, 1, 1, 1, 1, 16, 16].sum = 48 := rfl
  apply Bytes.eq_of_agree _ covers
  simp only [Agree, Nat.reduceAdd, Nat.zero_add, field_toList, and_true]
  refine ⟨?_, ?_, ?_, ?_, ?_, ?_, ?_, ?_, ?_⟩
  · rw [hasMagic, encodeDatabaseChildIdentity_magic]
  · apply slice_eq_of_uintOf_eq (rfl : 16 = 8 * 2) (by decide)
    exact hasVersion.trans (encodeDatabaseChildIdentity_version _).symm
  · apply slice_eq_of_uintOf_eq (rfl : 16 = 8 * 2) (by decide)
    exact hasLength.trans (encodeDatabaseChildIdentity_length _).symm
  · rw [slice_one (by decide), slice_one (by decide), encodeDatabaseChildIdentity_role,
      encodeRole_of_decodeRole hasRole]
  · rw [slice_one (by decide), slice_one (by decide), first, builtFirst]
  · rw [slice_one (by decide), slice_one (by decide), second, builtSecond]
  · rw [slice_one (by decide), slice_one (by decide), third, builtThird]
  · apply slice_eq_of_uintOf_eq (rfl : 128 = 8 * 16) (by decide)
    exact hasDatabaseId.symm.trans
      (encodeDatabaseChildIdentity_databaseId ⟨databaseId, role, fileId⟩).symm
  · apply slice_eq_of_uintOf_eq (rfl : 128 = 8 * 16) (by decide)
    exact hasFileId.symm.trans
      (encodeDatabaseChildIdentity_fileId ⟨databaseId, role, fileId⟩).symm

/-! ## What the checks of a header say -/

section Checks

variable {width : Nat} {header left right : Bytes width}

theorem slice_of_checkReserved {start stop : Nat} {value : Unit} (ordered : start ≤ stop)
    (fits : stop ≤ width) (checked : checkReserved header start stop = .ok value) :
    header.slice start (stop - start) = List.replicate (stop - start) 0 := by
  rw [checkReserved, rejectIf_ok_iff, Bool.not_eq_true] at checked
  exact slice_eq_replicate (by omega) checked

theorem sealed_of_checkHeaderChecksum {offset : Nat} {value : Unit}
    (checked : checkHeaderChecksum header offset = .ok value) : Sealed header offset := by
  rw [checkHeaderChecksum, rejectIf_ok_iff, Decidable.not_not] at checked
  exact checked

theorem pageWidth_of_checkPageWidth {layout : PageLayout} {value : Unit}
    (checked : checkPageWidth header layout = .ok value) :
      header.readU64 32 = layout.width := by
  simp only [checkPageWidth, Except.bind_ok_iff, rejectIf_ok_iff, Decidable.not_not]
    at checked
  rcases checked with ⟨_, _, same⟩
  exact same

theorem slice_of_parseChildIdentity {offset : Nat} {identity : DatabaseFileHeaderIdentity}
    (fits : offset + 48 ≤ width)
    (parsed : parseChildIdentity header offset = .ok identity) :
    header.slice offset 48 = (encodeDatabaseChildIdentity identity).toList := by
  have length : (header.slice offset 48).length = 48 := by
    rw [length_slice]
    omega
  rw [parseChildIdentity] at parsed
  split at parsed
  · rename_i decoded
    cases parsed
    rw [← decodeDatabaseChildIdentity_image decoded, toList_ofList length]
  · cases parsed

theorem persistentId_of_parseHeaderStart {magic : Bytes 8} {version headerLength : U16}
    {persistentId : PersistentLogId}
    (start : parseHeaderStart magic version headerLength header = .ok persistentId) :
    persistentId.get = header.readU128 16 := by
  simp only [parseHeaderStart, Except.bind_ok_iff, okOr_ok_iff, NonZeroU128.new_eq_some]
    at start
  rcases start with ⟨_, _, _, _, _, _, _, _, hasId⟩
  exact hasId

theorem parseHeaderStart_front {magic : Bytes 8} {version headerLength : U16}
    {persistentId : PersistentLogId} (fits : 32 ≤ width)
    (leftStart : parseHeaderStart magic version headerLength left = .ok persistentId)
    (rightStart : parseHeaderStart magic version headerLength right = .ok persistentId) :
    left.slice 0 32 = right.slice 0 32 := by
  simp only [parseHeaderStart, Except.bind_ok_iff, rejectIf_ok_iff, okOr_ok_iff,
    Decidable.not_not, NonZeroU128.new_eq_some] at leftStart rightStart
  rcases leftStart with
    ⟨_, leftMagic, _, leftVersion, _, leftLength, _, leftFlags, leftId⟩
  rcases rightStart with
    ⟨_, rightMagic, _, rightVersion, _, rightLength, _, rightFlags, rightId⟩
  have front : [8, 2, 2, 4, 16].sum = 32 := rfl
  rw [← front]
  apply slice_eq_of_agree
  simp only [Agree, Nat.reduceAdd, Nat.zero_add, field_toList, and_true]
  refine ⟨leftMagic.trans rightMagic.symm, ?_, ?_, ?_, ?_⟩
  · exact slice_eq_of_uintOf_eq (rfl : 16 = 8 * 2) (by omega)
      (leftVersion.trans rightVersion.symm)
  · exact slice_eq_of_uintOf_eq (rfl : 16 = 8 * 2) (by omega)
      (leftLength.trans rightLength.symm)
  · exact slice_eq_of_uintOf_eq (rfl : 32 = 8 * 4) (by omega)
      (leftFlags.trans rightFlags.symm)
  · exact slice_eq_of_uintOf_eq (rfl : 128 = 8 * 16) (by omega)
      (leftId.symm.trans rightId)

end Checks

/-! ## Page-store headers -/

section PageStore

variable {layout : PageLayout}

attribute [local simp] buildPageStoreHeader buildPageStoreHeaderV2 readU16 readU32
  readU64 readU128
  writeU16 writeU32 writeU64 writeU128 slice_copyFromSlice_of_disjoint
    uintOf_bigEndian slice_zero

theorem buildPageStoreHeader_start (persistentId : PersistentLogId) (pageWidth : U64) :
    parseHeaderStart PAGE_STORE_HEADER_MAGIC PAGE_STORE_FORMAT_VERSION 64
      (buildPageStoreHeader persistentId pageWidth) = .ok persistentId :=
  parseHeaderStart_ok (by simp) (by simp) (by simp; rfl) (by simp; rfl) (by simp)

theorem buildPageStoreHeader_sealed (persistentId : PersistentLogId) (pageWidth : U64) :
    Sealed (buildPageStoreHeader persistentId pageWidth) 56 := by
  simp [Sealed]

theorem parsePageStoreHeader_image {header : Bytes 64} {persistentId : PersistentLogId}
    (parsed : parsePageStoreHeader header layout = .ok persistentId) :
    Sealed header 56 ∧ header = buildPageStoreHeader persistentId layout.width := by
  simp only [parsePageStoreHeader, Except.bind_ok_iff, Except.pure_ok_iff] at parsed
  rcases parsed with ⟨_, start, _, pageWidth, _, reserved, _, checksum, rfl⟩
  have isSealed := sealed_of_checkHeaderChecksum checksum
  refine ⟨isSealed, ?_⟩
  apply isSealed.eq_of_agree (buildPageStoreHeader_sealed ..) [32, 8, 16] rfl rfl
  simp only [Agree, Nat.reduceAdd, Nat.zero_add, field_toList, and_true]
  refine ⟨parseHeaderStart_front (by decide) start (buildPageStoreHeader_start ..), ?_,
    ?_⟩
  · apply slice_eq_of_uintOf_eq (rfl : 64 = 8 * 8) (by decide)
    refine (pageWidth_of_checkPageWidth pageWidth).trans ?_
    simp
  · refine (slice_of_checkReserved (by decide) (by decide) reserved).trans ?_
    simp

theorem buildPageStoreHeaderV2_start (persistentId : PersistentLogId) (pageWidth : U64)
    (identity : DatabaseFileHeaderIdentity) :
    parseHeaderStart PAGE_STORE_HEADER_MAGIC PAGE_STORE_FORMAT_VERSION_V2 128
      (buildPageStoreHeaderV2 persistentId pageWidth identity) = .ok persistentId :=
  parseHeaderStart_ok (by simp) (by simp) (by simp; rfl) (by simp; rfl) (by simp)

theorem buildPageStoreHeaderV2_sealed (persistentId : PersistentLogId) (pageWidth : U64)
    (identity : DatabaseFileHeaderIdentity) :
    Sealed (buildPageStoreHeaderV2 persistentId pageWidth identity) 120 := by
  simp [Sealed]

theorem parsePageStoreHeaderV2_image {header : Bytes 128}
    {decoded : PersistentLogId × DatabaseFileHeaderIdentity}
    (parsed : parsePageStoreHeaderV2 header layout = .ok decoded) :
    Sealed header 120 ∧
      header = buildPageStoreHeaderV2 decoded.1 layout.width decoded.2 := by
  simp only [parsePageStoreHeaderV2, Except.bind_ok_iff, Except.pure_ok_iff] at parsed
  rcases parsed with
    ⟨_, start, _, pageWidth, _, reserved, _, identity, _, tail, _, checksum, rfl⟩
  have isSealed := sealed_of_checkHeaderChecksum checksum
  refine ⟨isSealed, ?_⟩
  apply isSealed.eq_of_agree (buildPageStoreHeaderV2_sealed ..) [32, 8, 24, 48, 8] rfl rfl
  simp only [Agree, Nat.reduceAdd, Nat.zero_add, field_toList, and_true]
  refine ⟨parseHeaderStart_front (by decide) start (buildPageStoreHeaderV2_start ..),
    ?_, ?_, ?_, ?_⟩
  · apply slice_eq_of_uintOf_eq (rfl : 64 = 8 * 8) (by decide)
    refine (pageWidth_of_checkPageWidth pageWidth).trans ?_
    simp
  · refine (slice_of_checkReserved (by decide) (by decide) reserved).trans ?_
    simp
  · refine (slice_of_parseChildIdentity (by decide) identity).trans ?_
    simp
  · refine (slice_of_checkReserved (by decide) (by decide) tail).trans ?_
    simp

end PageStore

/-! ## Commit-log headers -/

section LogHeaders

variable {layout : PageLayout}

theorem version_of_formatOfHeaderVersion {version : U16} {format : LogFormat}
    (known : formatOfHeaderVersion version = some format) : format.version = version := by
  unfold formatOfHeaderVersion at known
  split_ifs at known <;> cases known <;> simp_all [LogFormat.version]

/-- Where a header of the first formats is reserved, both its page width and what
follows it, if it has pages, are known. -/
theorem buildHeader_rest (format : LogFormat) (persistentId : PersistentLogId)
    (pageWidth : U64) :
    (buildHeader format persistentId pageWidth).slice 32 24 =
      if format.supportsPages then bigEndian 8 pageWidth.val ++ List.replicate 16 0
      else List.replicate 24 0 := by
  have split := slice_add (buildHeader format persistentId pageWidth) 32 8 16
  cases supports : format.supportsPages with
  | false =>
      simp [buildHeader, supports, writeU16, writeU32, writeU64, writeU128,
        slice_copyFromSlice_of_disjoint, slice_zero]
  | true =>
      rw [split]
      simp [buildHeader, supports, writeU16, writeU32, writeU64, writeU128,
        slice_copyFromSlice_of_disjoint, slice_zero]

/-- The page width an opener expects; without a layout none is written. -/
def HeaderExpectation.pageWidth (expectation : HeaderExpectation) : U64 :=
  (expectation.pageLayout.map PageLayout.width).getD 0

theorem supportsPages_of_accepts {expectation : HeaderExpectation} {format : LogFormat}
    (accepts : expectation.accepts format = true) :
    format.supportsPages = expectation.pageLayout.isSome := by
  cases expectation <;> cases format <;> first | rfl | cases accepts

theorem buildHeader_sealed (format : LogFormat) (persistentId : PersistentLogId)
    (pageWidth : U64) :
    Sealed (buildHeader format persistentId pageWidth) 56 :=
  sealed_of_checkHeaderChecksum (buildHeader_checksum persistentId pageWidth)

theorem parseHeader_image {header : Bytes 64} {expectation : HeaderExpectation}
    {persistentId : PersistentLogId}
    (parsed : parseHeader header expectation = .ok persistentId) :
    Sealed header 56 ∧ ∃ format, expectation.accepts format = true ∧
      header = buildHeader format persistentId expectation.pageWidth := by
  simp only [parseHeader, Except.bind_ok_iff, rejectIf_ok_iff, okOr_ok_iff,
    Decidable.not_not, NonZeroU128.new_eq_some] at parsed
  rcases parsed with
    ⟨_, hasMagic, format, known, _, accepts, _, hasLength, _, noFlags, id, hasId, rest⟩
  have version := version_of_formatOfHeaderVersion known
  have paged := supportsPages_of_accepts accepts
  have checked : Sealed header 56 ∧ id = persistentId ∧ header.slice 32 24 =
      (buildHeader format persistentId expectation.pageWidth).slice 32 24 := by
    rw [buildHeader_rest, paged, HeaderExpectation.pageWidth]
    cases expected : expectation.pageLayout with
    | none =>
        simp only [expected, Except.bind_ok_iff, Except.mapError_ok_iff,
          Except.pure_ok_iff] at rest
        rcases rest with ⟨_, reserved, _, checksum, rfl⟩
        exact ⟨sealed_of_checkHeaderChecksum checksum, rfl,
          slice_of_checkReserved (by decide) (by decide) reserved⟩
    | some layout =>
        simp only [expected, Except.bind_ok_iff, Except.mapError_ok_iff,
          Except.pure_ok_iff] at rest
        rcases rest with ⟨_, pageWidth, _, reserved, _, checksum, rfl⟩
        refine ⟨sealed_of_checkHeaderChecksum checksum, rfl, ?_⟩
        have width : header.slice 32 8 = bigEndian 8 layout.width.val := by
          rw [← pageWidth_of_checkPageWidth pageWidth]
          exact slice_eq_bigEndian (rfl : 64 = 8 * 8) (by decide)
        rw [slice_add header 32 8 16, width,
          slice_of_checkReserved (by decide) (by decide) reserved]
        rfl
  rcases checked with ⟨isSealed, rfl, rest⟩
  refine ⟨isSealed, format, accepts, ?_⟩
  have built := buildHeader_sealed format id expectation.pageWidth
  apply isSealed.eq_of_agree built [8, 2, 2, 4, 16, 24] rfl rfl
  simp only [Agree, Nat.reduceAdd, Nat.zero_add, field_toList, and_true]
  refine ⟨?_, ?_, ?_, ?_, ?_, rest⟩
  · rw [hasMagic, buildHeader_magic]
  · apply slice_eq_of_uintOf_eq (rfl : 16 = 8 * 2) (by decide)
    exact version.symm.trans (buildHeader_version ..).symm
  · apply slice_eq_of_uintOf_eq (rfl : 16 = 8 * 2) (by decide)
    exact hasLength.trans (buildHeader_length ..).symm
  · apply slice_eq_of_uintOf_eq (rfl : 32 = 8 * 4) (by decide)
    exact noFlags.trans (buildHeader_flags ..).symm
  · apply slice_eq_of_uintOf_eq (rfl : 128 = 8 * 16) (by decide)
    exact hasId.symm.trans (buildHeader_persistentId ..).symm

theorem parsePresence_carries {width : Nat} {header : Bytes width} {offset presence : Nat}
    {presenceReason : UInt8 → FileFormatErrorReason} {zeroReason : FileFormatErrorReason}
    {position : Option U64}
    (parsed : parsePresence header offset presence presenceReason zeroReason =
      .ok position) :
    header.readU64 offset = position.getD 0 ∧
      header.byteAt presence = (if position.isSome then 1 else 0) ∧
        position ≠ some 0 := by
  simp only [parsePresence] at parsed
  split_ifs at parsed with absent zero present
  · simp only [Except.bind_ok_iff, Except.ok.injEq, Except.pure_ok_iff] at parsed
    rcases parsed with ⟨_, rfl, _, _, rfl⟩
    exact ⟨zero, absent, (Option.some_ne_none 0).symm⟩
  · cases parsed
  · simp only [Except.bind_ok_iff, Except.ok.injEq, Except.pure_ok_iff, rejectIf_ok_iff]
      at parsed
    rcases parsed with ⟨_, rfl, _, positioned, rfl⟩
    exact ⟨rfl, present, positioned⟩
  · cases parsed

theorem parsePresence_inj {width : Nat} {left right : Bytes width} {offset presence : Nat}
    {presenceReason : UInt8 → FileFormatErrorReason} {zeroReason : FileFormatErrorReason}
    {position : Option U64} (fitsValue : offset + 8 ≤ width)
    (fitsPresence : presence < width)
    (leftParsed : parsePresence left offset presence presenceReason zeroReason =
      .ok position)
    (rightParsed : parsePresence right offset presence presenceReason zeroReason =
      .ok position) :
    left.slice offset 8 = right.slice offset 8 ∧
      left.slice presence 1 = right.slice presence 1 := by
  rcases parsePresence_carries leftParsed with ⟨leftValue, leftPresence, _⟩
  rcases parsePresence_carries rightParsed with ⟨rightValue, rightPresence, _⟩
  constructor
  · exact slice_eq_of_uintOf_eq (rfl : 64 = 8 * 8) fitsValue
      (leftValue.trans rightValue.symm)
  · rw [slice_one fitsPresence, slice_one fitsPresence, leftPresence, rightPresence]

theorem buildHeaderV4_sealed (metadata : V4HeaderMetadata) (pageWidth : U64) :
    Sealed (buildHeaderV4 metadata pageWidth) 120 :=
  sealed_of_checkHeaderChecksum (buildHeaderV4_checksum metadata pageWidth)

theorem parseHeaderV4_image {header : Bytes 128} {metadata : V4HeaderMetadata}
    (parsed : parseHeaderV4 header layout = .ok metadata) :
    Sealed header 120 ∧ header = buildHeaderV4 metadata layout.width := by
  simp only [parseHeaderV4, Except.bind_ok_iff, rejectIf_ok_iff, okOr_ok_iff, not_or,
    Bool.not_eq_true, NonZeroU64.new_eq_some, Except.mapError_ok_iff,
    Except.pure_ok_iff] at parsed
  rcases parsed with
    ⟨_, start, _, pageWidth, _, _, first, hasFirst, highWater, hasHighWater, _, _, epochs,
     hasEpochs, _, _, _, ⟨reserved, tail⟩, _, checksum, same⟩
  have isSealed := sealed_of_checkHeaderChecksum checksum
  refine ⟨isSealed, ?_⟩
  have built := buildHeaderV4_sealed metadata layout.width
  have builtStart := buildHeaderV4_start metadata layout.width
  have builtWidth := buildHeaderV4_pageWidth metadata layout.width
  have builtFirst := buildHeaderV4_retainedFirst metadata layout.width
  have builtHighWater := buildHeaderV4_logicalHighWater metadata layout.width
  have builtGeneration := buildHeaderV4_generation metadata layout.width
  have builtEpochs := buildHeaderV4_epochHighWater metadata layout.width
  have builtAnchor := buildHeaderV4_anchor metadata layout.width
  have builtReserved := buildHeaderV4_reserved metadata layout.width
  generalize buildHeaderV4 metadata layout.width = image at *
  subst same
  rcases parsePresence_inj (by decide) (by decide) hasFirst
      (builtFirst (parsePresence_carries hasFirst).2.2) with
    ⟨firstValue, firstPresence⟩
  rcases parsePresence_inj (by decide) (by decide) hasHighWater
      (builtHighWater (parsePresence_carries hasHighWater).2.2) with
    ⟨highWaterValue, highWaterPresence⟩
  apply isSealed.eq_of_agree built [32, 8, 8, 8, 8, 8, 2, 1, 1, 4, 16, 24] rfl rfl
  simp only [Agree, Nat.reduceAdd, Nat.zero_add, field_toList, and_true]
  refine ⟨?_, ?_, ?_, firstValue, highWaterValue, ?_, ?_, firstPresence,
    highWaterPresence, ?_, ?_, ?_⟩
  · exact parseHeaderStart_front (by decide) start builtStart
  · apply slice_eq_of_uintOf_eq (rfl : 64 = 8 * 8) (by decide)
    exact (pageWidth_of_checkPageWidth pageWidth).trans builtWidth.symm
  · apply slice_eq_of_uintOf_eq (rfl : 64 = 8 * 8) (by decide)
    exact builtGeneration.symm
  · apply slice_eq_of_uintOf_eq (rfl : 64 = 8 * 8) (by decide)
    exact hasEpochs.symm.trans builtEpochs.symm
  · apply slice_eq_of_uintOf_eq (rfl : 16 = 8 * 2) (by decide)
    exact builtAnchor.1.symm
  · rw [slice_eq_replicate (by decide) reserved,
      slice_eq_replicate (by decide) builtReserved.1]
  · apply slice_eq_of_uintOf_eq (rfl : 128 = 8 * 16) (by decide)
    exact builtAnchor.2.symm
  · rw [slice_eq_replicate (by decide) tail,
      slice_eq_replicate (by decide) builtReserved.2]

/-! ## Headers of the fifth format -/

section Fields

attribute [local simp] readU16 readU64 writeU16 writeU64 writeU128
  slice_copyFromSlice_of_disjoint slice_copyFromSlice_slice uintOf_bigEndian slice_zero

theorem buildHeaderV5Initial_unreclaimed (persistentId : PersistentLogId)
    (pageWidth : U64) (identity : DatabaseFileHeaderIdentity) :
    (buildHeaderV5Initial persistentId pageWidth identity).slice 40 88 =
      List.replicate 88 0 := by
  simp [buildHeaderV5Initial]

theorem buildHeaderV5Reclaimed_presence (metadata : V4HeaderMetadata) (pageWidth : U64)
    (identity : DatabaseFileHeaderIdentity) :
    (buildHeaderV5Reclaimed metadata pageWidth identity).slice 76 1 = [1] := by
  simp [buildHeaderV5Reclaimed]

theorem buildHeaderV5Initial_sealed (persistentId : PersistentLogId) (pageWidth : U64)
    (identity : DatabaseFileHeaderIdentity) :
    Sealed (buildHeaderV5Initial persistentId pageWidth identity) 184 := by
  simp [Sealed, buildHeaderV5Initial]

theorem buildHeaderV5Reclaimed_sealed (metadata : V4HeaderMetadata) (pageWidth : U64)
    (identity : DatabaseFileHeaderIdentity) :
    Sealed (buildHeaderV5Reclaimed metadata pageWidth identity) 184 := by
  simp [Sealed, buildHeaderV5Reclaimed]

/-- The fields of the inner header that are not put back are the outer header's. -/
theorem slice_innerHeaderV4 (header : Bytes 192) {offset length : Nat}
    (front : offset + length ≤ 120) (outsideStart : offset + length ≤ 8 ∨ 12 ≤ offset)
    (outsidePresence : offset + length ≤ 76 ∨ 77 ≤ offset) :
    (innerHeaderV4 header).slice offset length = header.slice offset length := by
  have start :
      offset + length ≤ 8 ∨ 8 + (bigEndian 2 FORMAT_VERSION_V4.val).length ≤ offset := by
    rw [length_bigEndian]
    omega
  have lengths :
      offset + length ≤ 10 ∨ 10 + (bigEndian 2 (128 : U16).val).length ≤ offset := by
    rw [length_bigEndian]
    omega
  rw [innerHeaderV4, writeU64, slice_copyFromSlice_of_disjoint (.inl (by omega)),
    slice_copyFromSlice_of_disjoint (by simpa using outsidePresence), writeU16, writeU16,
    slice_copyFromSlice_of_disjoint lengths, slice_copyFromSlice_of_disjoint start,
    slice_copyFromSlice_slice front (by omega) (by omega)]

end Fields

theorem parseReclamation_cases {header : Bytes 192}
    {reclamation : Option V4HeaderMetadata}
    (parsed : parseReclamation header layout = .ok reclamation) :
    reclamation = none ∧ header.slice 40 88 = List.replicate 88 0 ∨
      ∃ metadata, reclamation = some metadata ∧ header.slice 76 1 = [1] ∧
        innerHeaderV4 header = buildHeaderV4 metadata layout.width := by
  simp only [parseReclamation] at parsed
  split_ifs at parsed with absent present
  · simp only [Except.bind_ok_iff, rejectIf_ok_iff, Bool.not_eq_true, Except.pure_ok_iff]
      at parsed
    rcases parsed with ⟨_, zeros, rfl⟩
    exact .inl ⟨rfl, slice_eq_replicate (by decide) zeros⟩
  · simp only [Except.bind_ok_iff, Except.pure_ok_iff] at parsed
    rcases parsed with ⟨metadata, inner, rfl⟩
    refine .inr ⟨metadata, rfl, ?_, (parseHeaderV4_image inner).2⟩
    rw [slice_one (by decide), present]
  · cases parsed

theorem parseHeaderV5_image {header : Bytes 192} {metadata : V5HeaderMetadata}
    (parsed : parseHeaderV5 header layout = .ok metadata) :
    Sealed header 184 ∧
      (header = buildHeaderV5Initial metadata.persistentId layout.width
          metadata.databaseFileIdentity ∨
        ∃ reclaimed, header = buildHeaderV5Reclaimed reclaimed layout.width
          metadata.databaseFileIdentity) := by
  simp only [parseHeaderV5, Except.bind_ok_iff, rejectIf_ok_iff, Bool.not_eq_true,
    Except.mapError_ok_iff, Except.pure_ok_iff] at parsed
  rcases parsed with
    ⟨persistentId, start, _, pageWidth, reclamation, reclaimed, _, middle, identity,
     child, _, tail, _, checksum, rfl⟩
  have isSealed := sealed_of_checkHeaderChecksum checksum
  refine ⟨isSealed, ?_⟩
  have middle := slice_eq_replicate (by decide) middle
  have tail := slice_eq_replicate (by decide) tail
  have child := slice_of_parseChildIdentity (by decide) child
  rcases parseReclamation_cases reclaimed with
    ⟨rfl, zeros⟩ | ⟨inner, rfl, presence, image⟩
  · left
    have built := carriesV5_initial identity persistentId layout
    apply isSealed.eq_of_agree built.checksum [32, 8, 88, 48, 8] rfl rfl
    simp only [Agree, Nat.reduceAdd, Nat.zero_add, field_toList, and_true]
    refine ⟨parseHeaderStart_front (by decide) start built.start, ?_, ?_, ?_, ?_⟩
    · apply slice_eq_of_uintOf_eq (rfl : 64 = 8 * 8) (by decide)
      exact (pageWidth_of_checkPageWidth pageWidth).trans built.pageWidth.symm
    · rw [zeros, buildHeaderV5Initial_unreclaimed]
    · rw [child, built.child]
    · rw [tail, built.tail]
  · right
    refine ⟨inner, ?_⟩
    have built := carriesV5_reclaimed inner identity layout
    have sameFields (offset length : Nat) (front : offset + length ≤ 120)
        (outsideStart : offset + length ≤ 8 ∨ 12 ≤ offset)
        (outsidePresence : offset + length ≤ 76 ∨ 77 ≤ offset) :
        header.slice offset length =
          (buildHeaderV5Reclaimed inner layout.width identity).slice offset length := by
      rw [slice_buildHeaderV5Reclaimed _ _ _ front outsideStart outsidePresence, ← image,
        slice_innerHeaderV4 header front outsideStart outsidePresence]
    have sameId : persistentId = inner.persistentId := by
      have identified := persistentId_of_parseHeaderStart built.start
      rw [readU128, ← sameFields 16 16 (by decide) (by decide) (by decide)] at identified
      have same : persistentId.get = inner.persistentId.get :=
        (persistentId_of_parseHeaderStart start).trans identified.symm
      rw [← Option.some.injEq, ← NonZeroU128.new_get, same, NonZeroU128.new_get]
    apply isSealed.eq_of_agree built.checksum [32, 44, 1, 43, 8, 48, 8] rfl rfl
    simp only [Agree, Nat.reduceAdd, Nat.zero_add, field_toList, and_true]
    refine ⟨?_, ?_, ?_, ?_, ?_, ?_, ?_⟩
    · rw [sameId] at start
      exact parseHeaderStart_front (by decide) start built.start
    · exact sameFields 32 44 (by decide) (by decide) (by decide)
    · rw [presence, buildHeaderV5Reclaimed_presence]
    · exact sameFields 77 43 (by decide) (by decide) (by decide)
    · rw [middle, built.middle]
    · rw [child, built.child]
    · rw [tail, built.tail]

end LogHeaders

end Ntsql.Storage
