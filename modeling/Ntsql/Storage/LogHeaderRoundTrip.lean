import Ntsql.Storage.LogHeader

/-! # Reading commit-log headers back

Every header a log is created or reclaimed with is parsed as what it was built
from. -/

namespace Ntsql.Storage

open Bytes

section Unreclaimed

variable {format : LogFormat} (persistentId : PersistentLogId) {layout : PageLayout}

attribute [local simp] buildHeader readU16 readU32 readU64 readU128 writeU16
  writeU32 writeU64 writeU128 slice_copyFromSlice_of_disjoint uintOf_bigEndian slice_zero

theorem buildHeader_magic (pageWidth : U64) :
    (buildHeader format persistentId pageWidth).slice 0 8 = HEADER_MAGIC.toList := by
  cases supports : format.supportsPages <;> simp [supports]

theorem buildHeader_version (pageWidth : U64) :
    (buildHeader format persistentId pageWidth).readU16 8 = format.version := by
  cases supports : format.supportsPages <;> simp [supports]

theorem buildHeader_length (pageWidth : U64) :
    (buildHeader format persistentId pageWidth).readU16 10 = 64 := by
  cases supports : format.supportsPages <;> simp [supports] <;> rfl

theorem buildHeader_flags (pageWidth : U64) :
    (buildHeader format persistentId pageWidth).readU32 12 = 0 := by
  cases supports : format.supportsPages <;> simp [supports] <;> rfl

theorem buildHeader_persistentId (pageWidth : U64) :
    (buildHeader format persistentId pageWidth).readU128 16 = persistentId.get := by
  cases supports : format.supportsPages <;> simp [supports]

theorem buildHeader_checksum (pageWidth : U64) :
    checkHeaderChecksum (buildHeader format persistentId pageWidth) 56 = .ok () := by
  apply checkHeaderChecksum_ok
  cases supports : format.supportsPages <;> simp [supports]

theorem buildHeader_pageWidth (supports : format.supportsPages = true) (pageWidth : U64) :
    (buildHeader format persistentId pageWidth).readU64 32 = pageWidth := by
  simp [supports]

theorem buildHeader_reserved (supports : format.supportsPages = true) (pageWidth : U64) :
    checkReserved (buildHeader format persistentId pageWidth) 40 56 = .ok () := by
  apply checkReserved_ok
  simp [supports]

theorem buildHeader_reserved_of_no_pages (supports : format.supportsPages = false)
    (pageWidth : U64) :
    checkReserved (buildHeader format persistentId pageWidth) 32 56 = .ok () := by
  apply checkReserved_ok
  simp [supports]

end Unreclaimed

def HeaderExpectation.forFormat (layout : PageLayout) : LogFormat → HeaderExpectation
  | .v1 => .v1
  | .v2 => .v2 layout
  | _ => .v3OrLater layout

theorem parseHeader_buildHeader {format : LogFormat} {layout : PageLayout}
    {pageWidth : U64} (known : formatOfHeaderVersion format.version = some format)
    (written : format.supportsPages = true → layout.width ≠ 0 ∧ pageWidth = layout.width)
    (persistentId : PersistentLogId) :
    parseHeader (buildHeader format persistentId pageWidth) (.forFormat layout format) =
      .ok persistentId := by
  have accepts : (HeaderExpectation.forFormat layout format).accepts format = true := by
    cases format <;> rfl
  cases supports : format.supportsPages with
  | false =>
      have unpaged : (HeaderExpectation.forFormat layout format).pageLayout = none := by
        cases format <;> first | rfl | cases supports
      simp only [parseHeader, buildHeader_magic, buildHeader_version, known,
        buildHeader_length, buildHeader_flags, buildHeader_persistentId,
        NonZeroU128.new_get, unpaged,
        buildHeader_reserved_of_no_pages persistentId supports, buildHeader_checksum]
      simp [rejectIf, okOr, Except.ok_bind, Except.mapError, accepts]
  | true =>
      have paged :
          (HeaderExpectation.forFormat layout format).pageLayout = some layout := by
        cases format <;> first | rfl | cases supports
      rcases written supports with ⟨positive, width_eq⟩
      have width :
          checkPageWidth (buildHeader format persistentId pageWidth) layout = .ok () :=
        checkPageWidth_ok positive
          ((buildHeader_pageWidth persistentId supports _).trans width_eq)
      simp only [parseHeader, buildHeader_magic, buildHeader_version, known,
        buildHeader_length, buildHeader_flags, buildHeader_persistentId,
        NonZeroU128.new_get, paged, width, buildHeader_reserved persistentId supports,
        buildHeader_checksum]
      simp [rejectIf, okOr, Except.ok_bind, Except.mapError, accepts]

/-! ## Reclaimed headers -/

/-- Coordinates a parser accepts. -/
structure V4HeaderMetadata.Valid (metadata : V4HeaderMetadata) : Prop where
  generation_ne_zero : metadata.generation ≠ 0
  retainedFirst_ne_zero : metadata.retainedFirst ≠ some 0
  logicalHighWater_ne_zero : metadata.logicalHighWater ≠ some 0
  ordered : checkRetainedRange metadata.retainedFirst metadata.logicalHighWater = .ok ()
  anchorVersion_ne_zero : metadata.selectedCheckpointAnchor.1 ≠ 0

section Presence

variable {length : Nat} {header : Bytes length} {offset presence : Nat}

theorem slice_writePresence_of_disjoint {start size : Nat} (value : Option U64)
    (outsideValue : start + size ≤ offset ∨ offset + 8 ≤ start)
    (outsidePresence : start + size ≤ presence ∨ presence + 1 ≤ start) :
    (writePresence header offset presence value).slice start size =
      header.slice start size := by
  cases value with
  | none => rfl
  | some position =>
      rw [writePresence, slice_copyFromSlice_of_disjoint outsidePresence, writeU64,
        slice_copyFromSlice_of_disjoint (by simpa using outsideValue)]

theorem slice_writePresence_value (value : Option U64)
    (zeros : header.slice offset 8 = List.replicate 8 0) (within : offset + 8 ≤ length)
    (apart : offset + 8 ≤ presence) :
    (writePresence header offset presence value).slice offset 8 =
      bigEndian 8 (value.getD 0).val := by
  cases value with
  | none =>
      rw [writePresence, zeros]
      exact (bigEndian_zero 8).symm
  | some position =>
      rw [writePresence, slice_copyFromSlice_of_disjoint (.inl apart), writeU64,
        slice_copyFromSlice_self within (length_bigEndian _ _)]
      rfl

theorem slice_writePresence_presence (value : Option U64)
    (zero : header.slice presence 1 = [0]) (within : presence + 1 ≤ length) :
    (writePresence header offset presence value).slice presence 1 =
      [if value.isSome then 1 else 0] := by
  cases value with
  | none => exact zero
  | some position => exact slice_copyFromSlice_self within rfl

theorem parsePresence_ok {presenceReason : UInt8 → FileFormatErrorReason}
    {zeroReason : FileFormatErrorReason} {value : Option U64} (nonzero : value ≠ some 0)
    (hasValue : header.readU64 offset = value.getD 0)
    (hasPresence : header.byteAt presence = if value.isSome then 1 else 0) :
    parsePresence header offset presence presenceReason zeroReason = .ok value := by
  cases value with
  | none => simp [parsePresence, hasValue, hasPresence, rejectIf, Except.ok_bind]
  | some position =>
      have positioned : position ≠ 0 := fun zero => nonzero (congrArg some zero)
      simp [parsePresence, hasValue, hasPresence, rejectIf, Except.ok_bind, positioned]

end Presence

section Reclaimed

variable (metadata : V4HeaderMetadata) (pageWidth : U64)

section Fields

attribute [local simp] buildHeaderV4 uncheckedHeaderV4 readU16 readU32 readU64
  readU128 writeU16
  writeU32 writeU64 writeU128 slice_copyFromSlice_of_disjoint
    slice_writePresence_of_disjoint
  uintOf_bigEndian slice_zero

theorem buildHeaderV4_start :
    parseHeaderStart HEADER_MAGIC FORMAT_VERSION_V4 128
      (buildHeaderV4 metadata pageWidth) = .ok metadata.persistentId :=
  parseHeaderStart_ok (by simp) (by simp) (by simp; rfl) (by simp; rfl) (by simp)

theorem buildHeaderV4_version :
    (buildHeaderV4 metadata pageWidth).readU16 8 = FORMAT_VERSION_V4 := by
  simp

theorem buildHeaderV4_pageWidth :
    (buildHeaderV4 metadata pageWidth).readU64 32 = pageWidth := by
  simp

theorem buildHeaderV4_generation :
    (buildHeaderV4 metadata pageWidth).readU64 40 = metadata.generation := by
  simp

theorem buildHeaderV4_epochHighWater :
    (buildHeaderV4 metadata pageWidth).readU64 64 =
      metadata.allocatedEpochHighWater.get := by
  simp

theorem buildHeaderV4_anchor :
    (buildHeaderV4 metadata pageWidth).readU16 72 = metadata.selectedCheckpointAnchor.1 ∧
      (buildHeaderV4 metadata pageWidth).readU128 80 =
        metadata.selectedCheckpointAnchor.2 := by
  constructor <;> simp

theorem buildHeaderV4_reserved :
    anyNonzero ((buildHeaderV4 metadata pageWidth).slice 76 4) = false ∧
      anyNonzero ((buildHeaderV4 metadata pageWidth).slice 96 24) = false := by
  constructor <;> simp [anyNonzero]

theorem buildHeaderV4_checksum :
    checkHeaderChecksum (buildHeaderV4 metadata pageWidth) 120 = .ok () := by
  apply checkHeaderChecksum_ok
  simp

theorem buildHeaderV4_retainedFirst (nonzero : metadata.retainedFirst ≠ some 0) :
    parsePresence (buildHeaderV4 metadata pageWidth) 48 74 .headerV4RetainedFirstPresence
      .headerV4RetainedFirstZero = .ok metadata.retainedFirst := by
  apply parsePresence_ok nonzero
  · simp [slice_writePresence_value]
  · simp [byteAt, slice_writePresence_presence]

theorem buildHeaderV4_logicalHighWater (nonzero : metadata.logicalHighWater ≠ some 0) :
    parsePresence (buildHeaderV4 metadata pageWidth) 56 75
      .headerV4LogicalHighWaterPresence
      .headerV4LogicalHighWaterZero = .ok metadata.logicalHighWater := by
  apply parsePresence_ok nonzero
  · simp [slice_writePresence_value]
  · simp [byteAt, slice_writePresence_presence]

end Fields

variable {metadata} {layout : PageLayout}

theorem parseHeaderV4_buildHeaderV4 (valid : metadata.Valid)
    (positive : layout.width ≠ 0) :
    parseHeaderV4 (buildHeaderV4 metadata layout.width) layout = .ok metadata := by
  have width : checkPageWidth (buildHeaderV4 metadata layout.width) layout = .ok () :=
    checkPageWidth_ok positive (buildHeaderV4_pageWidth metadata layout.width)
  simp only [parseHeaderV4, buildHeaderV4_start, width, buildHeaderV4_generation,
    buildHeaderV4_retainedFirst metadata layout.width valid.retainedFirst_ne_zero,
    buildHeaderV4_logicalHighWater metadata layout.width valid.logicalHighWater_ne_zero,
    buildHeaderV4_epochHighWater, NonZeroU64.new_get, buildHeaderV4_anchor,
    buildHeaderV4_reserved, buildHeaderV4_checksum]
  simp [rejectIf, okOr, Except.ok_bind, Except.mapError, valid.generation_ne_zero,
    valid.ordered, valid.anchorVersion_ne_zero]

/-! ## Headers of the fifth format -/

variable (metadata) (identity : DatabaseFileHeaderIdentity)

section Fields

attribute [local simp] readU16 readU32 readU64 readU128 writeU16 writeU32
  writeU64 writeU128
  slice_copyFromSlice_of_disjoint slice_copyFromSlice_slice uintOf_bigEndian slice_zero

theorem slice_buildHeaderV4 {offset length : Nat} (front : offset + length ≤ 120) :
    (buildHeaderV4 metadata pageWidth).slice offset length =
      (uncheckedHeaderV4 metadata pageWidth).slice offset length := by
  rw [buildHeaderV4, writeU64, slice_copyFromSlice_of_disjoint (.inl front)]

theorem slice_buildHeaderV5Reclaimed {offset length : Nat} (front : offset + length ≤ 120)
    (outsideStart : offset + length ≤ 8 ∨ 12 ≤ offset)
    (outsidePresence : offset + length ≤ 76 ∨ 77 ≤ offset) :
    (buildHeaderV5Reclaimed metadata pageWidth identity).slice offset length =
      (buildHeaderV4 metadata pageWidth).slice offset length := by
  have start :
      offset + length ≤ 8 ∨ 8 + (bigEndian 2 FORMAT_VERSION_V5.val).length ≤ offset := by
    rw [length_bigEndian]
    omega
  have lengths :
      offset + length ≤ 10 ∨ 10 + (bigEndian 2 (192 : U16).val).length ≤ offset := by
    rw [length_bigEndian]
    omega
  rw [buildHeaderV5Reclaimed, writeU64, slice_copyFromSlice_of_disjoint (.inl (by omega)),
    slice_copyFromSlice_of_disjoint (.inl (by omega)),
    slice_copyFromSlice_of_disjoint (by simpa using outsidePresence), writeU16, writeU16,
    slice_copyFromSlice_of_disjoint lengths, slice_copyFromSlice_of_disjoint start,
    slice_copyFromSlice_slice front (by omega) (by omega)]

theorem innerHeaderV4_buildHeaderV5Reclaimed :
    innerHeaderV4 (buildHeaderV5Reclaimed metadata pageWidth identity) =
      buildHeaderV4 metadata pageWidth := by
  have split (header : Bytes 128) : header.slice 0 120 =
      header.slice 0 8 ++ header.slice 8 2 ++ header.slice 10 2 ++ header.slice 12 64 ++
        header.slice 76 1 ++ header.slice 77 43 := by
    rw [← slice_add header 0 8 2, ← slice_add header 0 10 2, ← slice_add header 0 12 64,
      ← slice_add header 0 76 1, ← slice_add header 0 77 43]
  have version : (uncheckedHeaderV4 metadata pageWidth).slice 8 2 =
      bigEndian 2 FORMAT_VERSION_V4.val := by
    simp [uncheckedHeaderV4, slice_writePresence_of_disjoint]
  have lengths : (uncheckedHeaderV4 metadata pageWidth).slice 10 2 =
      bigEndian 2 (128 : U16).val := by
    simp [uncheckedHeaderV4, slice_writePresence_of_disjoint]
  have presence : (uncheckedHeaderV4 metadata pageWidth).slice 76 1 = [0] := by
    simp [uncheckedHeaderV4, slice_writePresence_of_disjoint]
  have outside (offset length : Nat) (front : offset + length ≤ 120)
      (outsideStart : offset + length ≤ 8 ∨ 12 ≤ offset)
      (outsidePresence : offset + length ≤ 76 ∨ 77 ≤ offset) :
      (buildHeaderV5Reclaimed metadata pageWidth identity).slice offset length =
        (uncheckedHeaderV4 metadata pageWidth).slice offset length := by
    rw [slice_buildHeaderV5Reclaimed _ _ _ front outsideStart outsidePresence,
      slice_buildHeaderV4 _ _ front]
  rw [innerHeaderV4, buildHeaderV4]
  generalize inner_eq : ((((Bytes.zero 128).copyFromSlice 0
      ((buildHeaderV5Reclaimed metadata pageWidth identity).slice 0 120)).writeU16 8
        FORMAT_VERSION_V4).writeU16 10 128).copyFromSlice 76 [0] = inner
  have front :
      inner.slice 0 120 = (uncheckedHeaderV4 metadata pageWidth).slice 0 120 := by
    rw [split, split, version, lengths, presence, ← inner_eq]
    simp [outside]
  simp only [front]
  exact copyFromSlice_congr front (by simp)

end Fields

structure CarriesV5 (header : Bytes 192) (persistentId : PersistentLogId)
    (layout : PageLayout) (identity : DatabaseFileHeaderIdentity) : Prop where
  start : parseHeaderStart HEADER_MAGIC FORMAT_VERSION_V5 192 header = .ok persistentId
  pageWidth : header.readU64 32 = layout.width
  middle : header.slice 120 8 = List.replicate 8 0
  child : header.slice 128 48 = (encodeDatabaseChildIdentity identity).toList
  tail : header.slice 176 8 = List.replicate 8 0
  checksum : header.readU64 184 = checksumV1 (header.slice 0 184)

section Fields

attribute [local simp] readU16 readU32 readU64 readU128 writeU16 writeU32
  writeU64 writeU128
  slice_copyFromSlice_of_disjoint slice_copyFromSlice_slice
    slice_writePresence_of_disjoint
  slice_buildHeaderV4 uintOf_bigEndian slice_zero

theorem buildHeaderV5Initial_version (persistentId : PersistentLogId) :
    (buildHeaderV5Initial persistentId pageWidth identity).readU16 8 =
      FORMAT_VERSION_V5 := by
  simp [buildHeaderV5Initial]

theorem buildHeaderV5Reclaimed_version :
    (buildHeaderV5Reclaimed metadata pageWidth identity).readU16 8 =
      FORMAT_VERSION_V5 := by
  simp [buildHeaderV5Reclaimed]

theorem carriesV5_initial (persistentId : PersistentLogId) (layout : PageLayout) :
    CarriesV5 (buildHeaderV5Initial persistentId layout.width identity)
      persistentId layout identity where
  start :=
    parseHeaderStart_ok (by simp [buildHeaderV5Initial]) (by simp [buildHeaderV5Initial])
    (by simp [buildHeaderV5Initial]; rfl) (by simp [buildHeaderV5Initial]; rfl)
    (by simp [buildHeaderV5Initial])
  pageWidth := by simp [buildHeaderV5Initial]
  middle := by simp [buildHeaderV5Initial]
  child := by simp [buildHeaderV5Initial]
  tail := by simp [buildHeaderV5Initial]
  checksum := by simp [buildHeaderV5Initial]

theorem carriesV5_reclaimed (layout : PageLayout) :
    CarriesV5 (buildHeaderV5Reclaimed metadata layout.width identity)
      metadata.persistentId layout identity where
  start := parseHeaderStart_ok (by simp [buildHeaderV5Reclaimed, uncheckedHeaderV4])
    (by simp [buildHeaderV5Reclaimed]) (by simp [buildHeaderV5Reclaimed]; rfl)
    (by simp [buildHeaderV5Reclaimed, uncheckedHeaderV4]; rfl)
    (by simp [buildHeaderV5Reclaimed, uncheckedHeaderV4])
  pageWidth := by simp [buildHeaderV5Reclaimed, uncheckedHeaderV4]
  middle := by simp [buildHeaderV5Reclaimed, length_slice]
  child := by simp [buildHeaderV5Reclaimed]
  tail := by simp [buildHeaderV5Reclaimed, length_slice]
  checksum := by simp [buildHeaderV5Reclaimed]

theorem parseReclamation_initial (persistentId : PersistentLogId) :
    parseReclamation (buildHeaderV5Initial persistentId pageWidth identity) layout =
      .ok none := by
  have presence :
      (buildHeaderV5Initial persistentId pageWidth identity).byteAt 76 = 0 := by
    simp [buildHeaderV5Initial, byteAt]
  have zeros :
      anyNonzero ((buildHeaderV5Initial persistentId pageWidth identity).slice 40 88) =
      false := by
    simp [buildHeaderV5Initial, anyNonzero]
  rw [parseReclamation]
  simp [presence, zeros, rejectIf]

end Fields

variable {metadata}

theorem parseReclamation_reclaimed (valid : metadata.Valid)
    (positive : layout.width ≠ 0) :
    parseReclamation (buildHeaderV5Reclaimed metadata layout.width identity) layout =
      .ok (some metadata) := by
  have presence :
      (buildHeaderV5Reclaimed metadata layout.width identity).byteAt 76 = 1 := by
    simp [buildHeaderV5Reclaimed, byteAt, writeU64, slice_copyFromSlice_of_disjoint]
  rw [parseReclamation, innerHeaderV4_buildHeaderV5Reclaimed,
    parseHeaderV4_buildHeaderV4 valid positive]
  simp [presence]

theorem parseHeaderV5_of_carries {header : Bytes 192} {persistentId : PersistentLogId}
    {reclamation : Option V4HeaderMetadata} {identity : DatabaseFileHeaderIdentity}
    (carries : CarriesV5 header persistentId layout identity)
    (positive : layout.width ≠ 0)
    (reclaimed : parseReclamation header layout = .ok reclamation) :
    parseHeaderV5 header layout = .ok {
      persistentId
      generation := (reclamation.map V4HeaderMetadata.generation).getD 0
      retainedFirst := reclamation.bind V4HeaderMetadata.retainedFirst
      logicalHighWater := reclamation.bind V4HeaderMetadata.logicalHighWater
      allocatedEpochHighWater := reclamation.map V4HeaderMetadata.allocatedEpochHighWater
      selectedCheckpointAnchor :=
        reclamation.map V4HeaderMetadata.selectedCheckpointAnchor
      databaseFileIdentity := identity } := by
  simp only [parseHeaderV5, carries.start, checkPageWidth_ok positive carries.pageWidth,
    reclaimed, carries.middle, carries.tail, parseChildIdentity_ok carries.child,
    checkHeaderChecksum_ok carries.checksum, anyNonzero_replicate]
  simp [rejectIf, Except.ok_bind, Except.mapError]

end Reclaimed

end Ntsql.Storage
