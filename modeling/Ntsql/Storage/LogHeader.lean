import Ntsql.Storage.Header

/-! # Commit-log headers

A log file starts with a header of one of five formats. The first three say
only whose log it is and how wide its pages are; the fourth, and the fifth once
it was reclaimed, also say where the records of an earlier file end. -/

namespace Ntsql.Storage

open Bytes

/-- `NTSQLOG1`. -/
def HEADER_MAGIC : Bytes 8 := #v[0x4e, 0x54, 0x53, 0x51, 0x4c, 0x4f, 0x47, 0x31]

def FORMAT_VERSION_V1 : U16 := 1

def FORMAT_VERSION_V2 : U16 := 2

def FORMAT_VERSION_V3 : U16 := 3

def FORMAT_VERSION_V4 : U16 := 4

def FORMAT_VERSION_V5 : U16 := 5

inductive LogFormat where
  | v1
  | v2
  | v3
  | v4
  | v5
deriving DecidableEq

namespace LogFormat

def version : LogFormat → U16
  | .v1 => FORMAT_VERSION_V1
  | .v2 => FORMAT_VERSION_V2
  | .v3 => FORMAT_VERSION_V3
  | .v4 => FORMAT_VERSION_V4
  | .v5 => FORMAT_VERSION_V5

def frameVersion : LogFormat → U16
  | .v4 => FORMAT_VERSION_V3
  | .v5 => FORMAT_VERSION_V3
  | format => format.version

def supportsPages : LogFormat → Bool
  | .v1 => false
  | _ => true

def supportsTransactionPages : LogFormat → Bool
  | .v3 => true
  | .v4 => true
  | .v5 => true
  | _ => false

theorem supportsPages_of_supportsTransactionPages {format : LogFormat}
    (supports : format.supportsTransactionPages = true) :
      format.supportsPages = true := by
  cases format <;> first | rfl | cases supports

end LogFormat

/-- What an opener accepts, with the layout its pages have. -/
inductive HeaderExpectation where
  | v1
  | v2 (layout : PageLayout)
  | v3OrLater (layout : PageLayout)
deriving DecidableEq

namespace HeaderExpectation

def accepts : HeaderExpectation → LogFormat → Bool
  | .v1, .v1 => true
  | .v2 _, .v2 => true
  | .v3OrLater _, format => format.supportsTransactionPages
  | _, _ => false

def pageLayout : HeaderExpectation → Option PageLayout
  | .v1 => none
  | .v2 layout => some layout
  | .v3OrLater layout => some layout

end HeaderExpectation

inductive FileFormatErrorReason where
  | header (reason : HeaderErrorReason)
  | headerV4Length (actual : U16)
  | headerV5Length (actual : U16)
  | headerV4GenerationZero
  | headerV4RetainedFirstPresence (actual : UInt8)
  | headerV4LogicalHighWaterPresence (actual : UInt8)
  | headerV4RetainedFirstZero
  | headerV4LogicalHighWaterZero
  | headerV4RetainedFirstWithoutHighWater
  | headerV4RetainedFirstBeyondHighWater (retainedFirst highWater : U64)
  | headerV4AllocatedEpochHighWaterZero
  | headerV4AnchorVersionZero
  | headerV4Reserved
  | headerV5ReclamationPresence (actual : UInt8)
  | headerV4RetainedFirstMismatch (expected actual : Option U64)
  | headerV4LogicalHighWaterMismatch (expected actual : Option U64)
  | frame (reason : FrameErrorReason)
  | unexpectedNonzeroPayload (field : String) (actual : U64)
  | epochValueZero
  | epochOutOfSequence (expected actual : U64)
  | epochSpaceExhausted
  | commitPositionZero
  | commitPositionOutOfSequence (expected actual : U64)
  | commitPositionSpaceExhausted
  | commitEpochZero
  | commitEpochUnallocated (actual highestAllocated : U64)
  | commitSequenceZero
  | duplicateTransactionIdentity (epoch sequence : U64)
  | markerPositionZero
  | markerDoesNotAdvance (previous actual : U64)
  | markerReferencesUnknownCommit (actual highestCommitted : U64)
  | pageHeaderPositionZero
  | pageHeaderPositionOutOfSequence (expected actual : U64)
  | pageHeaderPositionSpaceExhausted
  | pageNumberZero
  | transactionPageOwnerWithoutHeader
  | transactionPageOwnerInterruptedByFrameKind (actual : U16)
  | transactionPageOwnerDuplicate
  | transactionPageOwnerParentPositionZero
  | transactionPageOwnerParentMismatch (expected actual : U64)
  | transactionPageOwnerEpochZero
  | transactionPageOwnerEpochUnallocated (actual highestAllocated : U64)
  | transactionPageOwnerSequenceZero
  | transactionPageOwnerMissing
  | pageDataWithoutHeader
  | pageDataParentPositionZero
  | pageDataParentMismatch (expected actual : U64)
  | pageDataChunkIndexOutOfSequence (expected actual : U64)
  | pageDataInterruptedByFrameKind (actual : U16)
  | pageDataFinalPaddingNonzero
deriving DecidableEq

abbrev FileFormatError := FormatError FileFormatErrorReason

/-! ## Building -/

def buildHeader (format : LogFormat) (persistentId : PersistentLogId) (pageWidth : U64) :
    Bytes 64 :=
  let header := Bytes.zero 64
  let header := header.copyFromSlice 0 HEADER_MAGIC.toList
  let header := header.writeU16 8 format.version
  let header := header.writeU16 10 64
  let header := header.writeU32 12 0
  let header := header.writeU128 16 persistentId.get
  let header := if format.supportsPages then header.writeU64 32 pageWidth else header
  header.writeU64 56 (checksumV1 (header.slice 0 56))

def buildHeaderV1 (persistentId : PersistentLogId) : Bytes 64 :=
  buildHeader .v1 persistentId 0

def buildHeaderV2 (persistentId : PersistentLogId) (pageWidth : U64) : Bytes 64 :=
  buildHeader .v2 persistentId pageWidth

def buildHeaderV3 (persistentId : PersistentLogId) (pageWidth : U64) : Bytes 64 :=
  buildHeader .v3 persistentId pageWidth

structure V4HeaderMetadata where
  persistentId : PersistentLogId
  generation : U64
  retainedFirst : Option U64
  logicalHighWater : Option U64
  allocatedEpochHighWater : NonZeroU64
  selectedCheckpointAnchor : U16 × U128
deriving DecidableEq

structure V5HeaderMetadata where
  persistentId : PersistentLogId
  generation : U64
  retainedFirst : Option U64
  logicalHighWater : Option U64
  allocatedEpochHighWater : Option NonZeroU64
  selectedCheckpointAnchor : Option (U16 × U128)
  databaseFileIdentity : DatabaseFileHeaderIdentity
deriving DecidableEq

/-- A position with its presence byte; both stay zero for none. -/
def writePresence {length : Nat} (header : Bytes length) (offset presence : Nat) :
    Option U64 → Bytes length
  | some position => (header.writeU64 offset position).copyFromSlice presence [1]
  | none => header

def uncheckedHeaderV4 (metadata : V4HeaderMetadata) (pageWidth : U64) : Bytes 128 :=
  let header := Bytes.zero 128
  let header := header.copyFromSlice 0 HEADER_MAGIC.toList
  let header := header.writeU16 8 FORMAT_VERSION_V4
  let header := header.writeU16 10 128
  let header := header.writeU32 12 0
  let header := header.writeU128 16 metadata.persistentId.get
  let header := header.writeU64 32 pageWidth
  let header := header.writeU64 40 metadata.generation
  let header := writePresence header 48 74 metadata.retainedFirst
  let header := writePresence header 56 75 metadata.logicalHighWater
  let header := header.writeU64 64 metadata.allocatedEpochHighWater.get
  let header := header.writeU16 72 metadata.selectedCheckpointAnchor.1
  header.writeU128 80 metadata.selectedCheckpointAnchor.2

def buildHeaderV4 (metadata : V4HeaderMetadata) (pageWidth : U64) : Bytes 128 :=
  let header := uncheckedHeaderV4 metadata pageWidth
  header.writeU64 120 (checksumV1 (header.slice 0 120))

def buildHeaderV5Initial (persistentId : PersistentLogId) (pageWidth : U64)
    (databaseFileIdentity : DatabaseFileHeaderIdentity) : Bytes 192 :=
  let header := Bytes.zero 192
  let header := header.copyFromSlice 0 HEADER_MAGIC.toList
  let header := header.writeU16 8 FORMAT_VERSION_V5
  let header := header.writeU16 10 192
  let header := header.writeU128 16 persistentId.get
  let header := header.writeU64 32 pageWidth
  let header :=
    header.copyFromSlice 128 (encodeDatabaseChildIdentity databaseFileIdentity).toList
  header.writeU64 184 (checksumV1 (header.slice 0 184))

/-- The fourth format's header, with the fields of the fifth over it. -/
def buildHeaderV5Reclaimed (metadata : V4HeaderMetadata) (pageWidth : U64)
    (databaseFileIdentity : DatabaseFileHeaderIdentity) : Bytes 192 :=
  let v4 := buildHeaderV4 metadata pageWidth
  let header := Bytes.zero 192
  let header := header.copyFromSlice 0 (v4.slice 0 120)
  let header := header.writeU16 8 FORMAT_VERSION_V5
  let header := header.writeU16 10 192
  let header := header.copyFromSlice 76 [1]
  let header :=
    header.copyFromSlice 128 (encodeDatabaseChildIdentity databaseFileIdentity).toList
  header.writeU64 184 (checksumV1 (header.slice 0 184))

/-! ## Parsing -/

/-- The shared header checks report a wrong length under the format's name. -/
def logHeaderError (lengthReason : U16 → FileFormatErrorReason)
    (error : FormatError HeaderErrorReason) : FileFormatError :=
  match error.reason with
  | .headerLength actual => ⟨error.offset, lengthReason actual⟩
  | reason => ⟨error.offset, .header reason⟩

def headerReason (error : FormatError HeaderErrorReason) : FileFormatError :=
  ⟨error.offset, .header error.reason⟩

/-- `parse_header`'s formats. -/
def formatOfHeaderVersion (version : U16) : Option LogFormat :=
  if version = FORMAT_VERSION_V1 then some .v1
  else if version = FORMAT_VERSION_V2 then some .v2
  else if version = FORMAT_VERSION_V3 then some .v3
  else none

def parseHeader (header : Bytes 64) (expectation : HeaderExpectation) :
    Except FileFormatError PersistentLogId := do
  rejectIf (header.slice 0 8 ≠ HEADER_MAGIC.toList) ⟨0, .header .headerMagic⟩
  let version := header.readU16 8
  let format ← okOr (formatOfHeaderVersion version) ⟨8, .header (.headerVersion version)⟩
  rejectIf (¬expectation.accepts format) ⟨8, .header (.headerVersion version)⟩
  rejectIf (header.readU16 10 ≠ 64) ⟨10, .header (.headerLength (header.readU16 10))⟩
  rejectIf (header.readU32 12 ≠ 0) ⟨12, .header (.headerFlags (header.readU32 12))⟩
  let persistentId ← okOr (NonZeroU128.new (header.readU128 16))
    ⟨16, .header .lineageIdZero⟩
  match expectation.pageLayout with
  | none => (checkReserved header 32 56).mapError headerReason
  | some layout => do
      (checkPageWidth header layout).mapError headerReason
      (checkReserved header 40 56).mapError headerReason
  (checkHeaderChecksum header 56).mapError headerReason
  return persistentId

/-- A position and its presence byte, which must agree. -/
def parsePresence {length : Nat} (header : Bytes length) (offset presence : Nat)
    (presenceReason : UInt8 → FileFormatErrorReason)
    (zeroReason : FileFormatErrorReason) :
    Except FileFormatError (Option U64) := do
  let raw := header.readU64 offset
  let actual := header.byteAt presence
  let position ←
    if actual = 0 then
      if raw = 0 then .ok none else formatError offset .headerV4Reserved
    else if actual = 1 then .ok (some raw)
    else formatError presence (presenceReason actual)
  rejectIf (position = some 0) ⟨offset, zeroReason⟩
  return position

/-- What is retained ends at the high water. -/
def checkRetainedRange (retainedFirst logicalHighWater : Option U64) :
    Except FileFormatError Unit :=
  match retainedFirst, logicalHighWater with
  | some _, none => formatError 48 .headerV4RetainedFirstWithoutHighWater
  | some first, some highWater =>
      rejectIf (highWater < first)
        ⟨48, .headerV4RetainedFirstBeyondHighWater first highWater⟩
  | none, _ => .ok ()

def parseHeaderV4 (header : Bytes 128) (layout : PageLayout) :
    Except FileFormatError V4HeaderMetadata := do
  let persistentId ← (parseHeaderStart HEADER_MAGIC FORMAT_VERSION_V4 128 header).mapError
    (logHeaderError .headerV4Length)
  (checkPageWidth header layout).mapError headerReason
  let generation := header.readU64 40
  rejectIf (generation = 0) ⟨40, .headerV4GenerationZero⟩
  let retainedFirst ← parsePresence header 48 74 .headerV4RetainedFirstPresence
    .headerV4RetainedFirstZero
  let logicalHighWater ← parsePresence header 56 75 .headerV4LogicalHighWaterPresence
    .headerV4LogicalHighWaterZero
  checkRetainedRange retainedFirst logicalHighWater
  let allocatedEpochHighWater ← okOr (NonZeroU64.new (header.readU64 64))
    ⟨64, .headerV4AllocatedEpochHighWaterZero⟩
  let anchorVersion := header.readU16 72
  rejectIf (anchorVersion = 0) ⟨72, .headerV4AnchorVersionZero⟩
  rejectIf (anyNonzero (header.slice 76 4) ∨ anyNonzero (header.slice 96 24))
    ⟨76, .headerV4Reserved⟩
  (checkHeaderChecksum header 120).mapError headerReason
  return {
    persistentId, generation, retainedFirst, logicalHighWater, allocatedEpochHighWater
    selectedCheckpointAnchor := (anchorVersion, header.readU128 80) }

/-- The header of the fourth format inside a reclaimed one of the fifth. -/
def innerHeaderV4 (header : Bytes 192) : Bytes 128 :=
  let v4 := Bytes.zero 128
  let v4 := v4.copyFromSlice 0 (header.slice 0 120)
  let v4 := v4.writeU16 8 FORMAT_VERSION_V4
  let v4 := v4.writeU16 10 128
  let v4 := v4.copyFromSlice 76 [0]
  v4.writeU64 120 (checksumV1 (v4.slice 0 120))

/-- The reclamation fields of the fifth format, absent in a file never reclaimed. -/
def parseReclamation (header : Bytes 192) (layout : PageLayout) :
    Except FileFormatError (Option V4HeaderMetadata) :=
  let presence := header.byteAt 76
  if presence = 0 then do
    rejectIf (anyNonzero (header.slice 40 88)) ⟨40, .headerV4Reserved⟩
    return none
  else if presence = 1 then do
    let metadata ← parseHeaderV4 (innerHeaderV4 header) layout
    return some metadata
  else formatError 76 (.headerV5ReclamationPresence presence)

def parseHeaderV5 (header : Bytes 192) (layout : PageLayout) :
    Except FileFormatError V5HeaderMetadata := do
  let persistentId ← (parseHeaderStart HEADER_MAGIC FORMAT_VERSION_V5 192 header).mapError
    (logHeaderError .headerV5Length)
  (checkPageWidth header layout).mapError headerReason
  let reclamation ← parseReclamation header layout
  rejectIf (anyNonzero (header.slice 120 8)) ⟨120, .headerV4Reserved⟩
  let databaseFileIdentity ← (parseChildIdentity header 128).mapError headerReason
  rejectIf (anyNonzero (header.slice 176 8)) ⟨176, .headerV4Reserved⟩
  (checkHeaderChecksum header 184).mapError headerReason
  return {
    persistentId
    generation := (reclamation.map V4HeaderMetadata.generation).getD 0
    retainedFirst := reclamation.bind V4HeaderMetadata.retainedFirst
    logicalHighWater := reclamation.bind V4HeaderMetadata.logicalHighWater
    allocatedEpochHighWater := reclamation.map V4HeaderMetadata.allocatedEpochHighWater
    selectedCheckpointAnchor := reclamation.map V4HeaderMetadata.selectedCheckpointAnchor
    databaseFileIdentity }

end Ntsql.Storage
