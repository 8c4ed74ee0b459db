import Ntsql.Foundation.AppendFile
import Ntsql.Storage.LogScan

/-! # The commit log

An append-only file of commit records, page images, epoch allocations and
durability markers. Reclaiming it writes the records that are still needed to a
new file, whose header remembers the counters of the old one. -/

namespace Ntsql.Storage

open Bytes

inductive FaultPoint where
  | beforeAppend
  | afterAppend
  | beforeFlush
  | afterFlush
  | beforeReclamationCandidateCleanup
  | beforeReclamationWrite
  | duringReclamationCopy
  | beforeReclamationCandidateSync
  | afterReclamationCandidateSync
  | beforeReclamationRename
  | afterReclamationRename
  | duringReclamationDirectorySync
deriving DecidableEq

inductive FileIoStage where
  | seekEnd
  | writeEpochFrame
  | syncEpochFrame
  | writeCommitFrame
  | writePageHeaderFrame
  | writeTransactionPageHeaderFrame
  | writeTransactionPageOwnerFrame
  | writePageDataFrame
  | syncCommitPrefix
  | writeDurableMarker
  | syncDurableMarker
  | removeReclamationCandidate
  | createReclamationCandidate
  | acquireReclamationCandidateLock
  | writeReclamationHeader
  | writeReclamationFrame
  | syncReclamationCandidate
  | renameReclamationCandidate
  | syncReclamationDirectory
deriving DecidableEq

inductive FileOpenError where
  | pageWidth (error : FilePageWidthError)
  | format (error : FileFormatError)
deriving DecidableEq

inductive FileCommitLogError where
  | injectedFault (point : FaultPoint)
  | pageWidth (error : FilePageWidthError)
  | pageSupportUnavailable
  | transactionPageSupportUnavailable
  | pageWidthMismatch (expected actual : Nat)
  | foreignPageLineage (page : PageNumber)
  | io (stage : FileIoStage)
  | poisonedWriter
  | unknownFlushPosition (position : LogSequenceNumber)
  | foreignFlushPosition (position : LogSequenceNumber)
  | positionSpaceExhausted
deriving DecidableEq

inductive FileTransactionEpochError where
  | io (stage : FileIoStage)
  | poisonedWriter
  | epochSpaceExhausted
deriving DecidableEq

inductive FileTransactionRestartWalReclamationError where
  | poisonedWriter
  | unsupportedPhysicalFormat (version : U16)
  | noAllocatedEpoch
  | missingDatabaseFileIdentity
  | permitMismatch
  | generationExhausted
  | volatileLogicalSuffix (durableRecordCount totalRecordCount : Nat)
  | retainedBoundaryMissing (position : U64)
  | injectedFault (point : FaultPoint)
  | io (stage : FileIoStage)
deriving DecidableEq

structure OpenedHeader where
  format : LogFormat
  persistentId : PersistentLogId
  generation : U64
  reclaimedRetainedFirst : Option U64
  reclaimedLogicalHighWater : Option U64
  allocatedEpochHighWater : Option NonZeroU64
  selectedCheckpointAnchor : Option (U16 × U128)
  databaseFileIdentity : Option DatabaseFileHeaderIdentity
  headerLength : Nat
deriving DecidableEq

namespace OpenedHeader

def ofV5 (metadata : V5HeaderMetadata) : OpenedHeader where
  format := .v5
  persistentId := metadata.persistentId
  generation := metadata.generation
  reclaimedRetainedFirst := metadata.retainedFirst
  reclaimedLogicalHighWater := metadata.logicalHighWater
  allocatedEpochHighWater := metadata.allocatedEpochHighWater
  selectedCheckpointAnchor := metadata.selectedCheckpointAnchor
  databaseFileIdentity := some metadata.databaseFileIdentity
  headerLength := 192

def ofV4 (metadata : V4HeaderMetadata) : OpenedHeader where
  format := .v4
  persistentId := metadata.persistentId
  generation := metadata.generation
  reclaimedRetainedFirst := metadata.retainedFirst
  reclaimedLogicalHighWater := metadata.logicalHighWater
  allocatedEpochHighWater := some metadata.allocatedEpochHighWater
  selectedCheckpointAnchor := some metadata.selectedCheckpointAnchor
  databaseFileIdentity := none
  headerLength := 128

def unreclaimed (format : LogFormat) (persistentId : PersistentLogId) : OpenedHeader where
  format
  persistentId
  generation := 0
  reclaimedRetainedFirst := none
  reclaimedLogicalHighWater := none
  allocatedEpochHighWater := none
  selectedCheckpointAnchor := none
  databaseFileIdentity := none
  headerLength := 64

/-- The scanner's first state: it continues the counters of the file that was
reclaimed into this one. -/
def openState {width : Nat} (header : OpenedHeader) (pageLayout : Option PageLayout) :
    OpenState width :=
  .new (.persistent header.persistentId) pageLayout
    ((header.allocatedEpochHighWater.map NonZeroU64.get).getD 0)
    (match header.reclaimedRetainedFirst with
      | some position => some position
      | none =>
          match header.reclaimedLogicalHighWater with
          | some position => checkedSucc position
          | none => some 1)
    (((header.reclaimedRetainedFirst.bind checkedPred).or
      header.reclaimedLogicalHighWater).getD 0)
    (if header.reclaimedRetainedFirst.isNone then
      header.reclaimedLogicalHighWater else none)

end OpenedHeader

structure FileCommitLog (width : Nat) where
  writer : AppendFile
  format : LogFormat
  lineage : LogLineage
  persistentId : PersistentLogId
  databaseFileIdentity : Option DatabaseFileHeaderIdentity
  generation : U64
  reclaimedRetainedFirst : Option LogSequenceNumber
  reclaimedLogicalHighWater : Option LogSequenceNumber
  reclaimedAllocatedEpochHighWater : Option NonZeroU64
  selectedCheckpointAnchor : Option (U16 × U128)
  records : List (FileLogRecord width)
  durableLen : Nat
  nextEpoch : Option NonZeroU64
  nextPosition : Option U64
  armedFault : Option FaultPoint
deriving DecidableEq

namespace FileCommitLog

variable {width : Nat}

/-! ## Creating -/

def createNewInternal (persistentId : PersistentLogId) (format : LogFormat)
    (header : List UInt8) (databaseFileIdentity : Option DatabaseFileHeaderIdentity)
    (script : List IoResult) :
    FileCommitLog width where
  writer := { bytes := header, script, poisoned := false }
  format
  lineage := .persistent persistentId
  persistentId
  databaseFileIdentity
  generation := 0
  reclaimedRetainedFirst := none
  reclaimedLogicalHighWater := none
  reclaimedAllocatedEpochHighWater := none
  selectedCheckpointAnchor := none
  records := []
  durableLen := 0
  nextEpoch := some .min
  nextPosition := some 1
  armedFault := none

/-- A new log of the first format, which has no pages. -/
def createNew (persistentId : PersistentLogId) (script : List IoResult) :
    FileCommitLog 0 :=
  createNewInternal persistentId .v1 (buildHeaderV1 persistentId).toList none script

def createNewPageCapable (width : Nat) (persistentId : PersistentLogId)
    (script : List IoResult) :
    Except FilePageWidthError (FileCommitLog width) := do
  let layout ← PageLayout.forConst width
  return createNewInternal persistentId .v2
    (buildHeaderV2 persistentId layout.width).toList none script

def createNewTransactionPageCapable (width : Nat) (persistentId : PersistentLogId)
    (script : List IoResult) : Except FilePageWidthError (FileCommitLog width) := do
  let layout ← PageLayout.forConst width
  return createNewInternal persistentId .v3
    (buildHeaderV3 persistentId layout.width).toList none script

def createNewDatabaseTransactionPageCapable (width : Nat) (persistentId : PersistentLogId)
    (databaseFileIdentity : DatabaseFileHeaderIdentity) (script : List IoResult) :
    Except FilePageWidthError (FileCommitLog width) := do
  let layout ← PageLayout.forConst width
  return createNewInternal persistentId .v5
    (buildHeaderV5Initial persistentId layout.width databaseFileIdentity).toList
    (some databaseFileIdentity) script

/-! ## Opening -/

structure LockedFileCommitLogOpen (width : Nat) where
  log : FileCommitLog width
  repairedLen : Option Nat
deriving DecidableEq

def headerTooShort (actual : Nat) : FileOpenError :=
  .format ⟨0, .header (.headerTooShort actual)⟩

def inspectHeader (expectation : HeaderExpectation) (file : List UInt8) :
    Except FileOpenError OpenedHeader := do
  rejectIf (file.length < 64) (headerTooShort file.length)
  let header := Bytes.ofList 64 file
  let headerVersion := header.readU16 8
  let unsupported : FileOpenError := .format ⟨8, .header (.headerVersion headerVersion)⟩
  let unpaged : FileOpenError := .format ⟨32, .header .headerPageWidthZero⟩
  if headerVersion = FORMAT_VERSION_V5 then
    rejectIf (¬expectation.accepts .v5) unsupported
    rejectIf (file.length < 192) (headerTooShort file.length)
    let layout ← okOr expectation.pageLayout unpaged
    let metadata ← (parseHeaderV5 (Bytes.ofList 192 file) layout).mapError .format
    return .ofV5 metadata
  else if headerVersion = FORMAT_VERSION_V4 then
    rejectIf (¬expectation.accepts .v4) unsupported
    rejectIf (file.length < 128) (headerTooShort file.length)
    let layout ← okOr expectation.pageLayout unpaged
    let metadata ← (parseHeaderV4 (Bytes.ofList 128 file) layout).mapError .format
    return .ofV4 metadata
  else
    let persistentId ← (parseHeader header expectation).mapError .format
    let format ← okOr (formatOfHeaderVersion headerVersion) unsupported
    return .unreclaimed format persistentId

/-- A reclaimed file must hold its records durably up to the high water. -/
def checkReclaimed (header : OpenedHeader) (state : OpenState width)
    (scannedLength : Nat) :
    Except FileOpenError Unit := do
  if header.format = .v4 ∨ header.format = .v5 then
    rejectIf (state.lastCompletedPosition < header.reclaimedLogicalHighWater.getD 0)
      (.format ⟨scannedLength,
        .headerV4LogicalHighWaterMismatch header.reclaimedLogicalHighWater
          ((NonZeroU64.new state.lastCompletedPosition).map NonZeroU64.get)⟩)
    let actualRetainedFirst :=
      (state.records.take state.durableLen).head?.map fun record => record.position.get
    rejectIf (header.reclaimedRetainedFirst.isSome ∧
        actualRetainedFirst ≠ header.reclaimedRetainedFirst)
      (.format ⟨48, .headerV4RetainedFirstMismatch header.reclaimedRetainedFirst
        actualRetainedFirst⟩)
    rejectIf (∃ expected ∈ header.reclaimedLogicalHighWater,
        ∀ actual ∈ state.lastDurablePosition, actual < expected)
      (.format ⟨56, .headerV4LogicalHighWaterMismatch header.reclaimedLogicalHighWater
        state.lastDurablePosition⟩)

/-- Scan a file. The requests its writer makes later are answered by `script`. -/
def inspectInternal (width : Nat) (expectation : HeaderExpectation) (file : List UInt8)
    (script : List IoResult) : Except FileOpenError (LockedFileCommitLogOpen width) := do
  let header ← inspectHeader expectation file
  let lineage := LogLineage.persistent header.persistentId
  let frameRegionLen := file.length - header.headerLength
  let completeFrameCount := frameRegionLen / 56
  let frames := FrameLog.readFrames 56 completeFrameCount (file.drop header.headerLength)
  let openState
    ← (FrameLog.scan (OpenState.readFrame header.format) header.headerLength frames
    (header.openState expectation.pageLayout)).mapError .format
  checkReclaimed header openState (header.headerLength + completeFrameCount * 56)
  return {
    log := {
      writer := { bytes := file, script, poisoned := false }
      format := header.format
      lineage
      persistentId := header.persistentId
      databaseFileIdentity := header.databaseFileIdentity
      generation := header.generation
      reclaimedRetainedFirst := header.reclaimedRetainedFirst.map lineage.position
      reclaimedLogicalHighWater := header.reclaimedLogicalHighWater.map lineage.position
      reclaimedAllocatedEpochHighWater := header.allocatedEpochHighWater
      selectedCheckpointAnchor := header.selectedCheckpointAnchor
      records := openState.records
      durableLen := openState.durableLen
      nextEpoch := openState.nextEpoch
      nextPosition := openState.nextPosition
      armedFault := none }
    repairedLen := FrameLog.repairedLength 56 openState.pendingPageHeaderOffset
      header.headerLength frameRegionLen }

/-- Cut off what `inspectInternal` found torn. -/
def LockedFileCommitLogOpen.finish (opened : LockedFileCommitLogOpen width) :
    FileCommitLog width :=
  match opened.repairedLen with
  | some repairedLen => { opened.log with
      writer :=
        { opened.log.writer with bytes := opened.log.writer.bytes.take repairedLen } }
  | none => opened.log

def openInternal (width : Nat) (expectation : HeaderExpectation) (file : List UInt8)
    (script : List IoResult) : Except FileOpenError (FileCommitLog width) := do
  let opened ← inspectInternal width expectation file script
  return opened.finish

def «open» (file : List UInt8) (script : List IoResult) :
    Except FileOpenError (FileCommitLog 0) :=
  openInternal 0 .v1 file script

def openPageCapable (width : Nat) (file : List UInt8) (script : List IoResult) :
    Except FileOpenError (FileCommitLog width) := do
  let layout ← (PageLayout.forConst width).mapError .pageWidth
  openInternal width (.v2 layout) file script

def openTransactionPageCapable (width : Nat) (file : List UInt8)
    (script : List IoResult) :
    Except FileOpenError (FileCommitLog width) := do
  let layout ← (PageLayout.forConst width).mapError .pageWidth
  openInternal width (.v3OrLater layout) file script

/-! ## Observing -/

def durablePosition (log : FileCommitLog width) : Option LogSequenceNumber :=
  ((log.records.take log.durableLen).getLast?.map FileLogRecord.position).or
    log.reclaimedLogicalHighWater

def allocatedEpochHighWater (log : FileCommitLog width) : Option NonZeroU64 :=
  match log.nextEpoch with
  | some nextEpoch => (checkedPred nextEpoch.get).bind NonZeroU64.new
  | none => some .max

/-! ## Appending -/

abbrev Write (width : Nat) := EStateM FileCommitLogError (FileCommitLog width)

section Requests

variable {ε : Type}

def consumeFault (point : FaultPoint) : EStateM ε (FileCommitLog width) Bool := do
  if (← get).armedFault = some point then
    modify fun log => { log with armedFault := none }
    return true
  else
    return false

/-- A request to the file, whose failure is reported with its stage. -/
def request (error : FileIoStage → ε)
    (action : AppendFile → Except FileIoStage Unit × AppendFile) :
    EStateM ε (FileCommitLog width) Unit :=
  fun log =>
    match action log.writer with
    | (.ok (), writer) => .ok () { log with writer }
    | (.error stage, writer) => .error (error stage) { log with writer }

end Requests

/-- The frames of one page image, each with the stage that reports its failure. -/
def pageGroupFrames (format : LogFormat) (layout : PageLayout) (position : U64)
    (page : FilePageWriteRecord width) (owner : Option StoredTransactionIdentity) :
    List (FileIoStage × Bytes 56) :=
  let header := match owner with
    | some owner =>
        [(.writeTransactionPageHeaderFrame,
          buildFrame format .transactionPageHeader position
            page.pageNumber.get page.pageVersion.get),
          (.writeTransactionPageOwnerFrame,
            buildFrame format .transactionPageOwner position owner.epoch owner.sequence)]
    | none =>
        [(.writePageHeaderFrame,
          buildFrame format .pageHeader position page.pageNumber.get
          page.pageVersion.get)]
  header ++ (List.range layout.chunkCount).map fun chunkIndex =>
    (.writePageDataFrame, buildFrameWithPayload2Bytes format .pageData position
      (Fin.ofNat (2 ^ 64) chunkIndex) (layout.pageChunk page.bytes chunkIndex))

def recordFrames (format : LogFormat) (layout : PageLayout)
    (record : FileLogRecord width) :
    List (Bytes 56) :=
  match record.kind with
  | .transactionCommit transaction =>
      [buildFrame format .commitRecord record.position.get transaction.epoch
        transaction.sequence]
  | .pageWrite page =>
      (pageGroupFrames format layout record.position.get page none).map Prod.snd
  | .transactionPageWrite owner page =>
      (pageGroupFrames format layout record.position.get page (some owner)).map Prod.snd

def pageKind (page : FilePageWriteRecord width) :
    Option StoredTransactionIdentity → FileLogRecordKind width
  | some owner => .transactionPageWrite owner page
  | none => .pageWrite page

def appendPageGroup {pageWidth : Nat} (page : UnloggedPage pageWidth)
    (owner : Option StoredTransactionIdentity) : Write width LogSequenceNumber := do
  let log ← get
  check (rejectIf log.writer.poisoned .poisonedWriter)
  check (rejectIf (¬log.format.supportsPages) .pageSupportUnavailable)
  check (rejectIf (width ≠ pageWidth) (.pageWidthMismatch width pageWidth))
  check (rejectIf (log.lineage ≠ page.address.lineage)
    (.foreignPageLineage page.address.number))
  let layout ← check ((PageLayout.forConst width).mapError .pageWidth)
  let positionValue ← check (okOr log.nextPosition .positionSpaceExhausted)
  if ← consumeFault .beforeAppend then
    throw (.injectedFault .beforeAppend)
  let stored : FilePageWriteRecord width := {
    pageNumber := page.address.number
    pageVersion := page.version
    bytes := Bytes.ofList width page.image.toList }
  request .io (AppendFile.writeFrames
    (pageGroupFrames log.format layout positionValue stored owner))
  let position := log.lineage.position positionValue
  modify fun log => { log with
    records := log.records ++ [⟨position, pageKind stored owner⟩]
    nextPosition := checkedSucc positionValue }
  if ← consumeFault .afterAppend then
    throw (.injectedFault .afterAppend)
  return position

def appendPageInternal {pageWidth : Nat} (page : UnloggedPage pageWidth) :
    Write width LogSequenceNumber :=
  appendPageGroup page none

def appendTransactionPageInternal {pageWidth : Nat} (transactionId : TransactionId)
    (page : UnloggedPage pageWidth) : Write width LogSequenceNumber := do
  check (rejectIf (¬(← get).format.supportsTransactionPages)
    .transactionPageSupportUnavailable)
  appendPageGroup page (some (.fromTransactionId transactionId))

def appendCommit (transactionId : TransactionId) : Write width LogSequenceNumber := do
  let log ← get
  check (rejectIf log.writer.poisoned .poisonedWriter)
  let positionValue ← check (okOr log.nextPosition .positionSpaceExhausted)
  if ← consumeFault .beforeAppend then
    throw (.injectedFault .beforeAppend)
  let transaction := StoredTransactionIdentity.fromTransactionId transactionId
  request .io (AppendFile.writeFrames [(.writeCommitFrame,
    buildFrame log.format .commitRecord positionValue transaction.epoch
      transaction.sequence)])
  let position := log.lineage.position positionValue
  modify fun log => { log with
    records := log.records ++ [⟨position, .transactionCommit transaction⟩]
    nextPosition := checkedSucc positionValue }
  if ← consumeFault .afterAppend then
    throw (.injectedFault .afterAppend)
  return position

def allocateTransactionEpochFrame :
    EStateM FileTransactionEpochError (FileCommitLog width)
      (NonZeroU64 × LogLineage) := do
  let log ← get
  check (rejectIf log.writer.poisoned .poisonedWriter)
  let epoch ← check (okOr log.nextEpoch .epochSpaceExhausted)
  request .io (AppendFile.writeFrames [(.writeEpochFrame,
    buildFrame log.format .epochAllocation epoch.get 0 0)])
  request .io (AppendFile.syncAll .syncEpochFrame true)
  modify fun log => { log with nextEpoch := NonZeroU64.checkedNext epoch.get }
  return (epoch, log.lineage)

def flushThrough (position : LogSequenceNumber) : Write width Unit := do
  let log ← get
  check (rejectIf log.writer.poisoned .poisonedWriter)
  check (rejectIf (log.lineage ≠ position.lineage) (.foreignFlushPosition position))
  let recordIndex ← check
    (okOr (log.records.findIdx? fun record => record.position = position)
      (.unknownFlushPosition position))
  let requestedDurableLen := recordIndex + 1
  if requestedDurableLen ≤ log.durableLen then
    return ()
  else
    if ← consumeFault .beforeFlush then
      throw (.injectedFault .beforeFlush)
    request .io (AppendFile.syncAll .syncCommitPrefix false)
    request .io (AppendFile.writeFrames [(.writeDurableMarker,
      buildFrame log.format .durableThrough position.get 0 0)])
    request .io (AppendFile.syncAll .syncDurableMarker true)
    modify fun log => { log with durableLen := requestedDurableLen }
    if ← consumeFault .afterFlush then
      throw (.injectedFault .afterFlush)

def armFault (log : FileCommitLog width) (fault : FaultPoint) : FileCommitLog width :=
  match log.armedFault with
  | some _ => log
  | none => { log with armedFault := some fault }

end FileCommitLog

end Ntsql.Storage
