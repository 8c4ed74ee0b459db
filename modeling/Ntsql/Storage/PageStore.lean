import Ntsql.Foundation.AppendFile
import Ntsql.Storage.Header

/-! # The page store

An append-only file of page snapshots. Each snapshot is one group of frames: a
header, the required log position and the chunks of the image. Opening scans
the groups, keeps the latest snapshot of every page, and cuts a torn group off
the end. -/

namespace Ntsql.Storage

open Bytes

/-- `NTSQPGS1`. -/
def PAGE_STORE_HEADER_MAGIC : Bytes 8 :=
  #v[0x4e, 0x54, 0x53, 0x51, 0x50, 0x47, 0x53, 0x31]

/-- `NTSP`. -/
def PAGE_STORE_FRAME_MAGIC : Bytes 4 := #v[0x4e, 0x54, 0x53, 0x50]

def PAGE_STORE_FORMAT_VERSION : U16 := 1

def PAGE_STORE_FORMAT_VERSION_V2 : U16 := 2

inductive PageStoreFormat where
  | v1
  | v2
deriving DecidableEq

inductive PageStoreFrameKind where
  | snapshotHeader
  | requiredPosition
  | pageData
deriving DecidableEq

namespace PageStoreFrameKind

def fromU16 (value : U16) : Option PageStoreFrameKind :=
  if value = 1 then some .snapshotHeader
  else if value = 2 then some .requiredPosition
  else if value = 3 then some .pageData
  else none

def code : PageStoreFrameKind → U16
  | .snapshotHeader => 1
  | .requiredPosition => 2
  | .pageData => 3

@[simp] theorem fromU16_code (kind : PageStoreFrameKind) :
    fromU16 kind.code = some kind := by
  cases kind <;> rfl

end PageStoreFrameKind

inductive PageStoreFaultPoint where
  | beforeWrite
  | afterWrite
deriving DecidableEq

inductive PageStoreIoStage where
  | writeSnapshotHeaderFrame
  | writeRequiredPositionFrame
  | writePageDataFrame
  | syncPageGroup
deriving DecidableEq

inductive PageStoreFormatErrorReason where
  | header (reason : HeaderErrorReason)
  | frame (reason : FrameErrorReason)
  | snapshotSequenceZero
  | snapshotSequenceOutOfOrder (expected actual : U64)
  | snapshotSequenceSpaceExhausted
  | snapshotPageNumberZero
  | requiredPositionZero
  | requiredPositionSequenceMismatch (expected actual : U64)
  | requiredPositionPayloadCNonzero (actual : U64)
  | pageDataSequenceMismatch (expected actual : U64)
  | pageDataChunkIndexOutOfSequence (expected actual : U64)
  | pageDataFinalPaddingNonzero
  | pageDataWithoutHeader
  | unexpectedKindAfterHeader (actual : U16)
  | unexpectedKindAfterRequiredPosition (actual : U16)
deriving DecidableEq

abbrev PageStoreFormatError := FormatError PageStoreFormatErrorReason

inductive PageStoreOpenError where
  | pageWidth (error : FilePageWidthError)
  | format (error : PageStoreFormatError)
deriving DecidableEq

inductive FilePageStoreError where
  | injectedFault (point : PageStoreFaultPoint)
  | pageWidth (error : FilePageWidthError)
  | poisonedWriter
  | foreignPageLineage (page : PageNumber)
  | foreignPermitLineage (position : LogSequenceNumber)
  | permitPositionMismatch (expected actual : LogSequenceNumber)
  | requiredPositionZero (page : PageNumber)
  | storeSequenceSpaceExhausted
  | io (stage : PageStoreIoStage)
deriving DecidableEq

structure FileStoredPage (width : Nat) where
  pageNumber : PageNumber
  pageVersion : PageVersion
  bytes : Bytes width
  requiredPosition : LogSequenceNumber
  storeSequence : U64
deriving DecidableEq

structure FilePageStore (width : Nat) where
  writer : AppendFile
  format : PageStoreFormat
  lineage : LogLineage
  persistentId : PersistentLogId
  databaseFileIdentity : Option DatabaseFileHeaderIdentity
  pages : List (FileStoredPage width)
  nextSequence : Option U64
  armedFault : Option PageStoreFaultPoint
deriving DecidableEq

/-! ## Headers and frames -/

def buildPageStoreHeader (persistentId : PersistentLogId) (pageWidth : U64) : Bytes 64 :=
  let header := Bytes.zero 64
  let header := header.copyFromSlice 0 PAGE_STORE_HEADER_MAGIC.toList
  let header := header.writeU16 8 PAGE_STORE_FORMAT_VERSION
  let header := header.writeU16 10 64
  let header := header.writeU32 12 0
  let header := header.writeU128 16 persistentId.get
  let header := header.writeU64 32 pageWidth
  header.writeU64 56 (checksumV1 (header.slice 0 56))

def buildPageStoreHeaderV2 (persistentId : PersistentLogId) (pageWidth : U64)
    (databaseFileIdentity : DatabaseFileHeaderIdentity) : Bytes 128 :=
  let header := Bytes.zero 128
  let header := header.copyFromSlice 0 PAGE_STORE_HEADER_MAGIC.toList
  let header := header.writeU16 8 PAGE_STORE_FORMAT_VERSION_V2
  let header := header.writeU16 10 128
  let header := header.writeU128 16 persistentId.get
  let header := header.writeU64 32 pageWidth
  let header :=
    header.copyFromSlice 64 (encodeDatabaseChildIdentity databaseFileIdentity).toList
  header.writeU64 120 (checksumV1 (header.slice 0 120))

def parsePageStoreHeader (header : Bytes 64) (layout : PageLayout) :
    Except (FormatError HeaderErrorReason) PersistentLogId := do
  let persistentId ← parseHeaderStart PAGE_STORE_HEADER_MAGIC
    PAGE_STORE_FORMAT_VERSION 64 header
  checkPageWidth header layout
  checkReserved header 40 56
  checkHeaderChecksum header 56
  return persistentId

def parsePageStoreHeaderV2 (header : Bytes 128) (layout : PageLayout) :
    Except (FormatError HeaderErrorReason)
      (PersistentLogId × DatabaseFileHeaderIdentity) := do
  let persistentId ← parseHeaderStart PAGE_STORE_HEADER_MAGIC
    PAGE_STORE_FORMAT_VERSION_V2 128 header
  checkPageWidth header layout
  checkReserved header 40 64
  let databaseFileIdentity ← parseChildIdentity header 64
  checkReserved header 112 120
  checkHeaderChecksum header 120
  return (persistentId, databaseFileIdentity)

def parsePageStoreFrame (frame : Bytes 56) (offset : Nat) :
    Except (FormatError FrameErrorReason) (DecodedFrame PageStoreFrameKind) :=
  parseFrameBytes PAGE_STORE_FRAME_MAGIC PageStoreFrameKind.fromU16
    PAGE_STORE_FORMAT_VERSION frame offset

def buildPageStoreFrameWithPayload2Bytes (kind : PageStoreFrameKind)
    (payloadA payloadB : U64) (payloadCBytes : Bytes 8) : Bytes 56 :=
  frameBytes PAGE_STORE_FRAME_MAGIC kind.code PAGE_STORE_FORMAT_VERSION payloadA payloadB
    payloadCBytes

def buildPageStoreFrame (kind : PageStoreFrameKind)
    (payloadA payloadB payloadC : U64) : Bytes 56 :=
  buildPageStoreFrameWithPayload2Bytes kind payloadA payloadB
    (Bytes.ofList 8 (bigEndian 8 payloadC.val))

/-! ## Scanning -/

/-- What the scanner expects next. -/
inductive PageStoreGroupState where
  | idle
  | awaitingRequiredPosition (headerOffset : Nat) (sequence : U64)
      (pageNumber : PageNumber) (pageVersion : PageVersion)
  | awaitingPageData (headerOffset : Nat) (sequence : U64) (pageNumber : PageNumber)
      (pageVersion : PageVersion) (requiredPosition : U64)
      (nextChunkIndex chunkCount : Nat)
deriving DecidableEq

structure PageStoreOpenState (width : Nat) where
  layout : PageLayout
  lineage : LogLineage
  pages : List (FileStoredPage width)
  nextSequence : Option U64
  groupState : PageStoreGroupState
  pendingBytes : Bytes width
deriving DecidableEq

/-- Overwrite the snapshot of the same page, or add one. -/
def putPage {width : Nat} (pages : List (FileStoredPage width))
    (stored : FileStoredPage width) :
    List (FileStoredPage width) :=
  match pages.findIdx? (fun page => page.pageNumber = stored.pageNumber) with
  | some index => pages.set index stored
  | none => pages ++ [stored]

namespace PageStoreOpenState

variable {width : Nat}

def new (layout : PageLayout) (lineage : LogLineage) : PageStoreOpenState width where
  layout
  lineage
  pages := []
  nextSequence := some 1
  groupState := .idle
  pendingBytes := Bytes.zero width

def pendingGroupHeaderOffset (state : PageStoreOpenState width) : Option Nat :=
  match state.groupState with
  | .idle => none
  | .awaitingRequiredPosition headerOffset .. => some headerOffset
  | .awaitingPageData headerOffset .. => some headerOffset

def applyIdleFrame (state : PageStoreOpenState width)
    (frame : DecodedFrame PageStoreFrameKind)
    (offset : Nat) : Except PageStoreFormatError (PageStoreOpenState width) := do
  rejectIf (frame.kind ≠ .snapshotHeader) ⟨offset + 4, .pageDataWithoutHeader⟩
  rejectIf (frame.payload0 = 0) ⟨offset + 16, .snapshotSequenceZero⟩
  let expected ← okOr state.nextSequence ⟨offset + 16, .snapshotSequenceSpaceExhausted⟩
  rejectIf (frame.payload0 ≠ expected)
    ⟨offset + 16, .snapshotSequenceOutOfOrder expected frame.payload0⟩
  let pageNumber ← okOr (NonZeroU64.new frame.payload1)
    ⟨offset + 24, .snapshotPageNumberZero⟩
  return { state with
    pendingBytes := Bytes.zero width
    groupState :=
      .awaitingRequiredPosition offset frame.payload0 pageNumber ⟨frame.payload2⟩ }

def applyAwaitingRequiredPositionFrame (state : PageStoreOpenState width)
    (frame : DecodedFrame PageStoreFrameKind) (offset headerOffset : Nat) (sequence : U64)
    (pageNumber : PageNumber) (pageVersion : PageVersion) :
    Except PageStoreFormatError (PageStoreOpenState width) := do
  rejectIf (frame.kind ≠ .requiredPosition)
    ⟨offset + 4, .unexpectedKindAfterHeader frame.kind.code⟩
  rejectIf (frame.payload0 ≠ sequence)
    ⟨offset + 16, .requiredPositionSequenceMismatch sequence frame.payload0⟩
  rejectIf (frame.payload1 = 0) ⟨offset + 24, .requiredPositionZero⟩
  rejectIf (frame.payload2 ≠ 0)
    ⟨offset + 32, .requiredPositionPayloadCNonzero frame.payload2⟩
  return { state with
    groupState :=
      .awaitingPageData headerOffset sequence pageNumber pageVersion frame.payload1 0
      state.layout.chunkCount }

def applyAwaitingPageDataFrame (state : PageStoreOpenState width)
    (frame : DecodedFrame PageStoreFrameKind) (offset headerOffset : Nat) (sequence : U64)
    (pageNumber : PageNumber) (pageVersion : PageVersion) (requiredPosition : U64)
    (nextChunkIndex chunkCount : Nat) :
    Except PageStoreFormatError (PageStoreOpenState width) := do
  rejectIf (frame.kind ≠ .pageData)
    ⟨offset + 4, .unexpectedKindAfterRequiredPosition frame.kind.code⟩
  rejectIf (frame.payload0 ≠ sequence)
    ⟨offset + 16, .pageDataSequenceMismatch sequence frame.payload0⟩
  let expected := Fin.ofNat (2 ^ 64) nextChunkIndex
  rejectIf (frame.payload1 ≠ expected)
    ⟨offset + 24, .pageDataChunkIndexOutOfSequence expected frame.payload1⟩
  let pendingBytes :=
    state.layout.copyChunk state.pendingBytes nextChunkIndex frame.payload2Bytes
  let newNext := nextChunkIndex + 1
  rejectIf (newNext = chunkCount ∧ state.layout.finalChunkLen < 8 ∧
      anyNonzero (frame.payload2Bytes.slice state.layout.finalChunkLen
        (8 - state.layout.finalChunkLen)))
    ⟨offset + 32, .pageDataFinalPaddingNonzero⟩
  if newNext = chunkCount then
    let stored : FileStoredPage width := {
      pageNumber, pageVersion
      bytes := pendingBytes
      requiredPosition := state.lineage.position requiredPosition
      storeSequence := sequence }
    return { state with
      pendingBytes
      pages := putPage state.pages stored
      nextSequence := checkedSucc sequence
      groupState := .idle }
  else
    return { state with
      pendingBytes
      groupState :=
        .awaitingPageData headerOffset sequence pageNumber pageVersion requiredPosition
        newNext chunkCount }

def applyFrame (state : PageStoreOpenState width)
    (frame : DecodedFrame PageStoreFrameKind)
    (offset : Nat) : Except PageStoreFormatError (PageStoreOpenState width) :=
  match state.groupState with
  | .idle => state.applyIdleFrame frame offset
  | .awaitingRequiredPosition headerOffset sequence pageNumber pageVersion =>
      state.applyAwaitingRequiredPositionFrame frame offset headerOffset
        sequence pageNumber pageVersion
  | .awaitingPageData headerOffset sequence pageNumber pageVersion requiredPosition
      nextChunkIndex chunkCount =>
      state.applyAwaitingPageDataFrame frame offset headerOffset sequence
        pageNumber pageVersion requiredPosition nextChunkIndex chunkCount

def readFrame (state : PageStoreOpenState width) (frame : Bytes 56) (offset : Nat) :
    Except PageStoreFormatError (PageStoreOpenState width) := do
  let decoded ← (parsePageStoreFrame frame offset).mapError fun error =>
    ⟨error.offset, .frame error.reason⟩
  state.applyFrame decoded offset

end PageStoreOpenState

/-! ## Creating and opening -/

namespace FilePageStore

variable {width : Nat}

def createNewInternal (persistentId : PersistentLogId) (format : PageStoreFormat)
    (header : List UInt8) (databaseFileIdentity : Option DatabaseFileHeaderIdentity)
    (script : List IoResult) : FilePageStore width where
  writer := { bytes := header, script, poisoned := false }
  format
  lineage := .persistent persistentId
  persistentId
  databaseFileIdentity
  pages := []
  nextSequence := some 1
  armedFault := none

def createNew (width : Nat) (persistentId : PersistentLogId) (script : List IoResult) :
    Except FilePageWidthError (FilePageStore width) := do
  let layout ← PageLayout.forConst width
  return createNewInternal persistentId .v1
    (buildPageStoreHeader persistentId layout.width).toList none script

structure LockedFilePageStoreOpen (width : Nat) where
  store : FilePageStore width
  repairedLen : Option Nat
deriving DecidableEq

def headerError (error : FormatError HeaderErrorReason) : PageStoreOpenError :=
  .format ⟨error.offset, .header error.reason⟩

/-- The format, identities and length of a header. -/
def inspectHeader (layout : PageLayout) (file : List UInt8) :
    Except PageStoreOpenError
      (PageStoreFormat × PersistentLogId × Option DatabaseFileHeaderIdentity × Nat) := do
  rejectIf (file.length < 64) (headerError ⟨0, .headerTooShort file.length⟩)
  let header := Bytes.ofList 64 file
  if header.readU16 8 = PAGE_STORE_FORMAT_VERSION_V2 then
    rejectIf (file.length < 128) (headerError ⟨0, .headerTooShort file.length⟩)
    let metadata ← (parsePageStoreHeaderV2 (Bytes.ofList 128 file) layout).mapError
      headerError
    return (.v2, metadata.1, some metadata.2, 128)
  else
    let persistentId ← (parsePageStoreHeader header layout).mapError headerError
    return (.v1, persistentId, none, 64)

/-- Scan a file. The requests its writer makes later are answered by `script`. -/
def inspect (width : Nat) (file : List UInt8) (script : List IoResult) :
    Except PageStoreOpenError (LockedFilePageStoreOpen width) := do
  let layout ← (PageLayout.forConst width).mapError .pageWidth
  let (format, persistentId, databaseFileIdentity, headerLength)
    ← inspectHeader layout file
  let lineage := LogLineage.persistent persistentId
  let frameRegionLen := file.length - headerLength
  let frames := FrameLog.readFrames 56 (frameRegionLen / 56) (file.drop headerLength)
  let openState ← (FrameLog.scan PageStoreOpenState.readFrame headerLength frames
    (PageStoreOpenState.new layout lineage)).mapError .format
  return {
    store := {
      writer := { bytes := file, script, poisoned := false }
      format, lineage, persistentId, databaseFileIdentity
      pages := openState.pages
      nextSequence := openState.nextSequence
      armedFault := none }
    repairedLen :=
      FrameLog.repairedLength 56 openState.pendingGroupHeaderOffset headerLength
        frameRegionLen }

/-- Cut off what `inspect` found torn. -/
def LockedFilePageStoreOpen.finish (opened : LockedFilePageStoreOpen width) :
    FilePageStore width :=
  match opened.repairedLen with
  | some repairedLen => { opened.store with
      writer :=
        { opened.store.writer with bytes := opened.store.writer.bytes.take repairedLen } }
  | none => opened.store

def «open» (width : Nat) (file : List UInt8) (script : List IoResult) :
    Except PageStoreOpenError (FilePageStore width) := do
  let opened ← inspect width file script
  return opened.finish

/-! ## Writing -/

abbrev Write (width : Nat) := EStateM FilePageStoreError (FilePageStore width)

def pageIndex (store : FilePageStore width) (pageNumber : PageNumber) : Option Nat :=
  store.pages.findIdx? fun stored => stored.pageNumber = pageNumber

def page (store : FilePageStore width) (pageNumber : PageNumber) :
    Option (FileStoredPage width) :=
  store.pages.find? fun stored => stored.pageNumber = pageNumber

def consumeFault (point : PageStoreFaultPoint) : Write width Bool := do
  if (← get).armedFault = some point then
    modify fun store => { store with armedFault := none }
    return true
  else
    return false

/-- A request to the file, whose failure is reported with its stage. -/
def request (action : AppendFile → Except PageStoreIoStage Unit × AppendFile) :
    Write width Unit :=
  fun store =>
    match action store.writer with
    | (.ok (), writer) => .ok () { store with writer }
    | (.error stage, writer) => .error (.io stage) { store with writer }

/-- The frames of one snapshot, each with the stage that reports its failure. -/
def snapshotFrames (layout : PageLayout) (stored : FileStoredPage width)
    (sequence : U64) :
    List (PageStoreIoStage × Bytes 56) :=
  (.writeSnapshotHeaderFrame,
    buildPageStoreFrame .snapshotHeader sequence stored.pageNumber.get
      stored.pageVersion.get) ::
    (.writeRequiredPositionFrame, buildPageStoreFrame .requiredPosition sequence
      stored.requiredPosition.get 0) ::
    (List.range layout.chunkCount).map fun chunkIndex =>
      (.writePageDataFrame, buildPageStoreFrameWithPayload2Bytes .pageData sequence
        (Fin.ofNat (2 ^ 64) chunkIndex) (layout.pageChunk stored.bytes chunkIndex))

def writeSnapshotGroup (layout : PageLayout) (stored : FileStoredPage width)
    (existingIndex : Option Nat) (sequence : U64) : Write width Unit := do
  let store ← get
  check (rejectIf store.writer.poisoned .poisonedWriter)
  if ← consumeFault .beforeWrite then
    throw (.injectedFault .beforeWrite)
  request (AppendFile.writeFrames (snapshotFrames layout stored sequence))
  request (AppendFile.syncAll .syncPageGroup true)
  modify fun store => { store with
    pages := match existingIndex with
      | some index => store.pages.set index stored
      | none => store.pages ++ [stored]
    nextSequence := checkedSucc sequence }
  if ← consumeFault .afterWrite then
    throw (.injectedFault .afterWrite)

/-- Proof that a page's required position is durable. -/
structure PageWritePermit where
  durablePosition : LogSequenceNumber
deriving DecidableEq

def writePage (page : DirtyPage width) (permit : PageWritePermit) : Write width Unit := do
  let store ← get
  check (rejectIf store.writer.poisoned .poisonedWriter)
  let layout ← check ((PageLayout.forConst width).mapError .pageWidth)
  check (rejectIf (store.lineage ≠ page.address.lineage)
    (.foreignPageLineage page.address.number))
  check (rejectIf (store.lineage ≠ permit.durablePosition.lineage)
    (.foreignPermitLineage permit.durablePosition))
  check (rejectIf (permit.durablePosition ≠ page.requiredPosition)
    (.permitPositionMismatch page.requiredPosition permit.durablePosition))
  check (rejectIf (page.requiredPosition.get = 0)
    (.requiredPositionZero page.address.number))
  let sequence ← check (okOr store.nextSequence .storeSequenceSpaceExhausted)
  let existingIndex := store.pageIndex page.address.number
  let stored : FileStoredPage width := {
    pageNumber := page.address.number
    pageVersion := page.version
    bytes := page.image
    requiredPosition := page.requiredPosition
    storeSequence := sequence }
  writeSnapshotGroup layout stored existingIndex sequence

/-! ## Recovery replacements -/

inductive PageRecoveryStoreError where
  | pageStore (error : FilePageStoreError)
  | foreignTargetPagePosition (position : LogSequenceNumber)
  | foreignTargetCommitPosition (position : LogSequenceNumber)
  | foreignPermitPagePosition (position : LogSequenceNumber)
  | foreignPermitCommitPosition (position : LogSequenceNumber)
  | permitPagePositionMismatch (expected actual : LogSequenceNumber)
  | permitCommitPositionMismatch (expected actual : Option LogSequenceNumber)
  | sourceNotMatched
deriving DecidableEq

/-- The image recovery wants stored, with the comparison of what is stored now
against what it was planned from. A raw image has no commit position. -/
structure PageRecoveryCandidate (width : Nat) where
  pageNumber : PageNumber
  pageVersion : PageVersion
  bytes : Bytes width
  pagePosition : LogSequenceNumber
  commitPosition : Option LogSequenceNumber
  sourceMatches : Option (FileStoredPage width) → Bool
  positioned : pagePosition.get ≠ 0

structure PageRecoveryWritePermit where
  pagePosition : LogSequenceNumber
  commitPosition : Option LogSequenceNumber
deriving DecidableEq

abbrev Replace (width : Nat) := EStateM PageRecoveryStoreError (FilePageStore width)

def reportToRecovery (action : Write width Unit) : Replace width Unit := fun store =>
  match action store with
  | .ok value store => .ok value store
  | .error error store => .error (.pageStore error) store

/-- A position, when there is one, must belong to the lineage. -/
def rejectForeign {ε : Type} (lineage : LogLineage) (position : Option LogSequenceNumber)
    (error : LogSequenceNumber → ε) : Except ε Unit :=
  match position with
  | some position => rejectIf (lineage ≠ position.lineage) (error position)
  | none => .ok ()

def compareAndReplaceReplayPage (candidate : PageRecoveryCandidate width)
    (permit : PageRecoveryWritePermit) : Replace width Unit := do
  let store ← get
  check (rejectIf (store.lineage ≠ candidate.pagePosition.lineage)
    (.foreignTargetPagePosition candidate.pagePosition))
  check (rejectForeign store.lineage candidate.commitPosition
    .foreignTargetCommitPosition)
  check (rejectIf (store.lineage ≠ permit.pagePosition.lineage)
    (.foreignPermitPagePosition permit.pagePosition))
  check (rejectForeign store.lineage permit.commitPosition .foreignPermitCommitPosition)
  check (rejectIf (permit.pagePosition ≠ candidate.pagePosition)
    (.permitPagePositionMismatch candidate.pagePosition permit.pagePosition))
  check (rejectIf (permit.commitPosition ≠ candidate.commitPosition)
    (.permitCommitPositionMismatch candidate.commitPosition permit.commitPosition))
  check (rejectIf (¬candidate.sourceMatches (store.page candidate.pageNumber))
    .sourceNotMatched)
  let layout ← check ((PageLayout.forConst width).mapError fun error =>
    .pageStore (.pageWidth error))
  let sequence ← check (okOr store.nextSequence (.pageStore .storeSequenceSpaceExhausted))
  let stored : FileStoredPage width := {
    pageNumber := candidate.pageNumber
    pageVersion := candidate.pageVersion
    bytes := candidate.bytes
    requiredPosition := candidate.pagePosition
    storeSequence := sequence }
  reportToRecovery
    (writeSnapshotGroup layout stored (store.pageIndex candidate.pageNumber) sequence)

/-- The committed-page recovery also refuses a poisoned writer up front. -/
def compareAndReplace (candidate : PageRecoveryCandidate width)
    (permit : PageRecoveryWritePermit) :
    Replace width Unit := do
  check (rejectIf (← get).writer.poisoned (.pageStore .poisonedWriter))
  compareAndReplaceReplayPage candidate permit

end FilePageStore

end Ntsql.Storage
