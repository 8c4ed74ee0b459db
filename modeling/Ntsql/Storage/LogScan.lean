import Ntsql.Foundation.FrameLog
import Ntsql.Storage.LogHeader

/-! # Scanning a commit log

The frames of a log file and the state machine that reads them. A page image is
one group of frames; every other frame stands alone. -/

namespace Ntsql.Storage

open Bytes

/-! ## Frames -/

/-- `NTSQ`. -/
def FRAME_MAGIC : Bytes 4 := #v[0x4e, 0x54, 0x53, 0x51]

inductive FrameKind where
  | epochAllocation
  | commitRecord
  | durableThrough
  | pageHeader
  | pageData
  | transactionPageHeader
  | transactionPageOwner
deriving DecidableEq

namespace FrameKind

def fromU16 (format : LogFormat) (value : U16) : Option FrameKind :=
  if value = 1 then some .epochAllocation
  else if value = 2 then some .commitRecord
  else if value = 3 then some .durableThrough
  else if value = 4 ∧ format.supportsPages then some .pageHeader
  else if value = 5 ∧ format.supportsPages then some .pageData
  else if value = 6 ∧ format.supportsTransactionPages then some .transactionPageHeader
  else if value = 7 ∧ format.supportsTransactionPages then some .transactionPageOwner
  else none

def code : FrameKind → U16
  | .epochAllocation => 1
  | .commitRecord => 2
  | .durableThrough => 3
  | .pageHeader => 4
  | .pageData => 5
  | .transactionPageHeader => 6
  | .transactionPageOwner => 7

end FrameKind

def parseFrame (frame : Bytes 56) (offset : Nat) (format : LogFormat) :
    Except FileFormatError (DecodedFrame FrameKind) :=
  (parseFrameBytes FRAME_MAGIC (FrameKind.fromU16 format) format.frameVersion frame
    offset).mapError fun error => ⟨error.offset, .frame error.reason⟩

def buildFrameWithPayload2Bytes (format : LogFormat) (kind : FrameKind)
    (payload0 payload1 : U64) (payload2Bytes : Bytes 8) : Bytes 56 :=
  frameBytes FRAME_MAGIC kind.code format.frameVersion payload0 payload1 payload2Bytes

def buildFrame (format : LogFormat) (kind : FrameKind)
    (payload0 payload1 payload2 : U64) :
    Bytes 56 :=
  buildFrameWithPayload2Bytes format kind payload0 payload1
    (Bytes.ofList 8 (bigEndian 8 payload2.val))

/-! ## Records -/

structure StoredTransactionIdentity where
  epoch : U64
  sequence : U64
deriving DecidableEq

def StoredTransactionIdentity.fromTransactionId (transactionId : TransactionId) :
    StoredTransactionIdentity :=
  ⟨transactionId.epoch.get, transactionId.sequence.get⟩

/-- One full page image as it was appended. -/
structure FilePageWriteRecord (width : Nat) where
  pageNumber : PageNumber
  pageVersion : PageVersion
  bytes : Bytes width
deriving DecidableEq

inductive FileLogRecordKind (width : Nat) where
  | transactionCommit (transaction : StoredTransactionIdentity)
  | pageWrite (page : FilePageWriteRecord width)
  | transactionPageWrite (owner : StoredTransactionIdentity)
      (page : FilePageWriteRecord width)
deriving DecidableEq

structure FileLogRecord (width : Nat) where
  position : LogSequenceNumber
  kind : FileLogRecordKind width
deriving DecidableEq

def FileLogRecord.transactionIdentity {width : Nat} (record : FileLogRecord width) :
    Option StoredTransactionIdentity :=
  match record.kind with
  | .transactionCommit transaction => some transaction
  | _ => none

/-! ## The open state -/

inductive PendingPageOwnership where
  | raw
  | awaitingOwner
  | owned (owner : StoredTransactionIdentity)
deriving DecidableEq

/-- A page group whose last frame has not been read. -/
structure PendingPageRecord (width : Nat) where
  headerOffset : Nat
  position : U64
  pageNumber : PageNumber
  pageVersion : PageVersion
  ownership : PendingPageOwnership
  bytes : Bytes width
  nextChunkIndex : Nat
  expectedChunkCount : Nat
deriving DecidableEq

namespace PendingPageRecord

variable {width : Nat}

def new (headerOffset : Nat) (position : U64) (pageNumber : PageNumber)
    (pageVersion : PageVersion) (ownership : PendingPageOwnership) (layout : PageLayout) :
      PendingPageRecord width where
  headerOffset
  position
  pageNumber
  pageVersion
  ownership
  bytes := Bytes.zero width
  nextChunkIndex := 0
  expectedChunkCount := layout.chunkCount

def copyChunk (pending : PendingPageRecord width) (chunk : Bytes 8)
    (layout : PageLayout) :
    PendingPageRecord width :=
  { pending with
    bytes := layout.copyChunk pending.bytes pending.nextChunkIndex chunk
    nextChunkIndex := pending.nextChunkIndex + 1 }

def requiresZeroPadding (pending : PendingPageRecord width)
    (layout : PageLayout) : Bool :=
  0 < pending.nextChunkIndex ∧ pending.nextChunkIndex = pending.expectedChunkCount ∧
    layout.finalChunkLen < 8

def isComplete (pending : PendingPageRecord width) (layout : PageLayout) : Bool :=
  pending.nextChunkIndex = layout.chunkCount

def intoRecord (pending : PendingPageRecord width) (lineage : LogLineage) :
    Except FileFormatError (FileLogRecord width) := do
  let page : FilePageWriteRecord width := {
    pageNumber := pending.pageNumber
    pageVersion := pending.pageVersion
    bytes := pending.bytes }
  let kind ← match pending.ownership with
    | .raw => .ok (.pageWrite page)
    | .owned owner => .ok (.transactionPageWrite owner page)
    | .awaitingOwner =>
        formatError (pending.headerOffset + 4) .transactionPageOwnerMissing
  return ⟨lineage.position pending.position, kind⟩

end PendingPageRecord

structure OpenState (width : Nat) where
  lineage : LogLineage
  pageLayout : Option PageLayout
  records : List (FileLogRecord width)
  durableLen : Nat
  lastDurablePosition : Option U64
  lastCompletedPosition : U64
  highestAllocatedEpoch : U64
  nextEpoch : Option NonZeroU64
  nextPosition : Option U64
  pendingPage : Option (PendingPageRecord width)
deriving DecidableEq

namespace OpenState

variable {width : Nat}

def new (lineage : LogLineage) (pageLayout : Option PageLayout)
    (highestAllocatedEpoch : U64) (nextPosition : Option U64)
    (lastCompletedPosition : U64) (lastDurablePosition : Option U64) :
    OpenState width where
  lineage
  pageLayout
  records := []
  durableLen := 0
  lastDurablePosition
  lastCompletedPosition
  highestAllocatedEpoch
  nextEpoch := NonZeroU64.checkedNext highestAllocatedEpoch
  nextPosition
  pendingPage := none

def pendingPageHeaderOffset (state : OpenState width) : Option Nat :=
  state.pendingPage.map PendingPageRecord.headerOffset

def applyPendingTransactionPageOwner (state : OpenState width)
    (pending : PendingPageRecord width) (frame : DecodedFrame FrameKind) (offset : Nat) :
    Except FileFormatError (OpenState width) := do
  rejectIf (frame.kind ≠ .transactionPageOwner)
    ⟨offset + 4, .transactionPageOwnerInterruptedByFrameKind frame.kind.code⟩
  rejectIf (frame.payload0 = 0) ⟨offset + 16, .transactionPageOwnerParentPositionZero⟩
  rejectIf (frame.payload0 ≠ pending.position)
    ⟨offset + 16, .transactionPageOwnerParentMismatch pending.position frame.payload0⟩
  rejectIf (frame.payload1 = 0) ⟨offset + 24, .transactionPageOwnerEpochZero⟩
  rejectIf (state.highestAllocatedEpoch < frame.payload1)
    ⟨offset + 24,
      .transactionPageOwnerEpochUnallocated frame.payload1 state.highestAllocatedEpoch⟩
  rejectIf (frame.payload2 = 0) ⟨offset + 32, .transactionPageOwnerSequenceZero⟩
  return { state with
    pendingPage :=
      some { pending with ownership := .owned ⟨frame.payload1, frame.payload2⟩ } }

def applyPendingPageDataFrame (state : OpenState width)
    (pending : PendingPageRecord width) (frame : DecodedFrame FrameKind) (offset : Nat) :
    Except FileFormatError (OpenState width) := do
  rejectIf (frame.kind ≠ .pageData)
    ⟨offset + 4, .pageDataInterruptedByFrameKind frame.kind.code⟩
  rejectIf (frame.payload0 = 0) ⟨offset + 16, .pageDataParentPositionZero⟩
  rejectIf (frame.payload0 ≠ pending.position)
    ⟨offset + 16, .pageDataParentMismatch pending.position frame.payload0⟩
  let expected := Fin.ofNat (2 ^ 64) pending.nextChunkIndex
  rejectIf (frame.payload1 ≠ expected)
    ⟨offset + 24, .pageDataChunkIndexOutOfSequence expected frame.payload1⟩
  let layout ← okOr state.pageLayout ⟨offset + 32, .pageDataWithoutHeader⟩
  let copied := pending.copyChunk frame.payload2Bytes layout
  let logicalLen := layout.logicalBytesForChunk (copied.nextChunkIndex - 1)
  rejectIf (copied.requiresZeroPadding layout ∧
      anyNonzero (frame.payload2Bytes.slice logicalLen (8 - logicalLen)))
    ⟨offset + 32, .pageDataFinalPaddingNonzero⟩
  if copied.isComplete layout then
    let record ← copied.intoRecord state.lineage
    return { state with
      pendingPage := none
      lastCompletedPosition := record.position.get
      nextPosition := checkedSucc record.position.get
      records := state.records ++ [record] }
  else
    return { state with pendingPage := some copied }

def applyPendingPageFrame (state : OpenState width) (pending : PendingPageRecord width)
    (frame : DecodedFrame FrameKind) (offset : Nat) :
      Except FileFormatError (OpenState width) :=
  match pending.ownership with
  | .awaitingOwner => state.applyPendingTransactionPageOwner pending frame offset
  | .raw =>
      if frame.kind = .transactionPageOwner then
        formatError (offset + 4) .transactionPageOwnerWithoutHeader
      else state.applyPendingPageDataFrame pending frame offset
  | .owned _ =>
      if frame.kind = .transactionPageOwner then
        formatError (offset + 4) .transactionPageOwnerDuplicate
      else state.applyPendingPageDataFrame pending frame offset

def applyEpochFrame (state : OpenState width) (frame : DecodedFrame FrameKind)
    (offset : Nat) :
    Except FileFormatError (OpenState width) := do
  rejectIf (frame.payload0 = 0) ⟨offset + 16, .epochValueZero⟩
  rejectIf (frame.payload1 ≠ 0)
    ⟨offset + 24, .unexpectedNonzeroPayload "payload1" frame.payload1⟩
  rejectIf (frame.payload2 ≠ 0)
    ⟨offset + 32, .unexpectedNonzeroPayload "payload2" frame.payload2⟩
  let expected ← okOr state.nextEpoch ⟨offset + 16, .epochSpaceExhausted⟩
  rejectIf (frame.payload0 ≠ expected.get)
    ⟨offset + 16, .epochOutOfSequence expected.get frame.payload0⟩
  return { state with
    highestAllocatedEpoch := frame.payload0
    nextEpoch := NonZeroU64.checkedNext frame.payload0 }

def applyCommitFrame (state : OpenState width) (frame : DecodedFrame FrameKind)
    (offset : Nat) :
    Except FileFormatError (OpenState width) := do
  rejectIf (frame.payload0 = 0) ⟨offset + 16, .commitPositionZero⟩
  rejectIf (frame.payload1 = 0) ⟨offset + 24, .commitEpochZero⟩
  rejectIf (frame.payload2 = 0) ⟨offset + 32, .commitSequenceZero⟩
  let expected ← okOr state.nextPosition ⟨offset + 16, .commitPositionSpaceExhausted⟩
  rejectIf (frame.payload0 ≠ expected)
    ⟨offset + 16, .commitPositionOutOfSequence expected frame.payload0⟩
  rejectIf (state.highestAllocatedEpoch < frame.payload1)
    ⟨offset + 24, .commitEpochUnallocated frame.payload1 state.highestAllocatedEpoch⟩
  let transaction : StoredTransactionIdentity := ⟨frame.payload1, frame.payload2⟩
  rejectIf (∃ record ∈ state.records, record.transactionIdentity = some transaction)
    ⟨offset + 24, .duplicateTransactionIdentity frame.payload1 frame.payload2⟩
  return { state with
    records := state.records ++
      [⟨state.lineage.position frame.payload0, .transactionCommit transaction⟩]
    lastCompletedPosition := frame.payload0
    nextPosition := checkedSucc frame.payload0 }

def applyMarkerFrame (state : OpenState width) (frame : DecodedFrame FrameKind)
    (offset : Nat) :
    Except FileFormatError (OpenState width) := do
  rejectIf (frame.payload0 = 0) ⟨offset + 16, .markerPositionZero⟩
  rejectIf (frame.payload1 ≠ 0)
    ⟨offset + 24, .unexpectedNonzeroPayload "payload1" frame.payload1⟩
  rejectIf (frame.payload2 ≠ 0)
    ⟨offset + 32, .unexpectedNonzeroPayload "payload2" frame.payload2⟩
  let previous := state.lastDurablePosition.getD 0
  rejectIf (frame.payload0 ≤ previous)
    ⟨offset + 16, .markerDoesNotAdvance previous frame.payload0⟩
  rejectIf (state.lastCompletedPosition < frame.payload0)
    ⟨offset + 16,
      .markerReferencesUnknownCommit frame.payload0 state.lastCompletedPosition⟩
  let index ← okOr (state.records.findIdx? fun record =>
    record.position.get = frame.payload0)
    ⟨offset + 16,
      .markerReferencesUnknownCommit frame.payload0 state.lastCompletedPosition⟩
  return { state with
    durableLen := index + 1
    lastDurablePosition := some frame.payload0 }

def applyPageHeaderFrame (state : OpenState width) (frame : DecodedFrame FrameKind)
    (offset : Nat)
    (ownership : PendingPageOwnership) : Except FileFormatError (OpenState width) := do
  rejectIf (frame.payload0 = 0) ⟨offset + 16, .pageHeaderPositionZero⟩
  let expected ← okOr state.nextPosition ⟨offset + 16, .pageHeaderPositionSpaceExhausted⟩
  rejectIf (frame.payload0 ≠ expected)
    ⟨offset + 16, .pageHeaderPositionOutOfSequence expected frame.payload0⟩
  let pageNumber ← okOr (NonZeroU64.new frame.payload1) ⟨offset + 24, .pageNumberZero⟩
  let layout ← okOr state.pageLayout ⟨offset + 24, .pageDataWithoutHeader⟩
  return { state with
    pendingPage :=
      some (.new offset frame.payload0 pageNumber ⟨frame.payload2⟩ ownership layout) }

/-- A frame inside a page group continues it; any other frame stands alone. -/
def applyFrame (state : OpenState width) (frame : DecodedFrame FrameKind) (offset : Nat) :
    Except FileFormatError (OpenState width) :=
  match state.pendingPage with
  | some pending => state.applyPendingPageFrame pending frame offset
  | none =>
      match frame.kind with
      | .epochAllocation => state.applyEpochFrame frame offset
      | .commitRecord => state.applyCommitFrame frame offset
      | .durableThrough => state.applyMarkerFrame frame offset
      | .pageHeader => state.applyPageHeaderFrame frame offset .raw
      | .transactionPageHeader => state.applyPageHeaderFrame frame offset .awaitingOwner
      | .transactionPageOwner =>
          formatError (offset + 4) .transactionPageOwnerWithoutHeader
      | .pageData => formatError (offset + 4) .pageDataWithoutHeader

def readFrame (format : LogFormat) (state : OpenState width) (frame : Bytes 56)
    (offset : Nat) :
    Except FileFormatError (OpenState width) := do
  let decoded ← parseFrame frame offset format
  state.applyFrame decoded offset

end OpenState

end Ntsql.Storage
