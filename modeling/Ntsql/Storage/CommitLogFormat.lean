import Ntsql.Storage.CommitLog

/-! # What the log scanner reads

Each group of frames a writer lays out is read back as the record, marker or
epoch it stands for, and a torn page image as nothing. -/

namespace Ntsql.Storage

open Bytes FrameLog

variable {width : Nat}

inductive LogGroup (width : Nat) where
  | epoch (epoch : NonZeroU64)
  | record (record : FileLogRecord width)
  | marker (position : U64)
deriving DecidableEq

def logGroupFrames (format : LogFormat) (layout : PageLayout) :
    LogGroup width → List (Bytes 56)
  | .epoch epoch => [buildFrame format .epochAllocation epoch.get 0 0]
  | .record record => FileCommitLog.recordFrames format layout record
  | .marker position => [buildFrame format .durableThrough position 0 0]

section Kinds

variable {format : LogFormat}

theorem fromU16_epochAllocation :
    FrameKind.fromU16 format FrameKind.epochAllocation.code =
    some .epochAllocation := rfl

theorem fromU16_commitRecord : FrameKind.fromU16 format FrameKind.commitRecord.code =
    some .commitRecord := rfl

theorem fromU16_durableThrough : FrameKind.fromU16 format FrameKind.durableThrough.code =
    some .durableThrough := rfl

theorem fromU16_page (supports : format.supportsPages = true) :
    FrameKind.fromU16 format FrameKind.pageHeader.code = some .pageHeader ∧
      FrameKind.fromU16 format FrameKind.pageData.code = some .pageData := by
  simp [FrameKind.fromU16, FrameKind.code, supports]

theorem fromU16_transactionPage (supports : format.supportsTransactionPages = true) :
    FrameKind.fromU16 format FrameKind.transactionPageHeader.code =
      some .transactionPageHeader ∧
      FrameKind.fromU16 format FrameKind.transactionPageOwner.code =
        some .transactionPageOwner := by
  simp [FrameKind.fromU16, FrameKind.code, supports]

end Kinds

namespace OpenState

variable {format : LogFormat} {layout : PageLayout} {state : OpenState width}

theorem readFrame_build {kind : FrameKind}
    (known : FrameKind.fromU16 format kind.code = some kind) (state : OpenState width)
    (payload0 payload1 : U64) (payload2Bytes : Bytes 8) (offset : Nat) :
    state.readFrame format
        (buildFrameWithPayload2Bytes format kind payload0 payload1 payload2Bytes) offset =
      state.applyFrame {
        kind, payload0, payload1
        payload2 := uintOf 64 payload2Bytes.toList
        payload2Bytes } offset := by
  rw [readFrame, parseFrame, buildFrameWithPayload2Bytes,
    parseFrameBytes_frameBytes known]
  rfl

theorem readFrame_buildFrame {kind : FrameKind}
    (known : FrameKind.fromU16 format kind.code = some kind) (state : OpenState width)
    (payload0 payload1 payload2 : U64) (offset : Nat) :
    state.readFrame format (buildFrame format kind payload0 payload1 payload2) offset =
      state.applyFrame {
        kind, payload0, payload1, payload2
        payload2Bytes := Bytes.ofList 8 (bigEndian 8 payload2.val) } offset := by
  have payload :
      uintOf 64 (Bytes.ofList 8 (bigEndian 8 payload2.val)).toList = payload2 := by
    rw [toList_ofList (length_bigEndian 8 payload2.val)]
    exact uintOf_bigEndian (rfl : 64 = 8 * 8) payload2
  rw [buildFrame, readFrame_build known, payload]

/-! ## After one group -/

def afterEpoch (state : OpenState width) (epoch : NonZeroU64) : OpenState width :=
  { state with
    pendingPage := none
    highestAllocatedEpoch := epoch.get
    nextEpoch := NonZeroU64.checkedNext epoch.get }

def afterRecord (state : OpenState width) (record : FileLogRecord width) :
    OpenState width :=
  { state with
    pendingPage := none
    records := state.records ++ [record]
    lastCompletedPosition := record.position.get
    nextPosition := checkedSucc record.position.get }

def afterMarker (state : OpenState width) (position : U64) : OpenState width :=
  { state with
    pendingPage := none
    durableLen := (state.records.findIdx fun record => record.position.get = position) + 1
    lastDurablePosition := some position }

def afterGroup (state : OpenState width) : LogGroup width → OpenState width
  | .epoch epoch => state.afterEpoch epoch
  | .record record => state.afterRecord record
  | .marker position => state.afterMarker position

/-- An epoch and sequence the log can have handed out. -/
structure Issued (state : OpenState width)
    (transaction : StoredTransactionIdentity) : Prop where
  epoch_ne_zero : transaction.epoch ≠ 0
  allocated : transaction.epoch ≤ state.highestAllocatedEpoch
  sequence_ne_zero : transaction.sequence ≠ 0

/-- What a record of this kind needs beside its position. -/
def AdmitsKind (format : LogFormat) (layout : PageLayout) (state : OpenState width) :
    FileLogRecordKind width → Prop
  | .transactionCommit transaction => state.Issued transaction ∧
      ∀ record ∈ state.records, record.transactionIdentity ≠ some transaction
  | .pageWrite _ => format.supportsPages = true ∧ state.pageLayout = some layout
  | .transactionPageWrite owner _ => format.supportsTransactionPages = true ∧
      state.pageLayout = some layout ∧ state.Issued owner

structure AdmitsRecord (format : LogFormat) (layout : PageLayout)
    (state : OpenState width) (record : FileLogRecord width) : Prop where
  lineage_eq : record.position.lineage = state.lineage
  next : state.nextPosition = some record.position.get
  position_ne_zero : record.position.get ≠ 0
  kind : state.AdmitsKind format layout record.kind

structure AdmitsMarker (state : OpenState width) (position : U64) : Prop where
  advances : state.lastDurablePosition.getD 0 < position
  completed : position ≤ state.lastCompletedPosition
  recorded : ∃ record ∈ state.records, record.position.get = position

def Admits (format : LogFormat) (layout : PageLayout) (state : OpenState width) :
    LogGroup width → Prop
  | .epoch epoch => state.nextEpoch = some epoch
  | .record record => state.AdmitsRecord format layout record
  | .marker position => state.AdmitsMarker position

/-! ## Single frames -/

theorem reads_epoch (idle : state.pendingPage = none) {epoch : NonZeroU64}
    (admits : state.nextEpoch = some epoch) (offset : Nat) :
    state.readFrame format (buildFrame format .epochAllocation epoch.get 0 0) offset =
      .ok (state.afterEpoch epoch) := by
  rw [readFrame_buildFrame fromU16_epochAllocation, applyFrame, idle]
  simp [applyEpochFrame, rejectIf, okOr, epoch.nonzero, admits, Except.ok_bind,
    afterEpoch, idle]

theorem reads_commit (idle : state.pendingPage = none) {record : FileLogRecord width}
    {transaction : StoredTransactionIdentity}
    (kind_eq : record.kind = .transactionCommit transaction)
    (admits : state.AdmitsRecord format layout record) (offset : Nat) :
    state.readFrame format
        (buildFrame format .commitRecord record.position.get transaction.epoch
          transaction.sequence) offset =
      .ok (state.afterRecord record) := by
  have kind := admits.kind
  rw [kind_eq] at kind
  rcases kind with ⟨issued, fresh⟩
  have position := LogSequenceNumber.eq_position admits.lineage_eq
  have record_eq : record =
      ⟨state.lineage.position record.position.get, .transactionCommit transaction⟩ := by
    rw [← position, ← kind_eq]
  have allocated : ¬state.highestAllocatedEpoch < transaction.epoch :=
    not_lt.mpr issued.allocated
  have unique :
      ¬∃ record ∈ state.records, record.transactionIdentity = some transaction := by
    rintro ⟨earlier, member, same⟩
    exact fresh earlier member same
  rw [readFrame_buildFrame fromU16_commitRecord, applyFrame, idle]
  simp [applyCommitFrame, rejectIf, okOr, admits.position_ne_zero, issued.epoch_ne_zero,
    issued.sequence_ne_zero, admits.next, allocated, unique, Except.ok_bind, afterRecord,
    idle, ← record_eq]

theorem reads_marker (idle : state.pendingPage = none) {position : U64}
    (admits : state.AdmitsMarker position) (offset : Nat) :
    state.readFrame format (buildFrame format .durableThrough position 0 0) offset =
      .ok (state.afterMarker position) := by
  have found : state.records.findIdx? (fun record => record.position.get = position) =
      some (state.records.findIdx fun record => record.position.get = position) :=
    List.findIdx?_eq_some_of_exists (by simpa using admits.recorded)
  have nonzero : position ≠ 0 := by
    intro zero
    have advances := admits.advances
    simp [zero] at advances
  have advances : ¬position ≤ state.lastDurablePosition.getD 0 :=
    not_le.mpr admits.advances
  have completed : ¬state.lastCompletedPosition < position := not_lt.mpr admits.completed
  rw [readFrame_buildFrame fromU16_durableThrough, applyFrame, idle]
  simp [applyMarkerFrame, rejectIf, okOr, nonzero, advances, completed, found,
    Except.ok_bind, afterMarker, idle]

/-! ## Page groups -/

structure AdmitsPage (format : LogFormat) (layout : PageLayout) (state : OpenState width)
    (owner : Option StoredTransactionIdentity) : Prop where
  supports : format.supportsPages = true
  layout_eq : state.pageLayout = some layout
  issued : ∀ transaction ∈ owner,
    format.supportsTransactionPages = true ∧ state.Issued transaction

def ownership : Option StoredTransactionIdentity → PendingPageOwnership
  | some owner => .owned owner
  | none => .raw

/-- Inside a page group, after `count` chunks. -/
def inPage (state : OpenState width) (layout : PageLayout) (position : U64)
    (page : FilePageWriteRecord width) (ownership : PendingPageOwnership)
    (offset count : Nat) :
    OpenState width :=
  { state with
    pendingPage := some {
      headerOffset := offset
      position
      pageNumber := page.pageNumber
      pageVersion := page.pageVersion
      ownership
      bytes := PageLayout.chunkPrefix page.bytes count
      nextChunkIndex := count
      expectedChunkCount := layout.chunkCount } }

def pageFront (format : LogFormat) (position : U64) (page : FilePageWriteRecord width) :
    Option StoredTransactionIdentity → List (Bytes 56)
  | some owner =>
      [buildFrame format .transactionPageHeader position page.pageNumber.get
        page.pageVersion.get,
        buildFrame format .transactionPageOwner position owner.epoch owner.sequence]
  | none =>
      [buildFrame format .pageHeader position page.pageNumber.get page.pageVersion.get]

def pageChunkFrame (format : LogFormat) (layout : PageLayout) (position : U64)
    (page : FilePageWriteRecord width) (chunkIndex : Nat) : Bytes 56 :=
  buildFrameWithPayload2Bytes format .pageData position (Fin.ofNat (2 ^ 64) chunkIndex)
    (layout.pageChunk page.bytes chunkIndex)

theorem pageGroupFrames_eq (format : LogFormat) (layout : PageLayout) (position : U64)
    (page : FilePageWriteRecord width) (owner : Option StoredTransactionIdentity) :
    (FileCommitLog.pageGroupFrames format layout position page owner).map Prod.snd =
      pageFront format position page owner ++
        (List.range layout.chunkCount).map
          (pageChunkFrame format layout position page) := by
  cases owner <;> simp [FileCommitLog.pageGroupFrames, pageFront, pageChunkFrame]

theorem new_eq (headerOffset : Nat) (position : U64) (page : FilePageWriteRecord width)
    (ownership : PendingPageOwnership) (state : OpenState width) :
    { state with
      pendingPage := some (PendingPageRecord.new headerOffset position page.pageNumber
        page.pageVersion ownership layout) } =
      state.inPage layout position page ownership headerOffset 0 := by
  simp [inPage, PendingPageRecord.new]

section Page

variable {position : U64} {page : FilePageWriteRecord width}
  {owner : Option StoredTransactionIdentity}

theorem reads_pageHeader (idle : state.pendingPage = none)
    (next : state.nextPosition = some position) (nonzero : position ≠ 0)
    (layout_eq : state.pageLayout = some layout) (supports : format.supportsPages = true)
    (offset : Nat) :
    state.readFrame format (buildFrame format .pageHeader position page.pageNumber.get
        page.pageVersion.get) offset =
      .ok (state.inPage layout position page .raw offset 0) := by
  rw [readFrame_buildFrame (fromU16_page supports).1, applyFrame, idle, ← new_eq]
  simp [applyPageHeaderFrame, rejectIf, okOr, next, nonzero, layout_eq, Except.ok_bind]

theorem reads_transactionPageHeader (idle : state.pendingPage = none)
    (next : state.nextPosition = some position) (nonzero : position ≠ 0)
    (layout_eq : state.pageLayout = some layout)
    (supports : format.supportsTransactionPages = true) (offset : Nat) :
    state.readFrame format
        (buildFrame format .transactionPageHeader position page.pageNumber.get
          page.pageVersion.get) offset =
      .ok (state.inPage layout position page .awaitingOwner offset 0) := by
  rw [readFrame_buildFrame (fromU16_transactionPage supports).1, applyFrame, idle,
    ← new_eq]
  simp [applyPageHeaderFrame, rejectIf, okOr, next, nonzero, layout_eq, Except.ok_bind]

theorem reads_transactionPageOwner {owner : StoredTransactionIdentity}
    (nonzero : position ≠ 0) (supports : format.supportsTransactionPages = true)
    (issued : state.Issued owner) (headerOffset offset : Nat) :
    (state.inPage layout position page .awaitingOwner headerOffset 0).readFrame format
        (buildFrame format .transactionPageOwner position owner.epoch owner.sequence)
          offset =
      .ok (state.inPage layout position page (.owned owner) headerOffset 0) := by
  have allocated : ¬state.highestAllocatedEpoch < owner.epoch :=
    not_lt.mpr issued.allocated
  rw [readFrame_buildFrame (fromU16_transactionPage supports).2]
  simp [inPage, applyFrame, applyPendingPageFrame, applyPendingTransactionPageOwner,
    rejectIf, nonzero, issued.epoch_ne_zero, issued.sequence_ne_zero, allocated,
    Except.ok_bind]

theorem applyFrame_pageData (state : OpenState width) (headerOffset offset count : Nat)
    (payload1 payload2 : U64) (chunk : Bytes 8) :
    (state.inPage layout position page (ownership owner) headerOffset count).applyFrame {
        kind := .pageData
        payload0 := position
        payload1, payload2
        payload2Bytes := chunk } offset =
      (state.inPage layout position page (ownership owner) headerOffset
        count).applyPendingPageDataFrame {
          headerOffset, position
          pageNumber := page.pageNumber
          pageVersion := page.pageVersion
          ownership := ownership owner
          bytes := PageLayout.chunkPrefix page.bytes count
          nextChunkIndex := count
          expectedChunkCount := layout.chunkCount } {
        kind := .pageData
        payload0 := position
        payload1, payload2
        payload2Bytes := chunk } offset := by
  cases owner <;> rfl

theorem reads_pageChunk (fits : layout.Fits width) (nonzero : position ≠ 0)
    (admits : state.AdmitsPage format layout owner) (headerOffset offset : Nat)
    {index : Nat} (more : index + 1 < layout.chunkCount) :
    (state.inPage layout position page (ownership owner) headerOffset index).readFrame
      format (pageChunkFrame format layout position page index) offset =
      .ok (state.inPage layout position page (ownership owner) headerOffset
        (index + 1)) := by
  have copied := PageLayout.copyChunk_pageChunk fits page.bytes (Nat.lt_of_succ_lt more)
  have notLast : index + 1 ≠ layout.chunkCount := by omega
  rw [pageChunkFrame, readFrame_build (fromU16_page admits.supports).2,
    applyFrame_pageData]
  simp [inPage, applyPendingPageDataFrame, rejectIf, okOr, nonzero, admits.layout_eq,
    Except.ok_bind, PendingPageRecord.copyChunk, PendingPageRecord.requiresZeroPadding,
    PendingPageRecord.isComplete, notLast, copied]

theorem intoRecord_eq (headerOffset nextChunkIndex expectedChunkCount : Nat)
    (lineage : LogLineage) :
    PendingPageRecord.intoRecord {
        headerOffset, position
        pageNumber := page.pageNumber
        pageVersion := page.pageVersion
        ownership := ownership owner
        bytes := page.bytes
        nextChunkIndex, expectedChunkCount } lineage =
      .ok ⟨lineage.position position, FileCommitLog.pageKind page owner⟩ := by
  cases owner <;> rfl

theorem reads_lastPageChunk (fits : layout.Fits width) (nonzero : position ≠ 0)
    (admits : state.AdmitsPage format layout owner) (headerOffset offset : Nat)
    {index : Nat} (last : index + 1 = layout.chunkCount) :
    (state.inPage layout position page (ownership owner) headerOffset index).readFrame
      format (pageChunkFrame format layout position page index) offset =
      .ok (state.afterRecord
        ⟨state.lineage.position position, FileCommitLog.pageKind page owner⟩) := by
  have inPage : index < layout.chunkCount := by omega
  have copied := PageLayout.copyChunk_pageChunk fits page.bytes inPage
  have whole := PageLayout.chunkPrefix_all fits page.bytes
  have padding := PageLayout.pageChunk_padding fits page.bytes inPage
  have final : layout.chunkCount - 1 = index := by omega
  rw [pageChunkFrame, readFrame_build (fromU16_page admits.supports).2,
    applyFrame_pageData]
  simp [OpenState.inPage, applyPendingPageDataFrame, rejectIf, okOr, nonzero,
    admits.layout_eq, Except.ok_bind, PendingPageRecord.copyChunk,
    PendingPageRecord.isComplete, last, final, padding, copied, whole, intoRecord_eq,
    afterRecord]

variable (page) in
theorem scan_pageFront (idle : state.pendingPage = none)
    (next : state.nextPosition = some position) (nonzero : position ≠ 0)
    (admits : state.AdmitsPage format layout owner) (offset : Nat) :
    scan (readFrame format) offset (pageFront format position page owner) state =
      .ok (state.inPage layout position page (ownership owner) offset 0) := by
  cases owner with
  | none =>
      rw [pageFront, scan,
        reads_pageHeader idle next nonzero admits.layout_eq admits.supports,
        Except.ok_bind, scan]
      rfl
  | some owner =>
      rcases admits.issued owner rfl with ⟨supports, issued⟩
      rw [pageFront, scan,
        reads_transactionPageHeader idle next nonzero admits.layout_eq supports,
        Except.ok_bind, scan, reads_transactionPageOwner nonzero supports issued,
        Except.ok_bind, scan]
      rfl

variable (page) in
theorem scan_pageChunks (fits : layout.Fits width) (nonzero : position ≠ 0)
    (admits : state.AdmitsPage format layout owner) (headerOffset offset : Nat)
    {count : Nat} (torn : count < layout.chunkCount) :
    scan (readFrame format) offset
        ((List.range count).map (pageChunkFrame format layout position page))
        (state.inPage layout position page (ownership owner) headerOffset 0) =
      .ok (state.inPage layout position page (ownership owner) headerOffset count) := by
  induction count with
  | zero => rfl
  | succ count induction =>
      rw [List.range_succ, List.map_append, scan_append (induction (by omega)),
        List.map_singleton, scan, reads_pageChunk fits nonzero admits headerOffset _ torn,
        Except.ok_bind, scan]

theorem scan_page (fits : layout.Fits width) (idle : state.pendingPage = none)
    (next : state.nextPosition = some position) (nonzero : position ≠ 0)
    (admits : state.AdmitsPage format layout owner) (offset : Nat) :
    scan (readFrame format) offset (pageFront format position page owner ++
        (List.range layout.chunkCount).map (pageChunkFrame format layout position page))
          state =
      .ok (state.afterRecord
        ⟨state.lineage.position position, FileCommitLog.pageKind page owner⟩) := by
  have positive := fits.chunkCount_pos
  have count : layout.chunkCount = layout.chunkCount - 1 + 1 := by omega
  have chunks := scan_pageChunks page fits nonzero admits offset
    (offset + (pageFront format position page owner).length * 56)
    (by omega : layout.chunkCount - 1 < layout.chunkCount)
  rw [scan_append (scan_pageFront page idle next nonzero admits offset), count,
    List.range_succ, List.map_append, scan_append chunks, List.map_singleton, scan,
    reads_lastPageChunk fits nonzero admits offset _ count.symm, Except.ok_bind, scan]

theorem scan_torn_page (fits : layout.Fits width) (idle : state.pendingPage = none)
    (next : state.nextPosition = some position) (nonzero : position ≠ 0)
    (admits : state.AdmitsPage format layout owner) (offset : Nat) {count : Nat}
    (started : 0 < count)
    (torn : count < (pageFront format position page owner).length + layout.chunkCount) :
    ∃ ownership chunks,
      scan (readFrame format) offset ((pageFront format position page owner ++
        (List.range layout.chunkCount).map
          (pageChunkFrame format layout position page)).take count) state =
      .ok (state.inPage layout position page ownership offset chunks) := by
  have front := scan_pageFront page idle next nonzero admits offset
  by_cases past : (pageFront format position page owner).length ≤ count
  · have within :
        count - (pageFront format position page owner).length < layout.chunkCount := by
      omega
    refine ⟨ownership owner, count - (pageFront format position page owner).length, ?_⟩
    rw [List.take_append, List.take_of_length_le past, scan_append front, ← List.map_take,
      List.take_range, Nat.min_eq_left (Nat.le_of_lt within),
      scan_pageChunks page fits nonzero admits _ _ within]
  · cases owner with
    | none =>
        have none : count = 0 := by simpa [pageFront] using past
        omega
    | some owner =>
        have one : count = 1 := by
          simp [pageFront] at past
          omega
        refine ⟨.awaitingOwner, 0, ?_⟩
        rw [one, pageFront]
        simp only [List.cons_append, List.take_succ_cons, List.take_zero]
        rw [scan, reads_transactionPageHeader idle next nonzero admits.layout_eq
          (admits.issued owner rfl).1, Except.ok_bind, scan]

end Page

theorem AdmitsRecord.page {record : FileLogRecord width}
    {page : FilePageWriteRecord width} {owner : Option StoredTransactionIdentity}
    (kind_eq : record.kind = FileCommitLog.pageKind page owner)
    (admits : state.AdmitsRecord format layout record) :
    state.AdmitsPage format layout owner ∧
      record = ⟨state.lineage.position record.position.get,
          FileCommitLog.pageKind page owner⟩ := by
  have kind := admits.kind
  rw [kind_eq] at kind
  constructor
  · cases owner with
    | none => exact { supports := kind.1, layout_eq := kind.2, issued := nofun }
    | some owner =>
        exact {
          supports := LogFormat.supportsPages_of_supportsTransactionPages kind.1
          layout_eq := kind.2.1
          issued := by
            intro transaction isOwner
            cases isOwner
            exact ⟨kind.1, kind.2.2⟩ }
  · rw [← LogSequenceNumber.eq_position admits.lineage_eq, ← kind_eq]

theorem recordFrames_page {record : FileLogRecord width}
    {page : FilePageWriteRecord width} {owner : Option StoredTransactionIdentity}
    (kind_eq : record.kind = FileCommitLog.pageKind page owner) :
    FileCommitLog.recordFrames format layout record =
      pageFront format record.position.get page owner ++
        (List.range layout.chunkCount).map
        (pageChunkFrame format layout record.position.get page) := by
  rw [← pageGroupFrames_eq]
  cases owner <;> simp [FileCommitLog.recordFrames, kind_eq, FileCommitLog.pageKind]

theorem kind_cases (kind : FileLogRecordKind width) :
    (∃ transaction, kind = .transactionCommit transaction) ∨
      ∃ page owner, kind = FileCommitLog.pageKind page owner := by
  cases kind with
  | transactionCommit transaction => exact .inl ⟨transaction, rfl⟩
  | pageWrite page => exact .inr ⟨page, none, rfl⟩
  | transactionPageWrite owner page => exact .inr ⟨page, some owner, rfl⟩

theorem scan_record (fits : format.supportsPages = true → layout.Fits width)
    (idle : state.pendingPage = none) {record : FileLogRecord width}
    (admits : state.AdmitsRecord format layout record) (offset : Nat) :
    scan (readFrame format) offset
      (FileCommitLog.recordFrames format layout record) state =
      .ok (state.afterRecord record) := by
  rcases kind_cases record.kind with ⟨transaction, kind_eq⟩ | ⟨page, owner, kind_eq⟩
  · have frames :
        FileCommitLog.recordFrames format layout record = [buildFrame format .commitRecord
        record.position.get transaction.epoch transaction.sequence] := by
      simp [FileCommitLog.recordFrames, kind_eq]
    rw [frames, scan, reads_commit idle kind_eq admits, Except.ok_bind, scan]
  · rcases admits.page kind_eq with ⟨admitsPage, record_eq⟩
    rw [recordFrames_page kind_eq, scan_page (fits admitsPage.supports) idle admits.next
      admits.position_ne_zero admitsPage, ← record_eq]

theorem scan_torn_record (fits : format.supportsPages = true → layout.Fits width)
    (idle : state.pendingPage = none) {record : FileLogRecord width}
    (admits : state.AdmitsRecord format layout record) (offset : Nat) {count : Nat}
    (started : 0 < count)
    (torn : count < (FileCommitLog.recordFrames format layout record).length) :
    ∃ position page ownership chunks, scan (readFrame format) offset
        ((FileCommitLog.recordFrames format layout record).take count) state =
      .ok (state.inPage layout position page ownership offset chunks) := by
  rcases kind_cases record.kind with ⟨transaction, kind_eq⟩ | ⟨page, owner, kind_eq⟩
  · simp [FileCommitLog.recordFrames, kind_eq] at torn
    omega
  · rcases admits.page kind_eq with ⟨admitsPage, _⟩
    rw [recordFrames_page kind_eq, List.length_append, List.length_map, List.length_range]
      at torn
    rcases scan_torn_page (fits admitsPage.supports) idle admits.next
      admits.position_ne_zero
      admitsPage offset started torn with ⟨ownership, chunks, scanned⟩
    rw [recordFrames_page kind_eq]
    exact ⟨_, page, ownership, chunks, scanned⟩

end OpenState

open OpenState in
def commitLogFormat (format : LogFormat) (layout : PageLayout)
    (fits : format.supportsPages = true → layout.Fits width) :
    Format 56 (OpenState width) (LogGroup width) (OpenState width) FileFormatError where
  step := readFrame format
  pending := pendingPageHeaderOffset
  view state := { state with pendingPage := none }
  frames := logGroupFrames format layout
  admits := OpenState.Admits format layout
  advance := afterGroup
  frames_ne_nil group := by
    cases group with
    | epoch epoch => exact List.cons_ne_nil _ _
    | marker position => exact List.cons_ne_nil _ _
    | record record =>
        rcases kind_cases record.kind with ⟨transaction, kind_eq⟩ | ⟨page, owner, kind_eq⟩
        · simp [logGroupFrames, FileCommitLog.recordFrames, kind_eq]
        · rw [logGroupFrames, recordFrames_page kind_eq]
          cases owner <;> simp [pageFront]
  idle state group := by
    cases group <;> rfl
  reads_whole state group offset pending admits := by
    have idle : state.pendingPage = none := Option.map_eq_none_iff.mp pending
    cases group with
    | epoch epoch =>
        rw [logGroupFrames, scan, reads_epoch idle admits, Except.ok_bind, scan,
          afterGroup]
    | marker position =>
        rw [logGroupFrames, scan, reads_marker idle admits, Except.ok_bind, scan,
          afterGroup]
    | record record => exact scan_record fits idle admits offset
  reads_torn state group offset count pending admits started torn := by
    have idle : state.pendingPage = none := Option.map_eq_none_iff.mp pending
    cases group with
    | epoch epoch =>
        simp [logGroupFrames] at torn
        omega
    | marker position =>
        simp [logGroupFrames] at torn
        omega
    | record record =>
        rcases scan_torn_record fits idle admits offset started torn with
          ⟨position, page, ownership, chunks, scanned⟩
        exact ⟨_, scanned, rfl, rfl⟩

end Ntsql.Storage
