import Ntsql.Storage.PageStore

/-! # What the page-store scanner reads

Each frame a writer lays out is read back as the step it stands for, so a whole
snapshot is read as its page and a torn one as nothing. -/

namespace Ntsql.Storage

open Bytes FrameLog

variable {width : Nat}

theorem parsePageStoreFrame_build (kind : PageStoreFrameKind) (payloadA payloadB : U64)
    (payloadCBytes : Bytes 8) (offset : Nat) :
    parsePageStoreFrame
      (buildPageStoreFrameWithPayload2Bytes kind payloadA payloadB payloadCBytes) offset =
      .ok {
        kind
        payload0 := payloadA
        payload1 := payloadB
        payload2 := uintOf 64 payloadCBytes.toList
        payload2Bytes := payloadCBytes } :=
  parseFrameBytes_frameBytes (PageStoreFrameKind.fromU16_code kind) payloadA payloadB
    payloadCBytes offset

theorem uintOf_payload (value : U64) :
    uintOf 64 (Bytes.ofList 8 (bigEndian 8 value.val)).toList = value := by
  rw [toList_ofList (length_bigEndian 8 value.val)]
  exact uintOf_bigEndian (rfl : 64 = 8 * 8) value

namespace PageStoreOpenState

theorem readFrame_build (state : PageStoreOpenState width) (kind : PageStoreFrameKind)
    (payloadA payloadB : U64) (payloadCBytes : Bytes 8) (offset : Nat) :
    state.readFrame
      (buildPageStoreFrameWithPayload2Bytes kind payloadA payloadB payloadCBytes) offset =
      state.applyFrame {
        kind
        payload0 := payloadA
        payload1 := payloadB
        payload2 := uintOf 64 payloadCBytes.toList
        payload2Bytes := payloadCBytes } offset := by
  rw [readFrame, parsePageStoreFrame_build]
  rfl

/-- The scanner is between groups and `stored` is the snapshot it expects. -/
structure Admits (layout : PageLayout) (state : PageStoreOpenState width)
    (stored : FileStoredPage width) : Prop where
  layout_eq : state.layout = layout
  lineage_eq : stored.requiredPosition.lineage = state.lineage
  positioned : stored.requiredPosition.get ≠ 0
  sequence_eq : state.nextSequence = some stored.storeSequence
  sequence_ne_zero : stored.storeSequence ≠ 0

def afterHeader (state : PageStoreOpenState width) (stored : FileStoredPage width)
    (offset : Nat) :
    PageStoreOpenState width :=
  { state with
    pendingBytes := Bytes.zero width
    groupState := .awaitingRequiredPosition offset stored.storeSequence stored.pageNumber
      stored.pageVersion }

/-- After the required position and `count` chunks. -/
def afterChunks (state : PageStoreOpenState width) (stored : FileStoredPage width)
    (offset : Nat) (count : Nat) : PageStoreOpenState width :=
  { state with
    pendingBytes := PageLayout.chunkPrefix stored.bytes count
    groupState := .awaitingPageData offset stored.storeSequence stored.pageNumber
      stored.pageVersion stored.requiredPosition.get count state.layout.chunkCount }

def afterSnapshot (state : PageStoreOpenState width) (stored : FileStoredPage width) :
    PageStoreOpenState width :=
  { state with
    pendingBytes := stored.bytes
    pages := putPage state.pages stored
    nextSequence := checkedSucc stored.storeSequence
    groupState := .idle }

variable {layout : PageLayout} {state : PageStoreOpenState width}
  {stored : FileStoredPage width}

theorem idle_of_pending (idle : state.pendingGroupHeaderOffset = none) :
    state.groupState = .idle := by
  cases current : state.groupState <;> simp [pendingGroupHeaderOffset, current] at idle ⊢

theorem reads_header (idle : state.pendingGroupHeaderOffset = none)
    (admits : state.Admits layout stored) (offset : Nat) :
    state.readFrame (buildPageStoreFrame .snapshotHeader stored.storeSequence
        stored.pageNumber.get stored.pageVersion.get) offset =
      .ok (state.afterHeader stored offset) := by
  rw [buildPageStoreFrame, readFrame_build, uintOf_payload, applyFrame,
    idle_of_pending idle]
  simp [applyIdleFrame, rejectIf, okOr, admits.sequence_eq, admits.sequence_ne_zero,
    Except.ok_bind, afterHeader]

theorem reads_requiredPosition (admits : state.Admits layout stored)
    (headerOffset offset : Nat) :
    (state.afterHeader stored headerOffset).readFrame
      (buildPageStoreFrame .requiredPosition
        stored.storeSequence stored.requiredPosition.get 0) offset =
      .ok (state.afterChunks stored headerOffset 0) := by
  rw [buildPageStoreFrame, readFrame_build, uintOf_payload]
  simp [afterHeader, applyFrame, applyAwaitingRequiredPositionFrame, rejectIf,
    admits.positioned, Except.ok_bind, afterChunks]

def chunkFrame (layout : PageLayout) (stored : FileStoredPage width)
    (chunkIndex : Nat) : Bytes 56 :=
  buildPageStoreFrameWithPayload2Bytes .pageData stored.storeSequence
    (Fin.ofNat (2 ^ 64) chunkIndex) (layout.pageChunk stored.bytes chunkIndex)

theorem reads_chunk (fits : layout.Fits width) (admits : state.Admits layout stored)
    (headerOffset offset : Nat) {index : Nat} (more : index + 1 < layout.chunkCount) :
    (state.afterChunks stored headerOffset index).readFrame
      (chunkFrame layout stored index) offset =
      .ok (state.afterChunks stored headerOffset (index + 1)) := by
  have layout_eq := admits.layout_eq
  have copied := PageLayout.copyChunk_pageChunk fits stored.bytes (Nat.lt_of_succ_lt more)
  have notLast : index + 1 ≠ layout.chunkCount := by omega
  rw [chunkFrame, readFrame_build]
  simp [afterChunks, applyFrame, applyAwaitingPageDataFrame, rejectIf, Except.ok_bind,
    layout_eq, notLast, copied]

theorem reads_last_chunk (fits : layout.Fits width) (admits : state.Admits layout stored)
    (headerOffset offset : Nat) {index : Nat} (last : index + 1 = layout.chunkCount) :
    (state.afterChunks stored headerOffset index).readFrame
      (chunkFrame layout stored index) offset =
      .ok (state.afterSnapshot stored) := by
  cases admits.layout_eq
  have inPage : index < state.layout.chunkCount := by omega
  have copied := PageLayout.copyChunk_pageChunk fits stored.bytes inPage
  have whole := PageLayout.chunkPrefix_all fits stored.bytes
  have logical :
      state.layout.logicalBytesForChunk index = state.layout.finalChunkLen := by
    rw [PageLayout.logicalBytesForChunk, if_pos last]
  have padding := PageLayout.pageChunk_padding fits stored.bytes inPage
  rw [logical] at padding
  have position := LogSequenceNumber.eq_position admits.lineage_eq
  rw [chunkFrame, readFrame_build]
  simp [afterChunks, applyFrame, applyAwaitingPageDataFrame, rejectIf, Except.ok_bind,
    last, copied, whole, padding, ← position, afterSnapshot]

theorem scan_chunks (fits : layout.Fits width) (admits : state.Admits layout stored)
    (headerOffset offset : Nat) {count : Nat} (torn : count < layout.chunkCount) :
    scan readFrame offset ((List.range count).map (chunkFrame layout stored))
        (state.afterChunks stored headerOffset 0) =
      .ok (state.afterChunks stored headerOffset count) := by
  induction count with
  | zero => rfl
  | succ count induction =>
      rw [List.range_succ, List.map_append, scan_append (induction (by omega)),
        List.map_singleton, scan, reads_chunk fits admits headerOffset _ torn,
        Except.ok_bind, scan]

theorem scan_snapshot (fits : layout.Fits width)
    (idle : state.pendingGroupHeaderOffset = none) (admits : state.Admits layout stored)
    (offset : Nat) {count : Nat} (torn : count < layout.chunkCount) :
    scan readFrame offset
        (buildPageStoreFrame .snapshotHeader stored.storeSequence stored.pageNumber.get
            stored.pageVersion.get ::
          buildPageStoreFrame .requiredPosition stored.storeSequence
            stored.requiredPosition.get 0 ::
          (List.range count).map (chunkFrame layout stored)) state =
      .ok (state.afterChunks stored offset count) := by
  rw [scan, reads_header idle admits, Except.ok_bind, scan, reads_requiredPosition admits,
    Except.ok_bind, scan_chunks fits admits _ _ torn]

end PageStoreOpenState

def groupFrames (layout : PageLayout) (stored : FileStoredPage width) : List (Bytes 56) :=
  (FilePageStore.snapshotFrames layout stored stored.storeSequence).map Prod.snd

theorem groupFrames_eq (layout : PageLayout) (stored : FileStoredPage width) :
    groupFrames layout stored =
      buildPageStoreFrame .snapshotHeader stored.storeSequence stored.pageNumber.get
          stored.pageVersion.get ::
        buildPageStoreFrame .requiredPosition stored.storeSequence
          stored.requiredPosition.get 0 ::
        (List.range layout.chunkCount).map
          (PageStoreOpenState.chunkFrame layout stored) := by
  simp [groupFrames, FilePageStore.snapshotFrames, PageStoreOpenState.chunkFrame]

open PageStoreOpenState in
/-- The page-store file as groups of frames, one for each snapshot. -/
def pageStoreFormat (layout : PageLayout) (fits : layout.Fits width) :
    Format 56 (PageStoreOpenState width) (FileStoredPage width)
      (List (FileStoredPage width) × Option U64) PageStoreFormatError where
  step := PageStoreOpenState.readFrame
  pending := PageStoreOpenState.pendingGroupHeaderOffset
  view state := (state.pages, state.nextSequence)
  frames := groupFrames layout
  admits := PageStoreOpenState.Admits layout
  advance := PageStoreOpenState.afterSnapshot
  frames_ne_nil stored := by simp [groupFrames_eq]
  idle state stored := rfl
  reads_whole state stored offset idle admits := by
    have positive := fits.chunkCount_pos
    have count : layout.chunkCount = layout.chunkCount - 1 + 1 := by omega
    have front :=
      scan_snapshot fits idle admits offset
        (by omega : layout.chunkCount - 1 < layout.chunkCount)
    rw [groupFrames_eq, count, List.range_succ, List.map_append, ← List.cons_append,
      ← List.cons_append, scan_append front, List.map_singleton, scan,
      reads_last_chunk fits admits offset _ count.symm, Except.ok_bind, scan]
  reads_torn state stored offset count idle admits started torn := by
    rw [groupFrames_eq] at torn ⊢
    simp only [List.length_cons, List.length_map, List.length_range] at torn
    cases count with
    | zero => omega
    | succ count =>
        cases count with
        | zero =>
            refine ⟨state.afterHeader stored offset, ?_, rfl, rfl⟩
            rw [List.take_succ_cons, List.take_zero, scan, reads_header idle admits,
              Except.ok_bind, scan]
        | succ count =>
            have within : count < layout.chunkCount := by omega
            refine ⟨state.afterChunks stored offset count, ?_, rfl, rfl⟩
            rw [List.take_succ_cons, List.take_succ_cons, ← List.map_take,
              List.take_range, Nat.min_eq_left (Nat.le_of_lt within),
              scan_snapshot fits idle admits offset within]

end Ntsql.Storage
