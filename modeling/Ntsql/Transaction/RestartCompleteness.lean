import Ntsql.Transaction.CheckpointBaseline
import Ntsql.Transaction.RestartAnalysis

/-! # Restart completeness

The page table and the replay start of a durable prefix, read against a page
store, and the checkpoint baseline they are lowered to. -/

namespace Ntsql.Transaction

open OrderedScan SortedTable

variable {width : Nat} {StoreError : Type}

abbrev ObservePage (width : Nat) (StoreError : Type) :=
  PageNumber → Except StoreError (Option (StoredPageSnapshotObservation width))

structure RestartCompletenessAnalysis where
  transactionAnalysis : RestartAnalysis
  pages : List RestartPageEntry
  replayStart : RestartReplayStart
deriving DecidableEq

inductive RestartCompletenessEvidenceError where
  | restartAnalysis (source : RestartAnalysisEvidenceError)
  | analyzedPageFrontierMissing (pageNumber : PageNumber)
  | ownedPageTransactionMissing (pageNumber : PageNumber)
      (transaction : DurableTransactionIdentityObservation) (pagePosition : U64)
  | uncommittedTransactionPageRangeMissing
      (transaction : DurableTransactionIdentityObservation)
  | unexpectedSnapshotPage (expected actual : PageNumber)
  | foreignSnapshotLineage (pageNumber : PageNumber) (position : LogSequenceNumber)
  | snapshotBeyondFrontier (pageNumber : PageNumber) (position frontier : U64)
  | snapshotPositionUnbacked (pageNumber : PageNumber) (position : U64)
  | snapshotPayloadContradiction (pageNumber : PageNumber) (position : U64)
  | snapshotBackedByUncommittedTransactionPage (pageNumber : PageNumber)
      (transaction : DurableTransactionIdentityObservation) (pagePosition : U64)
  | requiredPageImageMissing (pageNumber : PageNumber) (storedPosition : U64)
  | snapshotBeyondRequiredImage (pageNumber : PageNumber)
      (storedPosition requiredPosition : U64)
deriving DecidableEq

inductive RestartCompletenessError (StoreError : Type) where
  | storeObservation (pageNumber : PageNumber) (source : StoreError)
  | evidence (source : RestartCompletenessEvidenceError)
deriving DecidableEq

/-! ## One page -/

def restartTransactionEntry (analysis : RestartAnalysis) (pageNumber : PageNumber)
    (transaction : DurableTransactionIdentityObservation) (pagePosition : U64) :
    Except RestartCompletenessEvidenceError RestartEntry :=
  okOr (search RestartEntry.transaction transaction analysis.transactions)
    (.ownedPageTransactionMissing pageNumber transaction pagePosition)

/-- One round of `latest_required_restart_page_image`. -/
def requirePageImage (analysis : RestartAnalysis) (pageNumber : PageNumber)
    (required : Option RestartRequiredPageImage) :
    DurableTransactionRestartObservation width →
      Except RestartCompletenessEvidenceError (Option RestartRequiredPageImage)
  | .page observation =>
      if observation.pageNumber = pageNumber then
        return some (.raw observation.position.get)
      else
        return required
  | .transactionPage observation =>
      if observation.page.pageNumber = pageNumber then do
        let entry ← restartTransactionEntry analysis pageNumber observation.owner
          observation.position.get
        match entry.state with
        | .committed commitPosition =>
            return some (.committedTransaction observation.owner observation.position.get
              commitPosition.get)
        | .uncommitted => return required
      else
        return required
  | .commit _ => return required

def latestRequiredRestartPageImage (analysis : RestartAnalysis) (pageNumber : PageNumber)
    (observations : List (DurableTransactionRestartObservation width)) :
    Except RestartCompletenessEvidenceError (Option RestartRequiredPageImage) :=
  observations.foldlM (requirePageImage analysis pageNumber) none

def SnapshotPayloadMatches (snapshot : StoredPageSnapshotObservation width)
    (page : DurablePageWalObservation width) : Prop :=
  snapshot.pageVersion = page.pageVersion ∧ snapshot.image = page.image

instance (snapshot : StoredPageSnapshotObservation width)
    (page : DurablePageWalObservation width) :
      Decidable (SnapshotPayloadMatches snapshot page) :=
  inferInstanceAs (Decidable (_ ∧ _))

/-- The record a stored position names, checked against the snapshot. -/
def checkSnapshotBacking (analysis : RestartAnalysis) (pageNumber : PageNumber)
    (snapshot : StoredPageSnapshotObservation width) :
    DurableTransactionRestartObservation width →
      Except RestartCompletenessEvidenceError Unit
  | .page observation => do
      let position := snapshot.requiredPosition.get
      rejectIf (observation.pageNumber ≠ pageNumber)
        (.snapshotPositionUnbacked pageNumber position)
      rejectIf (¬SnapshotPayloadMatches snapshot observation)
        (.snapshotPayloadContradiction pageNumber position)
  | .transactionPage observation => do
      let position := snapshot.requiredPosition.get
      rejectIf (observation.page.pageNumber ≠ pageNumber)
        (.snapshotPositionUnbacked pageNumber position)
      rejectIf (¬SnapshotPayloadMatches snapshot observation.page)
        (.snapshotPayloadContradiction pageNumber position)
      let entry ← restartTransactionEntry analysis pageNumber observation.owner position
      rejectIf (entry.state = .uncommitted)
        (.snapshotBackedByUncommittedTransactionPage pageNumber
          observation.owner position)
  | .commit _ =>
      throw (.snapshotPositionUnbacked pageNumber snapshot.requiredPosition.get)

def validateRestartPageSnapshot (lineage : LogLineage) (analysis : RestartAnalysis)
    (observations : List (DurableTransactionRestartObservation width))
    (pageNumber : PageNumber) (snapshot : StoredPageSnapshotObservation width) :
    Except RestartCompletenessEvidenceError U64 := do
  rejectIf (snapshot.pageNumber ≠ pageNumber)
    (.unexpectedSnapshotPage pageNumber snapshot.pageNumber)
  rejectIf (lineage ≠ snapshot.requiredPosition.lineage)
    (.foreignSnapshotLineage pageNumber snapshot.requiredPosition)
  let frontier ← okOr analysis.durableFrontier (.analyzedPageFrontierMissing pageNumber)
  let position := snapshot.requiredPosition.get
  rejectIf (frontier.get < position)
    (.snapshotBeyondFrontier pageNumber position frontier.get)
  let backing ← okOr (search (fun record => record.position.get) position observations)
    (.snapshotPositionUnbacked pageNumber position)
  checkSnapshotBacking analysis pageNumber snapshot backing
  return position

def RestartRequiredPageImage.pagePosition : RestartRequiredPageImage → U64
  | .raw pagePosition => pagePosition
  | .committedTransaction _ pagePosition _ => pagePosition

/-! ## The replay start -/

def lowerRestartReplayStart (current : Option (U64 × RestartReplayStartCause))
    (position : U64)
    (cause : RestartReplayStartCause) : Option (U64 × RestartReplayStartCause) :=
  match current with
  | some (currentPosition, currentCause) =>
      if currentPosition ≤ position then some (currentPosition, currentCause)
      else some (position, cause)
  | none => some (position, cause)

def lowerForTransaction (floor : Option (U64 × RestartReplayStartCause))
    (entry : RestartEntry) :
    Except RestartCompletenessEvidenceError (Option (U64 × RestartReplayStartCause)) :=
  match entry.state with
  | .uncommitted => do
      let first ← okOr entry.firstOwnedPagePosition
        (.uncommittedTransactionPageRangeMissing entry.transaction)
      return lowerRestartReplayStart floor first.get
        (.uncommittedTransaction entry.transaction)
  | .committed _ => return floor

/-- A page's effect on the replay start. -/
def RestartPageEntry.lower (floor : Option (U64 × RestartReplayStartCause))
    (entry : RestartPageEntry) : Option (U64 × RestartReplayStartCause) :=
  match entry.state with
  | .storeMissing required =>
      lowerRestartReplayStart floor required.pagePosition (.storeMissing entry.pageNumber)
  | .storeBehind _ required =>
      lowerRestartReplayStart floor required.pagePosition (.storeBehind entry.pageNumber)
  | .noRequiredImage => floor
  | .storeCurrent _ _ => floor

def replayStartOf (frontier : Option U64) :
    Option (U64 × RestartReplayStartCause) → RestartReplayStart
  | some (position, cause) => .atPosition position cause
  | none => .afterFrontier frontier

/-! ## The page table -/

/-- What a required image and a stored position make of a page. -/
def restartPageState (pageNumber : PageNumber) :
    Option RestartRequiredPageImage → Option U64 →
      Except RestartCompletenessEvidenceError RestartPageState
  | none, none => return .noRequiredImage
  | none, some storedPosition =>
      throw (.requiredPageImageMissing pageNumber storedPosition)
  | some required, none => return .storeMissing required
  | some required, some storedPosition =>
      if storedPosition = required.pagePosition then
        return .storeCurrent required storedPosition
      else if storedPosition < required.pagePosition then
        return .storeBehind storedPosition required
      else
        throw (.snapshotBeyondRequiredImage pageNumber storedPosition
          required.pagePosition)

def analyzeRestartPage (lineage : LogLineage) (analysis : RestartAnalysis)
    (observations : List (DurableTransactionRestartObservation width))
    (observePage : ObservePage width StoreError) (pageNumber : PageNumber) :
    Except (RestartCompletenessError StoreError) RestartPageEntry := do
  let required ←
    (latestRequiredRestartPageImage analysis pageNumber observations).mapError .evidence
  let snapshot ← (observePage pageNumber).mapError (.storeObservation pageNumber)
  let storedPosition ←
    match snapshot with
    | some snapshot =>
        ((validateRestartPageSnapshot lineage analysis observations pageNumber
          snapshot).map some).mapError .evidence
    | none => pure none
  let state ← (restartPageState pageNumber required storedPosition).mapError .evidence
  return ⟨pageNumber, state⟩

/-- The pages selected before and those of the records: sorted, then
deduplicated. -/
def restartPageNumbers (selectedPages : List RestartPageEntry)
    (observations : List (DurableTransactionRestartObservation width)) :
      List PageNumber :=
  ((selectedPages.map (·.pageNumber) ++
    (observations.filterMap (·.pageImage)).map (·.pageNumber)).mergeSort
      fun left right => left.get ≤ right.get).dedup

def deriveRestartCompletenessFromAnalysisEvidence (lineage : LogLineage)
    (transactionAnalysis : RestartAnalysis)
    (observations : List (DurableTransactionRestartObservation width))
    (selectedPages : List RestartPageEntry) (observePage : ObservePage width StoreError) :
    Except (RestartCompletenessError StoreError) RestartCompletenessAnalysis := do
  let floor ← (transactionAnalysis.transactions.foldlM lowerForTransaction none).mapError
    .evidence
  let pages ← (restartPageNumbers selectedPages observations).mapM
    (analyzeRestartPage lineage transactionAnalysis observations observePage)
  return ⟨transactionAnalysis, pages,
    replayStartOf (transactionAnalysis.durableFrontier.map (·.get))
      (pages.foldl RestartPageEntry.lower floor)⟩

def analyzeRestartCompletenessEvidence (lineage : LogLineage)
    (durableFrontier : Option LogSequenceNumber)
    (observations : List (DurableTransactionRestartObservation width))
    (observePage : ObservePage width StoreError) :
    Except (RestartCompletenessError StoreError) RestartCompletenessAnalysis := do
  let transactionAnalysis ←
    (analyzeDurableTransactionRestartEvidence lineage durableFrontier
      observations).mapError fun source => .evidence (.restartAnalysis source)
  deriveRestartCompletenessFromAnalysisEvidence lineage transactionAnalysis
    observations [] observePage

/-! ## Lowering to a baseline -/

inductive RestartCheckpointBaselineError where
  | persistentLineageRequired
  | ownedPageCountWidthExceeded (transaction : DurableTransactionIdentityObservation)
      (recordCount : Nat)
deriving DecidableEq

def RestartState.lower : RestartState → RestartCheckpointBaselineState
  | .uncommitted => .uncommitted
  | .committed commitPosition => .committed commitPosition.get

def prepareRestartCheckpointBaselineEntry (entry : RestartEntry) :
    Except RestartCheckpointBaselineError RestartCheckpointBaselineEntry := do
  let ownedPageRecordCount ← okOr (tryU64 entry.ownedPageRecordCount)
    (.ownedPageCountWidthExceeded entry.transaction entry.ownedPageRecordCount)
  return {
    transaction := entry.transaction
    firstOwnedPagePosition := entry.firstOwnedPagePosition.map (·.get)
    lastOwnedPagePosition := entry.lastOwnedPagePosition.map (·.get)
    ownedPageRecordCount
    state := entry.state.lower }

def prepareRestartCheckpointBaseline (analysis : RestartAnalysis) :
    Except RestartCheckpointBaselineError RestartCheckpointBaseline := do
  let persistentLogId ← okOr analysis.lineage.persistentId .persistentLineageRequired
  let transactions ← analysis.transactions.mapM prepareRestartCheckpointBaselineEntry
  return ⟨persistentLogId, analysis.durableFrontier.map (·.get), transactions⟩

def prepareRestartCheckpointCompletenessBaseline
    (analysis : RestartCompletenessAnalysis) :
    Except RestartCheckpointBaselineError RestartCheckpointCompletenessBaseline := do
  let transactionBaseline ← prepareRestartCheckpointBaseline analysis.transactionAnalysis
  return ⟨transactionBaseline, analysis.pages, analysis.replayStart⟩

end Ntsql.Transaction
