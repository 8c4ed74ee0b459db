import Ntsql.Transaction.CheckpointSelection
import Ntsql.Transaction.CompletenessExact
import Ntsql.Transaction.WalReclamation

/-! # Materializing an anchored checkpoint

A pruned log can no longer derive its checkpoint, so what was persisted of it is
checked by itself: it is accepted exactly when it is canonical. -/

namespace Ntsql.Transaction

open SortedTable

inductive DurableTransactionIdentityObservationErrorReason where
  | zeroEpoch
  | zeroSequence
deriving DecidableEq

structure DurableTransactionIdentityObservationError where
  epoch : U64
  sequence : U64
  reason : DurableTransactionIdentityObservationErrorReason
deriving DecidableEq

def DurableTransactionIdentityObservation.new (epoch sequence : U64) :
    Except DurableTransactionIdentityObservationError
      DurableTransactionIdentityObservation := do
  let epochValue ← okOr (NonZeroU64.new epoch) ⟨epoch, sequence, .zeroEpoch⟩
  let sequenceValue ← okOr (NonZeroU64.new sequence) ⟨epoch, sequence, .zeroSequence⟩
  return ⟨epochValue, sequenceValue⟩

inductive RestartAnchoredCheckpointTransactionPositionField where
  | firstOwnedPage
  | lastOwnedPage
  | commit
deriving DecidableEq

inductive RestartAnchoredCheckpointPagePositionField where
  | requiredImage
  | requiredImageCommit
  | storedImage
deriving DecidableEq

inductive RestartPrunedGenerationSelectionEvidenceError where
  | persistentLineageRequired
  | zeroPersistentLogId (persistentLogId : U128)
  | foreignPersistentLogId (expected actual : PersistentLogId)
  | zeroCheckpointFrontier
  | invalidTransactionIdentity (index : Nat)
      (source : DurableTransactionIdentityObservationError)
  | transactionIdentityNotIncreasing (index : Nat)
      (previous actual : DurableTransactionIdentityObservation)
  | allocatorHighWaterBelowTransaction
      (transaction : DurableTransactionIdentityObservation)
      (allocatedEpochHighWater : U64)
  | transactionOwnedPageShape (index : Nat) (first last : Option U64) (count : U64)
  | transactionPositionOutOfBounds (index : Nat)
      (field : RestartAnchoredCheckpointTransactionPositionField) (position : U64)
      (checkpointFrontier : Option U64)
  | transactionCommitNotAfterOwnedPages (index : Nat)
      (lastOwnedPagePosition commitPosition : U64)
  | uncommittedTransactionWithoutOwnedPage (index : Nat)
      (transaction : DurableTransactionIdentityObservation)
  | zeroPageNumber (index : Nat)
  | pageNumberNotIncreasing (index : Nat) (previous actual : PageNumber)
  | pageStateShape (index : Nat)
      (actual : RestartCheckpointCompletenessBaselinePageObservation)
  | pagePositionOutOfBounds (index : Nat)
      (field : RestartAnchoredCheckpointPagePositionField)
      (position : U64) (checkpointFrontier : Option U64)
  | committedImageTransactionMissing (index : Nat)
      (transaction : DurableTransactionIdentityObservation)
  | committedImageTransactionMismatch (index : Nat)
      (transaction : DurableTransactionIdentityObservation)
      (pagePosition commitPosition : U64)
  | storeBehindNotBeforeRequiredImage (index : Nat)
      (storedPosition requiredPosition : U64)
  | replayShapeMismatch (expected : RestartReplayStart)
      (actual : RestartCheckpointCompletenessBaselineReplayObservation)
  | selectedCheckpointAnchorMismatch (expected : RestartSelectedCheckpointAnchor)
      (actual : Option RestartSelectedCheckpointAnchor)
deriving DecidableEq

/-! ## Positions and ranges -/

/-- `anchored_checkpoint_position_is_bounded`. -/
def AnchoredCheckpointPositionIsBounded (frontier : Option U64) (position : U64) : Prop :=
  position ≠ 0 ∧ ∃ bound ∈ frontier, position ≤ bound

instance (frontier : Option U64) (position : U64) :
    Decidable (AnchoredCheckpointPositionIsBounded frontier position) :=
  inferInstanceAs (Decidable (_ ∧ _))

/-- `range_count_is_possible`. -/
def RangeCountIsPossible : Option U64 → Option U64 → U64 → Prop
  | none, none, count => count = 0
  | some first, some last, count =>
      if count = 1 then first = last
      else 1 < count ∧ first < last ∧ count.val ≤ last.val - first.val + 1
  | _, _, _ => False

instance (first last : Option U64) (count : U64) :
    Decidable (RangeCountIsPossible first last count) := by
  unfold RangeCountIsPossible
  split <;> infer_instance

def RangeContains (first last : Option U64) (position : U64) : Prop :=
  ∃ low ∈ first, ∃ high ∈ last, low ≤ position ∧ position ≤ high

instance (first last : Option U64) (position : U64) :
    Decidable (RangeContains first last position) :=
  inferInstanceAs
    (Decidable (∃ low ∈ first, ∃ high ∈ last, low ≤ position ∧ position ≤ high))

/-! ## Transactions -/

section Rows

variable (checkpointFrontier : Option U64)

def checkTransactionPosition (index : Nat)
    (field : RestartAnchoredCheckpointTransactionPositionField) (position : Option U64) :
    Except RestartPrunedGenerationSelectionEvidenceError Unit :=
  forM position.toList fun position =>
    rejectIf (¬AnchoredCheckpointPositionIsBounded checkpointFrontier position)
      (.transactionPositionOutOfBounds index field position checkpointFrontier)

def materializeState (index : Nat) (transaction : DurableTransactionIdentityObservation)
    (last : Option U64) (count : U64) :
    RestartCheckpointBaselineStateObservation →
      Except RestartPrunedGenerationSelectionEvidenceError RestartCheckpointBaselineState
  | .uncommitted => do
      rejectIf (count = 0) (.uncommittedTransactionWithoutOwnedPage index transaction)
      return .uncommitted
  | .committed commitPosition => do
      checkTransactionPosition checkpointFrontier index .commit (some commitPosition)
      forM last.toList fun last =>
        rejectIf (commitPosition ≤ last)
          (.transactionCommitNotAfterOwnedPages index last commitPosition)
      return .committed commitPosition

def materializeTransaction (allocatedEpochHighWater : NonZeroU64)
    (previous : Option RestartCheckpointBaselineEntry) :
    RestartCheckpointBaselineEntryObservation × Nat →
      Except RestartPrunedGenerationSelectionEvidenceError RestartCheckpointBaselineEntry
  | (observation, index) => do
      let transaction ← (DurableTransactionIdentityObservation.new observation.epoch
        observation.sequence).mapError (.invalidTransactionIdentity index)
      forM previous.toList fun previous =>
        rejectIf (transaction ≤ previous.transaction)
          (.transactionIdentityNotIncreasing index previous.transaction transaction)
      rejectIf (allocatedEpochHighWater.get < transaction.epoch.get)
        (.allocatorHighWaterBelowTransaction transaction allocatedEpochHighWater.get)
      let first := observation.firstOwnedPagePosition
      let last := observation.lastOwnedPagePosition
      let count := observation.ownedPageRecordCount
      rejectIf (¬RangeCountIsPossible first last count)
        (.transactionOwnedPageShape index first last count)
      checkTransactionPosition checkpointFrontier index .firstOwnedPage first
      checkTransactionPosition checkpointFrontier index .lastOwnedPage last
      let state ← materializeState checkpointFrontier index transaction last count
        observation.state
      return ⟨transaction, first, last, count, state⟩

/-! ## Pages -/

def checkPagePosition (index : Nat) (field : RestartAnchoredCheckpointPagePositionField)
    (position : U64) : Except RestartPrunedGenerationSelectionEvidenceError Unit :=
  rejectIf (¬AnchoredCheckpointPositionIsBounded checkpointFrontier position)
    (.pagePositionOutOfBounds index field position checkpointFrontier)

def RestartCheckpointCompletenessBaselineRequiredImageObservation.pagePosition :
    RestartCheckpointCompletenessBaselineRequiredImageObservation → U64
  | .raw pagePosition => pagePosition
  | .committedTransaction _ _ pagePosition _ => pagePosition

/-- `materialize_anchored_restart_checkpoint_required_image`. -/
def materializeRequiredImage (index : Nat)
    (transactions : List RestartCheckpointBaselineEntry)
    (observation : RestartCheckpointCompletenessBaselineRequiredImageObservation) :
    Except RestartPrunedGenerationSelectionEvidenceError RestartRequiredPageImage := do
  checkPagePosition checkpointFrontier index .requiredImage observation.pagePosition
  match observation with
  | .raw pagePosition => return .raw pagePosition
  | .committedTransaction epoch sequence pagePosition commitPosition => do
      checkPagePosition checkpointFrontier index .requiredImageCommit commitPosition
      let transaction
        ← (DurableTransactionIdentityObservation.new epoch sequence).mapError
        (.invalidTransactionIdentity index)
      let entry ← okOr
        (search RestartCheckpointBaselineEntry.transaction transaction transactions)
        (.committedImageTransactionMissing index transaction)
      rejectIf
        (entry.state.commitPosition ≠ some commitPosition ∨
          ¬RangeContains entry.firstOwnedPagePosition entry.lastOwnedPagePosition
            pagePosition ∨
          commitPosition ≤ pagePosition)
        (.committedImageTransactionMismatch index transaction pagePosition commitPosition)
      return .committedTransaction transaction pagePosition commitPosition

/-- `valid_shape`. -/
def ValidShape (page : RestartCheckpointCompletenessBaselinePageObservation) : Prop :=
  match page.state with
  | .noRequiredImage => page.requiredImage = none ∧ page.storedPosition = none
  | .storeMissing => page.requiredImage ≠ none ∧ page.storedPosition = none
  | .storeCurrent => page.requiredImage ≠ none ∧ page.storedPosition ≠ none
  | .storeBehind => page.requiredImage ≠ none ∧ page.storedPosition ≠ none

instance (page : RestartCheckpointCompletenessBaselinePageObservation) :
    Decidable (ValidShape page) := by
  unfold ValidShape
  split <;> infer_instance

def materializePageState (index : Nat)
    (observation : RestartCheckpointCompletenessBaselinePageObservation)
    (required : Option RestartRequiredPageImage) :
    Except RestartPrunedGenerationSelectionEvidenceError RestartPageState :=
  match observation.state, required, observation.storedPosition with
  | .noRequiredImage, none, none => return .noRequiredImage
  | .storeMissing, some required, none => return .storeMissing required
  | .storeCurrent, some required, some storedPosition =>
      if storedPosition = required.pagePosition then
        return .storeCurrent required storedPosition
      else
        throw (.pageStateShape index observation)
  | .storeBehind, some required, some storedPosition =>
      if storedPosition < required.pagePosition then
        return .storeBehind storedPosition required
      else
        throw (.storeBehindNotBeforeRequiredImage index storedPosition
          required.pagePosition)
  | _, _, _ => throw (.pageStateShape index observation)

def materializePage (transactions : List RestartCheckpointBaselineEntry)
    (previous : Option RestartPageEntry) :
    RestartCheckpointCompletenessBaselinePageObservation × Nat →
      Except RestartPrunedGenerationSelectionEvidenceError RestartPageEntry
  | (observation, index) => do
      let pageNumber ← okOr (NonZeroU64.new observation.pageNumber)
        (.zeroPageNumber index)
      forM previous.toList fun previous =>
        rejectIf (pageNumber.get ≤ previous.pageNumber.get)
          (.pageNumberNotIncreasing index previous.pageNumber pageNumber)
      rejectIf (¬ValidShape observation) (.pageStateShape index observation)
      let required ← observation.requiredImage.mapM
        (materializeRequiredImage checkpointFrontier index transactions)
      forM observation.storedPosition.toList fun storedPosition =>
        checkPagePosition checkpointFrontier index .storedImage storedPosition
      let state ← materializePageState index observation required
      return ⟨pageNumber, state⟩

end Rows

/-! ## The checkpoint -/

def lowerForBaselineEntry (floor : Option ReplayNeed)
    (entry : RestartCheckpointBaselineEntry) :
    Except RestartPrunedGenerationSelectionEvidenceError (Option ReplayNeed) :=
  match entry.state with
  | .uncommitted => do
      let first ← okOr entry.firstOwnedPagePosition
        (.uncommittedTransactionWithoutOwnedPage 0 entry.transaction)
      return lowerRestartReplayStart floor first
        (.uncommittedTransaction entry.transaction)
  | .committed _ => return floor

def materializeAnchoredRestartCheckpointWithoutSelectedAnchor (lineage : LogLineage)
    (metadata : RestartWalReclamationSourceObservation)
    (checkpoint : RestartCheckpointCompletenessBaselineObservation) :
    Except RestartPrunedGenerationSelectionEvidenceError
      RestartCheckpointCompletenessBaseline := do
  let expectedId ← okOr lineage.persistentId .persistentLineageRequired
  let actualId ← okOr (NonZeroU128.new checkpoint.transactions.persistentLogId)
    (.zeroPersistentLogId checkpoint.transactions.persistentLogId)
  rejectIf (actualId ≠ expectedId) (.foreignPersistentLogId expectedId actualId)
  let checkpointFrontier := checkpoint.transactions.durableFrontier
  rejectIf (checkpointFrontier = some 0) .zeroCheckpointFrontier
  let transactions ← collect
    (materializeTransaction checkpointFrontier metadata.allocatedEpochHighWater)
    checkpoint.transactions.transactions
  let pages ← collect (materializePage checkpointFrontier transactions) checkpoint.pages
  let floor ← transactions.foldlM lowerForBaselineEntry none
  let replayStart :=
    replayStartOf checkpointFrontier (pages.foldl RestartPageEntry.lower floor)
  rejectIf
    (restartCheckpointReplayMatchesObservation replayStart checkpoint.replay = false)
    (.replayShapeMismatch replayStart checkpoint.replay)
  return ⟨⟨expectedId, checkpointFrontier, transactions⟩, pages, replayStart⟩

def materializeAnchoredRestartCheckpoint (lineage : LogLineage)
    (metadata : RestartWalReclamationSourceObservation)
    (checkpoint : RestartCheckpointCompletenessBaselineObservation) :
    Except RestartPrunedGenerationSelectionEvidenceError
      RestartCheckpointCompletenessBaseline := do
  let baseline ← materializeAnchoredRestartCheckpointWithoutSelectedAnchor
    lineage metadata checkpoint
  let expectedAnchor := selectedRestartCheckpointAnchor baseline
  rejectIf (metadata.selectedCheckpointAnchor ≠ some expectedAnchor)
    (.selectedCheckpointAnchorMismatch expectedAnchor metadata.selectedCheckpointAnchor)
  return baseline

end Ntsql.Transaction
