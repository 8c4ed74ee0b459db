import Ntsql.Transaction.CheckpointDerivation
import Ntsql.Transaction.Session

/-! # Restoring transactions after a restart

The table of a selected checkpoint is checked against the table of the complete
prefix, and a coordinator is started with an epoch above both. -/

namespace Ntsql.Transaction

open SortedTable

structure PreparedTransactionRestartRestoration where
  lineage : LogLineage
  transactionCount : Nat
  committedCount : Nat
  unresolvedCount : Nat
  highestPersistedTransaction : Option DurableTransactionIdentityObservation
deriving DecidableEq

inductive TransactionRestartRestorationEvidenceError where
  | currentPersistentLineageRequired
  | persistentLineageMismatch (selected current : PersistentLogId)
  | currentFrontierMissing (selectedFrontier : U64)
  | selectedFrontierAfterCurrent (selectedFrontier currentFrontier : U64)
  | transactionInEmptySelectedPrefix (transaction : DurableTransactionIdentityObservation)
  | selectedTransactionMissing (transaction : DurableTransactionIdentityObservation)
  | currentTransactionMissingFromSelectedPrefix
      (transaction : DurableTransactionIdentityObservation) (firstPosition : U64)
  | firstOwnedPagePositionMismatch (transaction : DurableTransactionIdentityObservation)
      (selected current : Option U64)
  | selectedUnresolvedOwnedPageEvidenceContradiction
      (transaction : DurableTransactionIdentityObservation) (selectedFrontier : U64)
      (selectedLastPosition currentLastPosition : Option U64)
      (selectedRecordCount currentRecordCount : U64)
  | ownedPageRecordCountRegressed (transaction : DurableTransactionIdentityObservation)
      (selected current : U64)
  | selectedCommittedTransactionChanged
      (transaction : DurableTransactionIdentityObservation)
      (selectedCommitPosition : U64) (currentCommitPosition : Option U64)
  | selectedUnresolvedTransactionCommittedInsidePrefix
      (transaction : DurableTransactionIdentityObservation)
      (selectedFrontier commitPosition : U64)
  | selectedTransactionPositionAfterFrontier
      (transaction : DurableTransactionIdentityObservation)
      (selectedFrontier position : U64)
  | currentTransactionHasNoRecordPosition
      (transaction : DurableTransactionIdentityObservation)
  | currentOwnedPageCountWidthExceeded
      (transaction : DurableTransactionIdentityObservation) (recordCount : Nat)
  | summaryCountExhausted
deriving DecidableEq

/-! ## Checking the selected table -/

def validateSelectedTransactionPositions
    (transaction : DurableTransactionIdentityObservation) (selectedFrontier : Option U64)
    (positions : List (Option U64)) :
    Except TransactionRestartRestorationEvidenceError Unit :=
  forM positions.reduceOption fun position => do
    let frontier ← okOr selectedFrontier (.transactionInEmptySelectedPrefix transaction)
    rejectIf (frontier < position)
      (.selectedTransactionPositionAfterFrontier transaction frontier position)

def currentTransactionFirstPosition (entry : RestartEntry) : Option U64 :=
  match entry.firstOwnedPagePosition.map (·.get),
    entry.state.commitPosition.map (·.get) with
  | some page, some commit => some (min page commit)
  | some page, none => some page
  | none, some commit => some commit
  | none, none => none

/-- The growth a transaction may show since the checkpoint. -/
def checkSelectedState (selectedFrontier : Option U64)
    (selectedEntry : RestartCheckpointBaselineEntry) (currentEntry : RestartEntry)
    (currentCount : U64) : Except TransactionRestartRestorationEvidenceError Unit :=
  let transaction := selectedEntry.transaction
  let currentLast := currentEntry.lastOwnedPagePosition.map (·.get)
  let currentCommit := currentEntry.state.commitPosition.map (·.get)
  match selectedEntry.state with
  | .committed commitPosition =>
      rejectIf
        (selectedEntry.lastOwnedPagePosition ≠ currentLast ∨
          selectedEntry.ownedPageRecordCount ≠ currentCount ∨
            currentCommit ≠ some commitPosition)
        (.selectedCommittedTransactionChanged transaction commitPosition currentCommit)
  | .uncommitted => do
      let selectedLast := selectedEntry.lastOwnedPagePosition
      let selectedCount := selectedEntry.ownedPageRecordCount
      rejectIf (currentCount < selectedCount)
        (.ownedPageRecordCountRegressed transaction selectedCount currentCount)
      let frontier ← okOr selectedFrontier (.transactionInEmptySelectedPrefix transaction)
      rejectIf
        (¬(currentCount = selectedCount ∧ currentLast = selectedLast) ∧
          ¬(selectedCount < currentCount ∧ ∃ position ∈ currentLast, frontier < position))
        (.selectedUnresolvedOwnedPageEvidenceContradiction transaction frontier
          selectedLast currentLast selectedCount currentCount)
      match currentCommit with
      | some commitPosition =>
          rejectIf (commitPosition ≤ frontier)
            (.selectedUnresolvedTransactionCommittedInsidePrefix transaction frontier
              commitPosition)
      | none => return ()

def checkSelectedTransaction (selectedFrontier : Option U64) (current : RestartAnalysis)
    (selectedEntry : RestartCheckpointBaselineEntry) :
    Except TransactionRestartRestorationEvidenceError Unit := do
  let transaction := selectedEntry.transaction
  validateSelectedTransactionPositions transaction selectedFrontier
    [selectedEntry.firstOwnedPagePosition, selectedEntry.lastOwnedPagePosition,
      selectedEntry.state.commitPosition]
  let currentEntry ← okOr
    (search RestartEntry.transaction transaction current.transactions)
    (.selectedTransactionMissing transaction)
  let currentFirst := currentEntry.firstOwnedPagePosition.map (·.get)
  rejectIf (selectedEntry.firstOwnedPagePosition ≠ currentFirst)
    (.firstOwnedPagePositionMismatch transaction selectedEntry.firstOwnedPagePosition
      currentFirst)
  let currentCount ← okOr (tryU64 currentEntry.ownedPageRecordCount)
    (.currentOwnedPageCountWidthExceeded transaction currentEntry.ownedPageRecordCount)
  checkSelectedState selectedFrontier selectedEntry currentEntry currentCount

/-! ## Counting the current table -/

structure RestorationCounts where
  committed : Nat
  unresolved : Nat
deriving DecidableEq

def countTransaction (counts : RestorationCounts) :
    RestartState → Except TransactionRestartRestorationEvidenceError RestorationCounts
  | .committed _ => do
      let committed ← okOr (checkedCount counts.committed) .summaryCountExhausted
      return { counts with committed }
  | .uncommitted => do
      let unresolved ← okOr (checkedCount counts.unresolved) .summaryCountExhausted
      return { counts with unresolved }

def countCurrentTransaction (selected : RestartCheckpointBaseline)
    (counts : RestorationCounts) (currentEntry : RestartEntry) :
    Except TransactionRestartRestorationEvidenceError RestorationCounts := do
  let transaction := currentEntry.transaction
  let counts ← countTransaction counts currentEntry.state
  let firstPosition ← okOr (currentTransactionFirstPosition currentEntry)
    (.currentTransactionHasNoRecordPosition transaction)
  rejectIf
    ((∃ frontier ∈ selected.durableFrontier, firstPosition ≤ frontier) ∧
      search RestartCheckpointBaselineEntry.transaction transaction
        selected.transactions = none)
    (.currentTransactionMissingFromSelectedPrefix transaction firstPosition)
  return counts

/-- `highest.map_or(transaction, |highest| highest.max(transaction))`. -/
def raiseHighest (highest : Option DurableTransactionIdentityObservation)
    (transaction : DurableTransactionIdentityObservation) :
    Option DurableTransactionIdentityObservation :=
  some (highest.elim transaction (max · transaction))

def requireFrontierOrder (selectedFrontier currentFrontier : Option U64) :
    Except TransactionRestartRestorationEvidenceError Unit :=
  match selectedFrontier, currentFrontier with
  | some selectedFrontier, none => throw (.currentFrontierMissing selectedFrontier)
  | some selectedFrontier, some currentFrontier =>
      rejectIf (currentFrontier < selectedFrontier)
        (.selectedFrontierAfterCurrent selectedFrontier currentFrontier)
  | none, _ => return ()

/-- The greatest identity is raised along both loops; it decides nothing in
them. -/
def prepareTransactionRestartRestorationEvidence
    (selectedBaseline : RestartCheckpointCompletenessBaseline)
    (current : RestartAnalysis) :
    Except TransactionRestartRestorationEvidenceError
      PreparedTransactionRestartRestoration := do
  let selected := selectedBaseline.transactionBaseline
  let currentPersistentId ← okOr current.lineage.persistentId
    .currentPersistentLineageRequired
  rejectIf (selected.persistentLogId ≠ currentPersistentId)
    (.persistentLineageMismatch selected.persistentLogId currentPersistentId)
  requireFrontierOrder selected.durableFrontier (current.durableFrontier.map (·.get))
  forM selected.transactions (checkSelectedTransaction selected.durableFrontier current)
  let counts ← current.transactions.foldlM (countCurrentTransaction selected) ⟨0, 0⟩
  let transactionCount ← okOr (checkedTotal counts.committed counts.unresolved)
    .summaryCountExhausted
  return {
    lineage := current.lineage
    transactionCount
    committedCount := counts.committed
    unresolvedCount := counts.unresolved
    highestPersistedTransaction :=
      (selected.transactions.map (·.transaction) ++
        current.transactions.map (·.transaction)).foldl raiseHighest none }

/-! ## The restore step -/

inductive TransactionRestartCoordinatorEpochAllocationError (SourceError : Type) where
  | source (source : SourceError)
  | identitySpaceExhausted (persistedEpochHighWater : Option U64)
  | persistedEpochHighWaterNotAdvanced (persistedEpochHighWater nextEpoch : U64)

inductive TransactionRestartRestorationRejection where
  | evidence (source : TransactionRestartRestorationEvidenceError)
  | identitySpaceExhausted (persistedEpochHighWater : Option U64)
  | persistedEpochHighWaterNotAdvanced (persistedEpochHighWater nextEpoch : U64)
  | allocatedEpochNotAbovePersistedHighWater
      (persistedEpochHighWater allocatedEpoch : U64)
  | allocatedEpochLineageMismatch (expected actual : LogLineage) (allocatedEpoch : U64)
  | allocationAttemptCountExhausted
deriving DecidableEq

structure TransactionRestartRestorationSummary where
  transactionCount : Nat
  committedCount : Nat
  unresolvedCount : Nat
  highestPersistedTransaction : Option DurableTransactionIdentityObservation
  coordinatorEpoch : NonZeroU64
  indeterminateAllocationAttemptCount : Nat
deriving DecidableEq

inductive RestartCheckpointRestoration (SourceError : Type) where
  | rejected (cause : TransactionRestartRestorationRejection)
      (indeterminateAllocationAttemptCount : Nat)
  | failed (cause : SourceError) (indeterminateAllocationAttemptCount : Nat)
  | restored (coordinator : TransactionCoordinator)
      (summary : TransactionRestartRestorationSummary)

/-- What `allocate_restart_transaction_epoch` answers for a high water. -/
abbrev AllocateRestartEpoch (SourceError : Type) :=
  Option NonZeroU64 →
    Except (TransactionRestartCoordinatorEpochAllocationError SourceError)
      (NonZeroU64 × LogLineage)

section Restore

variable {SourceError : Type}

/-- Start a coordinator with an allocated epoch. -/
def acceptRestartEpoch (identity : CoordinatorIdentity)
    (prepared : PreparedTransactionRestartRestoration) (attemptCount : Nat)
    (epoch : NonZeroU64)
    (lineage : LogLineage) : RestartCheckpointRestoration SourceError :=
  if prepared.lineage ≠ lineage then
    .rejected (.allocatedEpochLineageMismatch prepared.lineage lineage epoch.get)
      attemptCount
  else
    .restored (.fromAllocatedEpoch identity epoch lineage)
      { transactionCount := prepared.transactionCount
        committedCount := prepared.committedCount
        unresolvedCount := prepared.unresolvedCount
        highestPersistedTransaction := prepared.highestPersistedTransaction
        coordinatorEpoch := epoch
        indeterminateAllocationAttemptCount := attemptCount }

def allocateRestartEpoch (allocate : AllocateRestartEpoch SourceError)
    (identity : CoordinatorIdentity) (prepared : PreparedTransactionRestartRestoration)
    (attemptCount nextAttemptCount : Nat) : RestartCheckpointRestoration SourceError :=
  let epochHighWater := prepared.highestPersistedTransaction.map (·.epoch)
  match allocate epochHighWater with
  | .error (.source source) => .failed source nextAttemptCount
  | .error (.identitySpaceExhausted persistedEpochHighWater) =>
      .rejected (.identitySpaceExhausted persistedEpochHighWater) attemptCount
  | .error (.persistedEpochHighWaterNotAdvanced persistedEpochHighWater nextEpoch) =>
      .rejected (.persistedEpochHighWaterNotAdvanced persistedEpochHighWater nextEpoch)
        attemptCount
  | .ok (epoch, lineage) =>
      match epochHighWater with
      | some highWater =>
          if epoch.get ≤ highWater.get then
            .rejected (.allocatedEpochNotAbovePersistedHighWater highWater.get epoch.get)
              attemptCount
          else
            acceptRestartEpoch identity prepared attemptCount epoch lineage
      | none => acceptRestartEpoch identity prepared attemptCount epoch lineage

def restoreTransactionRestartState (allocate : AllocateRestartEpoch SourceError)
    (identity : CoordinatorIdentity)
    (selectedBaseline : RestartCheckpointCompletenessBaseline) (current : RestartAnalysis)
    (attemptCount : Nat) :
      RestartCheckpointRestoration SourceError :=
  match prepareTransactionRestartRestorationEvidence selectedBaseline current with
  | .error source => .rejected (.evidence source) attemptCount
  | .ok prepared =>
      match checkedCount attemptCount with
      | none => .rejected .allocationAttemptCountExhausted attemptCount
      | some nextAttemptCount =>
          allocateRestartEpoch allocate identity prepared attemptCount nextAttemptCount

end Restore

end Ntsql.Transaction
