import Ntsql.Transaction.PageEvidence

/-! # Reconciliation of one page with its durable evidence

What the log holds of a page is compared with what the page store holds of it:
first physically, record by record, then relative to the last owned page whose
owner committed. -/

namespace Ntsql.Transaction

open OrderedScan

variable {width : Nat}

def SamePagePayload (left right : DurablePageWalObservation width) : Prop :=
  left.pageVersion = right.pageVersion ∧ left.image = right.image

instance (left right : DurablePageWalObservation width) :
    Decidable (SamePagePayload left right) :=
  inferInstanceAs (Decidable (_ ∧ _))

def StoredPageSnapshotObservation.record
    (snapshot : StoredPageSnapshotObservation width) :
    DurablePageWalObservation width where
  pageNumber := snapshot.pageNumber
  pageVersion := snapshot.pageVersion
  image := snapshot.image
  position := snapshot.requiredPosition
  position_ne_zero := snapshot.requiredPosition_ne_zero

/-! ## Physical reconciliation -/

inductive DurablePageReconciliation where
  | noDurableState
  | exactCurrent (durablePosition : LogSequenceNumber)
  | storeBehind (storedPosition latestDurablePosition : LogSequenceNumber)
  | storeMissing (latestDurablePosition : LogSequenceNumber)
deriving DecidableEq

inductive DurablePageReconciliationError where
  | unexpectedSnapshotPage (expected actual : PageNumber)
  | foreignSnapshotLineage (pageNumber : PageNumber) (position : LogSequenceNumber)
  | unexpectedWalPage (expected actual : PageNumber) (position : LogSequenceNumber)
  | foreignWalLineage (pageNumber : PageNumber) (position : LogSequenceNumber)
  | duplicateWalPosition (pageNumber : PageNumber) (position : LogSequenceNumber)
  | contradictoryWalPosition (pageNumber : PageNumber) (position : LogSequenceNumber)
  | nonAdvancingWalPosition (pageNumber : PageNumber)
      (previous actual : LogSequenceNumber)
  | snapshotPositionUnbacked (pageNumber : PageNumber) (position : LogSequenceNumber)
  | snapshotPayloadContradiction (pageNumber : PageNumber) (position : LogSequenceNumber)
deriving DecidableEq

/-- What the physical scan keeps: the latest position, and whether a record
backs the snapshot. -/
structure PhysicalScan where
  latestPosition : Option U64
  snapshotBacked : Bool

/-- Compare a record with the snapshot when it is at the snapshot's position. -/
def backSnapshot (pageNumber : PageNumber)
    (snapshot : Option (StoredPageSnapshotObservation width))
    (observation : DurablePageWalObservation width) (snapshotBacked : Bool) :
    Except DurablePageReconciliationError Bool :=
  match snapshot with
  | some snapshot =>
      if observation.position.get = snapshot.requiredPosition.get then do
        rejectIf (¬SamePagePayload observation snapshot.record)
          (.snapshotPayloadContradiction pageNumber snapshot.requiredPosition)
        return true
      else
        .ok snapshotBacked
  | none => .ok snapshotBacked

/-- One round of `reconcile_durable_page`. -/
def scanPhysicalPage (expectedLineage : LogLineage) (pageNumber : PageNumber)
    (snapshot : Option (StoredPageSnapshotObservation width)) :
    Option (DurablePageWalObservation width) × PhysicalScan →
      DurablePageWalObservation width →
      Except DurablePageReconciliationError
        (Option (DurablePageWalObservation width) × PhysicalScan)
  | (previous, kept), observation => do
      rejectIf (observation.pageNumber ≠ pageNumber)
        (.unexpectedWalPage pageNumber observation.pageNumber observation.position)
      rejectIf (expectedLineage ≠ observation.position.lineage)
        (.foreignWalLineage pageNumber observation.position)
      requireAfter (fun page => page.position.get) previous observation
        (fun previous =>
          if SamePagePayload observation previous then
            .duplicateWalPosition pageNumber observation.position
          else
            .contradictoryWalPosition pageNumber observation.position)
        (fun previous =>
          .nonAdvancingWalPosition pageNumber previous.position observation.position)
      let snapshotBacked ← backSnapshot pageNumber snapshot observation
        kept.snapshotBacked
      return (some observation, ⟨some observation.position.get, snapshotBacked⟩)

def checkSnapshotIdentity (expectedLineage : LogLineage) (pageNumber : PageNumber)
    (snapshot : Option (StoredPageSnapshotObservation width)) :
    Except DurablePageReconciliationError Unit :=
  match snapshot with
  | some snapshot => do
      rejectIf (snapshot.pageNumber ≠ pageNumber)
        (.unexpectedSnapshotPage pageNumber snapshot.pageNumber)
      rejectIf (expectedLineage ≠ snapshot.requiredPosition.lineage)
        (.foreignSnapshotLineage pageNumber snapshot.requiredPosition)
  | none => .ok ()

def reconcileDurablePage (expectedLineage : LogLineage) (pageNumber : PageNumber)
    (snapshot : Option (StoredPageSnapshotObservation width))
    (walObservations : List (DurablePageWalObservation width)) :
    Except DurablePageReconciliationError DurablePageReconciliation := do
  checkSnapshotIdentity expectedLineage pageNumber snapshot
  let kept ← OrderedScan.scan (scanPhysicalPage expectedLineage pageNumber snapshot)
    ⟨none, false⟩ walObservations
  match kept.latestPosition, snapshot with
  | none, some snapshot =>
      throw (.snapshotPositionUnbacked pageNumber snapshot.requiredPosition)
  | none, none => return .noDurableState
  | some latestPosition, none =>
      return .storeMissing (expectedLineage.position latestPosition)
  | some latestPosition, some snapshot =>
      rejectIf (¬kept.snapshotBacked)
        (.snapshotPositionUnbacked pageNumber snapshot.requiredPosition)
      if snapshot.requiredPosition.get = latestPosition then
        return .exactCurrent (expectedLineage.position latestPosition)
      else
        return .storeBehind snapshot.requiredPosition
          (expectedLineage.position latestPosition)

/-! ## Committed-relative reconciliation -/

inductive DurableCommittedTransactionPageReconciliation (width : Nat) where
  | noCommittedPage (pageNumber : PageNumber)
  | storeMissing (latestCommitted : LatestCommittedTransactionPage width)
  | exactCurrent (latestCommitted : LatestCommittedTransactionPage width)
  | storeBehind (storedPagePosition storedCommitPosition : LogSequenceNumber)
      (latestCommitted : LatestCommittedTransactionPage width)
deriving DecidableEq

inductive DurableCommittedTransactionPageReconciliationError where
  | selection (source : DurableTransactionPageSelectionError)
  | physical (source : DurablePageReconciliationError)
  | ownedPagePositionUnbacked (pageNumber : PageNumber) (position : LogSequenceNumber)
  | ownedPagePayloadContradiction (pageNumber : PageNumber) (position : LogSequenceNumber)
  | snapshotBackedByRawPage (pageNumber : PageNumber) (position : LogSequenceNumber)
  | snapshotBackedByUncommittedTransactionPage (pageNumber : PageNumber)
      (transaction : DurableTransactionIdentityObservation)
      (pagePosition : LogSequenceNumber)
  | snapshotBackingClassification (pageNumber : PageNumber)
      (pagePosition : LogSequenceNumber)
      (source : DurableTransactionPageClassificationError)
  | committedSnapshotWithoutSelection (pageNumber : PageNumber)
      (storedPagePosition storedCommitPosition : LogSequenceNumber)
  | committedSnapshotAfterSelection (pageNumber : PageNumber)
      (storedPagePosition selectedPagePosition : LogSequenceNumber)
deriving DecidableEq

/-- Match each owned page with the physical record at its position. The source
walks an index over the physical pages; here that is what is left of them. -/
def validateOwnedPhysicalPageProjections (pageNumber : PageNumber)
    (physicalPages : List (DurablePageWalObservation width)) :
    List (DurableTransactionPageObservation width) →
      Except DurableCommittedTransactionPageReconciliationError Unit
  | [] => .ok ()
  | owned :: ownedPages =>
      match physicalPages.dropWhile (fun physical =>
          physical.position.get < owned.position.get) with
      | [] => throw (.ownedPagePositionUnbacked pageNumber owned.position)
      | physical :: remaining => do
          rejectIf (physical.position.get ≠ owned.position.get)
            (.ownedPagePositionUnbacked pageNumber owned.position)
          rejectIf (¬SamePagePayload physical owned.page)
            (.ownedPagePayloadContradiction pageNumber owned.position)
          validateOwnedPhysicalPageProjections pageNumber remaining ownedPages

def resolveCommittedSnapshotReconciliation (pageNumber : PageNumber)
    (selection : DurableTransactionPageSelection width)
    (storedPagePosition storedCommitPosition : LogSequenceNumber) :
    Except DurableCommittedTransactionPageReconciliationError
      (DurableCommittedTransactionPageReconciliation width) :=
  match selection with
  | .noCommittedPage _ =>
      .error (.committedSnapshotWithoutSelection pageNumber storedPagePosition
        storedCommitPosition)
  | .latestCommitted latestCommitted =>
      if storedPagePosition.get = latestCommitted.observation.position.get then
        .ok (.exactCurrent latestCommitted)
      else if storedPagePosition.get < latestCommitted.observation.position.get then
        .ok (.storeBehind storedPagePosition storedCommitPosition latestCommitted)
      else
        .error (.committedSnapshotAfterSelection pageNumber storedPagePosition
          latestCommitted.observation.position)

/-- The source searches a slice it has validated to be increasing by halving. -/
def ownedPageAt (ownedPages : List (DurableTransactionPageObservation width))
    (position : U64) :
    Option (DurableTransactionPageObservation width) :=
  ownedPages.find? fun owned => owned.position.get = position

/-- What `reconcile_committed_transaction_page` makes of validated evidence. -/
def relateSnapshot (expectedLineage : LogLineage) (pageNumber : PageNumber)
    (snapshot : Option (StoredPageSnapshotObservation width))
    (ownedPages : List (DurableTransactionPageObservation width))
    (commitObservations : List DurableTransactionCommitObservation)
    (selection : DurableTransactionPageSelection width) :
    Except DurableCommittedTransactionPageReconciliationError
      (DurableCommittedTransactionPageReconciliation width) :=
  match snapshot with
  | none =>
      match selection with
      | .noCommittedPage pageNumber => return .noCommittedPage pageNumber
      | .latestCommitted latestCommitted => return .storeMissing latestCommitted
  | some snapshot => do
      let backing ← okOr (ownedPageAt ownedPages snapshot.requiredPosition.get)
        (.snapshotBackedByRawPage pageNumber snapshot.requiredPosition)
      let classification ←
        (classifyDurableTransactionPage expectedLineage backing
          commitObservations).mapError
          (.snapshotBackingClassification pageNumber backing.position)
      match classification with
      | .uncommitted pagePosition =>
          throw (.snapshotBackedByUncommittedTransactionPage pageNumber backing.owner
            pagePosition)
      | .committed pagePosition commitPosition =>
          resolveCommittedSnapshotReconciliation pageNumber selection pagePosition
            commitPosition

def reconcileCommittedTransactionPage (expectedLineage : LogLineage)
    (pageNumber : PageNumber) (snapshot : Option (StoredPageSnapshotObservation width))
    (physicalPages : List (DurablePageWalObservation width))
    (ownedPages : List (DurableTransactionPageObservation width))
    (commitObservations : List DurableTransactionCommitObservation) :
    Except DurableCommittedTransactionPageReconciliationError
      (DurableCommittedTransactionPageReconciliation width) := do
  let selection
    ← (selectLatestCommittedTransactionPage expectedLineage pageNumber ownedPages
    commitObservations).mapError .selection
  let _ ← (reconcileDurablePage expectedLineage pageNumber snapshot
    physicalPages).mapError .physical
  validateOwnedPhysicalPageProjections pageNumber physicalPages ownedPages
  relateSnapshot expectedLineage pageNumber snapshot ownedPages
    commitObservations selection

/-! ## Recovery candidates -/

/-- What the store must still hold for a candidate to be written. -/
inductive DurableCommittedTransactionPageRecoveryPrecondition (width : Nat) where
  | storeMissing
  | exactSnapshot (snapshot : StoredPageSnapshotObservation width)
      (commitPosition : LogSequenceNumber)
deriving DecidableEq

structure DurableCommittedTransactionPageRecoveryCandidate (width : Nat) where
  precondition : DurableCommittedTransactionPageRecoveryPrecondition width
  latestCommitted : LatestCommittedTransactionPage width
deriving DecidableEq

inductive DurableCommittedTransactionPageRecoveryDecision (width : Nat) where
  | noCommittedPage (pageNumber : PageNumber)
  | exactCurrent (latestCommitted : LatestCommittedTransactionPage width)
  | candidate (candidate : DurableCommittedTransactionPageRecoveryCandidate width)
deriving DecidableEq

inductive DurableCommittedTransactionPageRecoveryPlanningError where
  | reconciliation (source : DurableCommittedTransactionPageReconciliationError)
  | unexpectedSnapshotForAbsentStore (pageNumber : PageNumber)
      (position : LogSequenceNumber)
  | missingSnapshotForPresentStore (pageNumber : PageNumber)
      (expectedPosition : LogSequenceNumber)
  | snapshotPositionContradiction (pageNumber : PageNumber)
      (reconciledPosition snapshotPosition : LogSequenceNumber)
deriving DecidableEq

def deriveCommittedTransactionPageRecoveryCandidate (expectedLineage : LogLineage)
    (pageNumber : PageNumber) (snapshot : Option (StoredPageSnapshotObservation width))
    (physicalPages : List (DurablePageWalObservation width))
    (ownedPages : List (DurableTransactionPageObservation width))
    (commitObservations : List DurableTransactionCommitObservation) :
    Except DurableCommittedTransactionPageRecoveryPlanningError
      (DurableCommittedTransactionPageRecoveryDecision width) := do
  let reconciliation
    ← (reconcileCommittedTransactionPage expectedLineage pageNumber snapshot
    physicalPages ownedPages commitObservations).mapError .reconciliation
  match reconciliation, snapshot with
  | .noCommittedPage pageNumber, some snapshot =>
      throw (.unexpectedSnapshotForAbsentStore pageNumber snapshot.requiredPosition)
  | .noCommittedPage pageNumber, none => return .noCommittedPage pageNumber
  | .storeMissing _, some snapshot =>
      throw (.unexpectedSnapshotForAbsentStore pageNumber snapshot.requiredPosition)
  | .storeMissing latestCommitted, none =>
      return .candidate ⟨.storeMissing, latestCommitted⟩
  | .exactCurrent latestCommitted, none =>
      throw (.missingSnapshotForPresentStore pageNumber
        latestCommitted.observation.position)
  | .exactCurrent latestCommitted, some snapshot =>
      rejectIf (snapshot.requiredPosition ≠ latestCommitted.observation.position)
        (.snapshotPositionContradiction pageNumber latestCommitted.observation.position
          snapshot.requiredPosition)
      return .exactCurrent latestCommitted
  | .storeBehind storedPagePosition _ _, none =>
      throw (.missingSnapshotForPresentStore pageNumber storedPagePosition)
  | .storeBehind storedPagePosition storedCommitPosition latestCommitted, some snapshot =>
      rejectIf (snapshot.requiredPosition ≠ storedPagePosition)
        (.snapshotPositionContradiction pageNumber storedPagePosition
          snapshot.requiredPosition)
      return .candidate ⟨.exactSnapshot snapshot storedCommitPosition, latestCommitted⟩

/-! ## Comparison with the store -/

inductive DurableCommittedTransactionPageRecoveryComparison where
  | sourceMatches
  | targetAlreadyPresent
deriving DecidableEq

inductive DurableCommittedTransactionPageRecoveryComparisonError where
  | unexpectedCurrentSnapshotPage (expected actual : PageNumber)
      (position : LogSequenceNumber)
  | foreignCurrentSnapshotLineage (pageNumber : PageNumber) (position : LogSequenceNumber)
  | targetSnapshotPayloadContradiction (pageNumber : PageNumber)
      (position : LogSequenceNumber)
  | sourceSnapshotPayloadContradiction (pageNumber : PageNumber)
      (position : LogSequenceNumber)
  | storeChanged (pageNumber : PageNumber)
      (expectedSourcePosition actualPosition : Option LogSequenceNumber)
deriving DecidableEq

/-- A snapshot at neither the candidate's page nor its target. -/
def compareWithPrecondition (pageNumber : PageNumber)
    (precondition : DurableCommittedTransactionPageRecoveryPrecondition width)
    (current : StoredPageSnapshotObservation width) :
    Except DurableCommittedTransactionPageRecoveryComparisonError
      DurableCommittedTransactionPageRecoveryComparison :=
  match precondition with
  | .storeMissing =>
      .error (.storeChanged pageNumber none (some current.requiredPosition))
  | .exactSnapshot snapshot _ =>
      if current.requiredPosition.get = snapshot.requiredPosition.get then
        if current = snapshot then
          .ok .sourceMatches
        else
          .error (.sourceSnapshotPayloadContradiction pageNumber current.requiredPosition)
      else
        .error (.storeChanged pageNumber (some snapshot.requiredPosition)
          (some current.requiredPosition))

def compareCommittedTransactionPageRecoveryCandidate
    (candidate : DurableCommittedTransactionPageRecoveryCandidate width)
    (currentSnapshot : Option (StoredPageSnapshotObservation width)) :
    Except DurableCommittedTransactionPageRecoveryComparisonError
      DurableCommittedTransactionPageRecoveryComparison :=
  let target := candidate.latestCommitted.observation
  let pageNumber := target.page.pageNumber
  match currentSnapshot with
  | none =>
      match candidate.precondition with
      | .storeMissing => .ok .sourceMatches
      | .exactSnapshot snapshot _ =>
          .error (.storeChanged pageNumber (some snapshot.requiredPosition) none)
  | some current => do
      rejectIf (current.pageNumber ≠ pageNumber)
        (.unexpectedCurrentSnapshotPage pageNumber current.pageNumber
          current.requiredPosition)
      rejectIf (target.position.lineage ≠ current.requiredPosition.lineage)
        (.foreignCurrentSnapshotLineage pageNumber current.requiredPosition)
      if current.requiredPosition.get = target.position.get then
        if current.record = target.page then
          .ok .targetAlreadyPresent
        else
          .error (.targetSnapshotPayloadContradiction pageNumber current.requiredPosition)
      else
        compareWithPrecondition pageNumber candidate.precondition current

end Ntsql.Transaction
