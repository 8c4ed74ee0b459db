import Ntsql.Transaction.RecoveryCandidate

/-! # Recovery of committed pages

One page is recovered by reconciling a stable durable prefix with the store and
replacing what the store holds, if it still holds it. A run recovers every page
of an inventory and stops at the first failure. -/

namespace Ntsql.Transaction

variable {width : Nat}

structure DurablePageEvidence (width : Nat) where
  physicalPages : List (DurablePageWalObservation width)
  ownedPages : List (DurableTransactionPageObservation width)
  commits : List DurableTransactionCommitObservation

/-- What becomes of an operation that a source runs on its evidence. -/
inductive EvidenceReply (SourceError : Type) (width : Nat) where
  | failed (error : SourceError)
  | ran (evidence : DurablePageEvidence width) (failure : Option SourceError)

/-- Proof that the recovery gate authorized one store attempt. -/
structure CommittedTransactionPageRecoveryWritePermit where
  pagePosition : LogSequenceNumber
  commitPosition : LogSequenceNumber
deriving DecidableEq

inductive CommittedTransactionPageRecoverySourceState (width : Nat) where
  | storeMissing (pageNumber : PageNumber) (targetPagePosition : LogSequenceNumber)
  | exactSnapshot (pageNumber : PageNumber) (pageVersion : PageVersion)
      (bytes : Bytes width) (pagePosition commitPosition : LogSequenceNumber)
deriving DecidableEq

structure CommittedTransactionPageRecoveryTarget (width : Nat) where
  transaction : DurableTransactionIdentityObservation
  pageNumber : PageNumber
  pageVersion : PageVersion
  bytes : Bytes width
  pagePosition : LogSequenceNumber
  commitPosition : LogSequenceNumber
deriving DecidableEq

def ownedRecoverySourceState
    (candidate : DurableCommittedTransactionPageRecoveryCandidate width) :
    CommittedTransactionPageRecoverySourceState width :=
  match candidate.precondition with
  | .storeMissing =>
      let target := candidate.latestCommitted.observation
      .storeMissing target.page.pageNumber target.position
  | .exactSnapshot snapshot commitPosition =>
      .exactSnapshot snapshot.pageNumber snapshot.pageVersion snapshot.image
        snapshot.requiredPosition commitPosition

def ownedRecoveryTarget (latest : LatestCommittedTransactionPage width) :
    CommittedTransactionPageRecoveryTarget width where
  transaction := latest.observation.owner
  pageNumber := latest.observation.page.pageNumber
  pageVersion := latest.observation.page.pageVersion
  bytes := latest.observation.page.image
  pagePosition := latest.observation.position
  commitPosition := latest.commitPosition

inductive CommittedTransactionPageRecoveryOutcome (width : Nat) where
  | noCommittedPage (pageNumber : PageNumber)
  | alreadyCurrent (target : CommittedTransactionPageRecoveryTarget width)
  | recovered (target : CommittedTransactionPageRecoveryTarget width)
deriving DecidableEq

/-- The source and the store that recovery is run on. -/
structure RecoveryPorts
    (World SourceError InventoryError ObservationError WriteError : Type)
    (width : Nat) where
  sourceLineage : World → LogLineage
  storeLineage : World → LogLineage
  durableTransactionPageNumbers : World → Except InventoryError (List PageNumber)
  withDurablePageEvidence : PageNumber → World → EvidenceReply SourceError width
  observePage : PageNumber → World →
    Except ObservationError (Option (StoredPageSnapshotObservation width))
  compareAndReplace : DurableCommittedTransactionPageRecoveryCandidate width →
    CommittedTransactionPageRecoveryWritePermit → EStateM WriteError World Unit

inductive CommittedTransactionPageRecoveryError
    (SourceError ObservationError WriteError : Type) (width : Nat) where
  | lineageMismatch (sourceLineage storeLineage : LogLineage)
  | source (error : SourceError)
  | storeObservation (error : ObservationError)
  | planning (source : DurableCommittedTransactionPageRecoveryPlanningError)
  | candidateComparison (source : DurableCommittedTransactionPageRecoveryComparisonError)
  | unexpectedCandidateComparison
      (actual : DurableCommittedTransactionPageRecoveryComparison)
  | storeWrite (sourceState : CommittedTransactionPageRecoverySourceState width)
      (target : CommittedTransactionPageRecoveryTarget width) (source : WriteError)

section Gate

variable {World SourceError InventoryError ObservationError WriteError : Type}

/-- The part of the recovery of one page that only reads: the outcome when
nothing is to be written, or else the candidate to write. -/
def planRecovery
    (ports : RecoveryPorts World SourceError InventoryError ObservationError
      WriteError width)
    (sourceLineage : LogLineage) (pageNumber : PageNumber)
    (evidence : DurablePageEvidence width) (world : World) :
    Except (CommittedTransactionPageRecoveryError SourceError ObservationError
      WriteError width) (CommittedTransactionPageRecoveryOutcome width ⊕
        DurableCommittedTransactionPageRecoveryCandidate width) := do
  let snapshot ← (ports.observePage pageNumber world).mapError .storeObservation
  let decision ← (deriveCommittedTransactionPageRecoveryCandidate sourceLineage pageNumber
    snapshot evidence.physicalPages evidence.ownedPages evidence.commits).mapError
      .planning
  match decision with
  | .noCommittedPage pageNumber => return .inl (.noCommittedPage pageNumber)
  | .exactCurrent latestCommitted =>
      return .inl (.alreadyCurrent (ownedRecoveryTarget latestCommitted))
  | .candidate candidate =>
      match ← (compareCommittedTransactionPageRecoveryCandidate candidate
        snapshot).mapError .candidateComparison with
      | .sourceMatches => return .inr candidate
      | .targetAlreadyPresent =>
          throw (.unexpectedCandidateComparison .targetAlreadyPresent)

/-- Invoke the store once, with a permit for the candidate's target. -/
def attemptRecovery
    (ports : RecoveryPorts World SourceError InventoryError ObservationError
      WriteError width)
    (candidate : DurableCommittedTransactionPageRecoveryCandidate width) :
    EStateM (CommittedTransactionPageRecoveryError SourceError ObservationError
      WriteError width) World (CommittedTransactionPageRecoveryOutcome width) := do
  let target := ownedRecoveryTarget candidate.latestCommitted
  match ← attempt
    (ports.compareAndReplace candidate ⟨target.pagePosition, target.commitPosition⟩) with
  | .ok () => return .recovered target
  | .error error => throw (.storeWrite (ownedRecoverySourceState candidate) target error)

def recoverCommittedTransactionPage
    (ports : RecoveryPorts World SourceError InventoryError ObservationError
      WriteError width)
    (pageNumber : PageNumber) :
    EStateM (CommittedTransactionPageRecoveryError SourceError ObservationError
      WriteError width) World (CommittedTransactionPageRecoveryOutcome width) := do
  let world ← get
  let sourceLineage := ports.sourceLineage world
  check (rejectIf (sourceLineage ≠ ports.storeLineage world)
    (.lineageMismatch sourceLineage (ports.storeLineage world)))
  match ports.withDurablePageEvidence pageNumber world with
  | .failed error => throw (.source error)
  | .ran evidence failure =>
      match planRecovery ports sourceLineage pageNumber evidence world, failure with
      -- A write attempt takes priority over what the source reports afterwards.
      | .ok (.inr candidate), _ => attemptRecovery ports candidate
      | .ok (.inl _), some error => throw (.source error)
      | .error _, some error => throw (.source error)
      | .ok (.inl outcome), none => return outcome
      | .error error, none => throw error

inductive CommittedTransactionPagesRecoveryError
    (InventoryError SourceError ObservationError WriteError : Type) (width : Nat) where
  | lineageMismatch (sourceLineage storeLineage : LogLineage)
  | inventory (error : InventoryError)
  | inventoryNotStrictlyIncreasing (previous actual : PageNumber)
  | page (completed : List (CommittedTransactionPageRecoveryOutcome width))
      (pageNumber : PageNumber)
      (source : CommittedTransactionPageRecoveryError SourceError ObservationError
        WriteError width)

/-- Refuse the first page that does not come after the one before it. -/
def checkInventory :
    List PageNumber →
      Except (CommittedTransactionPagesRecoveryError InventoryError SourceError
        ObservationError WriteError width) Unit
  | previous :: actual :: pageNumbers => do
      rejectIf (actual.get ≤ previous.get)
        (.inventoryNotStrictlyIncreasing previous actual)
      checkInventory (actual :: pageNumbers)
  | _ => .ok ()

/-- Recover the pages in order, keeping the outcomes of those completed. -/
def recoverPages
    (ports : RecoveryPorts World SourceError InventoryError ObservationError
      WriteError width) :
    List (CommittedTransactionPageRecoveryOutcome width) → List PageNumber →
      EStateM (CommittedTransactionPagesRecoveryError InventoryError SourceError
        ObservationError
        WriteError width) World (List (CommittedTransactionPageRecoveryOutcome width))
  | completed, [] => return completed
  | completed, pageNumber :: pageNumbers => do
      match ← attempt (recoverCommittedTransactionPage ports pageNumber) with
      | .ok outcome => recoverPages ports (completed ++ [outcome]) pageNumbers
      | .error error => throw (.page completed pageNumber error)

def recoverCommittedTransactionPages
    (ports : RecoveryPorts World SourceError InventoryError ObservationError
      WriteError width) :
    EStateM (CommittedTransactionPagesRecoveryError InventoryError SourceError
      ObservationError
      WriteError width) World (List (CommittedTransactionPageRecoveryOutcome width)) := do
  let world ← get
  let sourceLineage := ports.sourceLineage world
  check (rejectIf (sourceLineage ≠ ports.storeLineage world)
    (.lineageMismatch sourceLineage (ports.storeLineage world)))
  let pageNumbers ← check
    ((ports.durableTransactionPageNumbers world).mapError .inventory)
  check (checkInventory pageNumbers)
  recoverPages ports [] pageNumbers

end Gate

end Ntsql.Transaction
