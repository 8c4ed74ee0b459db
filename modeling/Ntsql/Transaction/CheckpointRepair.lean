import Ntsql.Transaction.AnchoredReplay
import Ntsql.Transaction.CompletenessExact
import Ntsql.Transaction.RecoveryRun

/-! # Repairing pages from a checkpoint

Restart replays the records from a checkpoint's replay start on. For each page
of this window one decision is prepared against the store, and is carried out
only if the store still holds what was prepared. Replay observations keep all
fields of the records they are taken from, and are not told apart from them. -/

namespace Ntsql.Transaction

open SortedTable

variable {width : Nat} {StoreError : Type}

/-! ## The plan -/

inductive RestartCheckpointReplayPlanningEvidenceError (StoreError : Type) where
  | checkpointRevalidation
      (source : RestartCheckpointCompletenessBaselineValidationEvidenceError StoreError)
  | selectedBaselineMismatch (rederived : RestartCheckpointCompletenessBaseline)
  | currentAnalysis (source : RestartAnalysisEvidenceError)
  | replayWindow (source : RestartCheckpointReplayWindowError)
deriving DecidableEq

def planSelectedRestartCheckpointReplayEvidence (lineage : LogLineage)
    (currentFrontier : Option LogSequenceNumber)
    (observations : List (DurableTransactionRestartObservation width))
    (observePage : ObservePage width StoreError)
    (baseline : RestartCheckpointCompletenessBaseline) :
    Except (RestartCheckpointReplayPlanningEvidenceError StoreError)
      (MaterializedRestartCheckpointReplay width) := do
  let rederived
    ← (deriveRestartCheckpointCompletenessBaselineEvidence lineage currentFrontier
    observations observePage baseline.transactionBaseline.durableFrontier).mapError
      .checkpointRevalidation
  rejectIf (rederived ≠ baseline) (.selectedBaselineMismatch rederived)
  let currentAnalysis ← (analyzeDurableTransactionRestartEvidence lineage currentFrontier
    observations).mapError .currentAnalysis
  let replayWindow ← (selectRestartCheckpointReplayWindow observations
    baseline.replayStart).mapError .replayWindow
  return ⟨currentAnalysis, replayWindow, []⟩

/-! ## Prepared repairs -/

inductive RestartCheckpointPageRepairTargetKind where
  | raw
  | committedTransaction (transaction : DurableTransactionIdentityObservation)
      (commitPosition : LogSequenceNumber)
deriving DecidableEq

structure RestartCheckpointPageRepairTarget (width : Nat) where
  kind : RestartCheckpointPageRepairTargetKind
  page : DurablePageWalObservation width
deriving DecidableEq

def RestartCheckpointPageRepairTarget.pagePosition
    (target : RestartCheckpointPageRepairTarget width) : LogSequenceNumber :=
  target.page.position

inductive PreparedRestartCheckpointPageSourceExpectation where
  | suffixOnly
  | missingAtCheckpoint
  | exactCheckpointSnapshot (position : U64)
deriving DecidableEq

inductive PreparedRestartCheckpointPageRepairResolution (width : Nat) where
  | pending
  | noRequiredImage
  | checkpointCurrent (snapshot : StoredPageSnapshotObservation width)
  | alreadyCurrent (snapshot : StoredPageSnapshotObservation width)
  | candidate (source : Option (StoredPageSnapshotObservation width))
deriving DecidableEq

structure PreparedRestartCheckpointPageRepair (width : Nat) where
  pageNumber : PageNumber
  sourceExpectation : PreparedRestartCheckpointPageSourceExpectation
  target : Option (RestartCheckpointPageRepairTarget width)
  unchangedCheckpointCurrent : Bool
  resolution : PreparedRestartCheckpointPageRepairResolution width
deriving DecidableEq

inductive RestartCheckpointRepairPreparationEvidenceError where
  | replayPageInventoryMissing (pageNumber : PageNumber)
      (pagePosition : LogSequenceNumber)
  | currentTransactionMissing (transaction : DurableTransactionIdentityObservation)
      (pagePosition : LogSequenceNumber)
  | committedReplayRecordMissing (transaction : DurableTransactionIdentityObservation)
      (pagePosition commitPosition : LogSequenceNumber)
  | dirtyCheckpointRequiredImageMissing (pageNumber : PageNumber) (pagePosition : U64)
  | unexpectedSnapshotPage (expected actual : PageNumber) (position : LogSequenceNumber)
  | foreignSnapshotLineage (pageNumber : PageNumber) (position : LogSequenceNumber)
  | checkpointSourceChanged (pageNumber : PageNumber)
      (expectedPosition actualPosition : Option U64)
  | suffixSnapshotRecordMissing (pageNumber : PageNumber) (position : LogSequenceNumber)
  | eligibleReplayTargetMissing (pageNumber : PageNumber) (position : LogSequenceNumber)
  | snapshotPayloadContradiction (pageNumber : PageNumber) (position : LogSequenceNumber)
  | snapshotBackedByUncommittedTransaction (pageNumber : PageNumber)
      (transaction : DurableTransactionIdentityObservation)
      (pagePosition : LogSequenceNumber)
  | snapshotAfterTarget (pageNumber : PageNumber)
      (snapshotPosition targetPosition : LogSequenceNumber)
deriving DecidableEq

inductive RestartCheckpointRepairPreparationError (StoreError : Type) where
  | lineageMismatch (replayLineage storeLineage : LogLineage)
  | storeObservation (pageNumber : PageNumber) (source : StoreError)
  | evidence (source : RestartCheckpointRepairPreparationEvidenceError)
deriving DecidableEq

/-! ## Replay targets -/

def currentRestartTransaction (analysis : RestartAnalysis)
    (transaction : DurableTransactionIdentityObservation)
    (pagePosition : LogSequenceNumber) :
    Except RestartCheckpointRepairPreparationEvidenceError RestartEntry :=
  okOr (search RestartEntry.transaction transaction analysis.transactions)
    (.currentTransactionMissing transaction pagePosition)

def ownedReplayObservationAtPosition
    (replayObservations : List (DurableTransactionRestartObservation width))
    (position : U64) :
    Option (Nat × DurableTransactionRestartObservation width) :=
  match binarySearchByKey (fun observation : DurableTransactionRestartObservation width =>
      observation.position.get) position replayObservations with
  | .ok index => replayObservations[index]?.map (index, ·)
  | .error _ => none

def MatchingLaterCommit (observationIndex : Nat)
    (replayObservations : List (DurableTransactionRestartObservation width))
    (transaction : DurableTransactionIdentityObservation)
    (commitPosition : LogSequenceNumber) : Prop :=
  match ownedReplayObservationAtPosition replayObservations commitPosition.get with
  | some (commitIndex, .commit commit) =>
      observationIndex < commitIndex ∧ commit.transaction = transaction ∧
        commit.position = commitPosition
  | _ => False

instance (observationIndex : Nat)
    (replayObservations : List (DurableTransactionRestartObservation width))
    (transaction : DurableTransactionIdentityObservation)
    (commitPosition : LogSequenceNumber) :
    Decidable (MatchingLaterCommit observationIndex replayObservations transaction
      commitPosition) := by
  unfold MatchingLaterCommit
  split <;> infer_instance

def preparedReplayPageTarget (observationIndex : Nat)
    (replayObservations : List (DurableTransactionRestartObservation width))
    (analysis : RestartAnalysis) :
    DurableTransactionRestartObservation width →
      Except RestartCheckpointRepairPreparationEvidenceError
        (Option (RestartCheckpointPageRepairTarget width))
  | .page page => return some ⟨.raw, page⟩
  | .transactionPage owned => do
      let entry ← currentRestartTransaction analysis owned.owner owned.position
      match entry.state with
      | .uncommitted => return none
      | .committed commitPosition => do
          rejectIf (¬MatchingLaterCommit observationIndex replayObservations owned.owner
            commitPosition)
              (.committedReplayRecordMissing owned.owner owned.position commitPosition)
          return some ⟨.committedTransaction owned.owner commitPosition, owned.page⟩
  | .commit _ => return none

/-- The image a checkpoint requires is the one replay finds. -/
def RequiredTargetMatches (transaction : DurableTransactionIdentityObservation)
    (commitPosition : U64)
    (target : Option (RestartCheckpointPageRepairTarget width)) : Prop :=
  match target with
  | some ⟨.committedTransaction targetTransaction targetCommit, _⟩ =>
      targetTransaction = transaction ∧ targetCommit.get = commitPosition
  | _ => False

instance (transaction : DurableTransactionIdentityObservation) (commitPosition : U64)
    (target : Option (RestartCheckpointPageRepairTarget width)) :
    Decidable (RequiredTargetMatches transaction commitPosition target) := by
  unfold RequiredTargetMatches
  split <;> infer_instance

def dirtyCheckpointRequiredImageIsOwned (pageNumber : PageNumber)
    (required : RestartRequiredPageImage)
    (replayObservations : List (DurableTransactionRestartObservation width))
    (analysis : RestartAnalysis) :
    Except RestartCheckpointRepairPreparationEvidenceError Bool :=
  match ownedReplayObservationAtPosition replayObservations required.pagePosition with
  | none => return false
  | some (observationIndex, observation) =>
      match required, observation with
      | .raw _, .page page => return decide (page.pageNumber = pageNumber)
      | .committedTransaction transaction _ commitPosition, .transactionPage owned => do
          if owned.owner = transaction ∧ owned.page.pageNumber = pageNumber then
            let target ← preparedReplayPageTarget observationIndex
              replayObservations analysis (.transactionPage owned)
            return decide (RequiredTargetMatches transaction commitPosition target)
          else
            return false
      | _, _ => return false

def selectedCheckpointPageEntry (baseline : RestartCheckpointCompletenessBaseline)
    (pageNumber : PageNumber) : Option RestartPageEntry :=
  search (fun entry : RestartPageEntry => entry.pageNumber.get) pageNumber.get
    baseline.pages

def RestartPageState.dirtyImage : RestartPageState → Option RestartRequiredPageImage
  | .storeMissing required => some required
  | .storeBehind _ required => some required
  | .noRequiredImage => none
  | .storeCurrent _ _ => none

def validateOwnedDirtyCheckpointImages (baseline : RestartCheckpointCompletenessBaseline)
    (replayObservations : List (DurableTransactionRestartObservation width))
    (analysis : RestartAnalysis) :
      Except RestartCheckpointRepairPreparationEvidenceError Unit :=
  forM baseline.pages fun entry =>
    forM entry.state.dirtyImage.toList fun required => do
      let isOwned ← dirtyCheckpointRequiredImageIsOwned entry.pageNumber required
        replayObservations analysis
      rejectIf (isOwned = false)
        (.dirtyCheckpointRequiredImageMissing entry.pageNumber required.pagePosition)

/-! ## Combining with the checkpoint -/

/-- `target.is_none_or(|candidate| candidate.page_position <= required)`. -/
def UnchangedAtCheckpoint (target : Option (RestartCheckpointPageRepairTarget width))
    (required : RestartRequiredPageImage) : Prop :=
  ∀ candidate ∈ target, candidate.pagePosition.get ≤ required.pagePosition

instance (target : Option (RestartCheckpointPageRepairTarget width))
    (required : RestartRequiredPageImage) :
      Decidable (UnchangedAtCheckpoint target required) :=
  inferInstanceAs (Decidable (∀ candidate ∈ target, _))

def combineRestartCheckpointPageRepairEvidence
    (baseline : RestartCheckpointCompletenessBaseline)
    (repair : PreparedRestartCheckpointPageRepair width) :
    PreparedRestartCheckpointPageRepair width :=
  match (selectedCheckpointPageEntry baseline repair.pageNumber).map
    RestartPageEntry.state with
  | none => { repair with
      sourceExpectation := .suffixOnly, unchangedCheckpointCurrent := false }
  | some .noRequiredImage => { repair with
      sourceExpectation := .missingAtCheckpoint, unchangedCheckpointCurrent := false }
  | some (.storeMissing _) => { repair with
      sourceExpectation := .missingAtCheckpoint, unchangedCheckpointCurrent := false }
  | some (.storeCurrent required storedPosition) =>
      if UnchangedAtCheckpoint repair.target required then
        { repair with
          sourceExpectation := .exactCheckpointSnapshot storedPosition
          target := none
          unchangedCheckpointCurrent := true }
      else
        { repair with
          sourceExpectation := .exactCheckpointSnapshot storedPosition
          unchangedCheckpointCurrent := false }
  | some (.storeBehind storedPosition _) => { repair with
      sourceExpectation := .exactCheckpointSnapshot storedPosition
      unchangedCheckpointCurrent := false }

/-! ## Resolving against the store -/

def ownedReplayPageAtPosition (pageNumber : PageNumber) (position : LogSequenceNumber)
    (replayObservations : List (DurableTransactionRestartObservation width)) :
    Option (Nat × DurableTransactionRestartObservation width) :=
  (ownedReplayObservationAtPosition replayObservations position.get).filter fun found =>
    decide (∃ page ∈ found.2.pageImage, page.pageNumber = pageNumber ∧
      page.position = position)

def validateReplayBackedSnapshot (snapshot : StoredPageSnapshotObservation width)
    (replayObservations : List (DurableTransactionRestartObservation width))
    (analysis : RestartAnalysis) :
      Except RestartCheckpointRepairPreparationEvidenceError Unit := do
  let pageNumber := snapshot.pageNumber
  let (observationIndex, observation) ← okOr
    (ownedReplayPageAtPosition pageNumber snapshot.requiredPosition replayObservations)
    (.suffixSnapshotRecordMissing pageNumber snapshot.requiredPosition)
  match observation with
  | .page page =>
      rejectIf (¬SnapshotPayloadMatches snapshot page)
        (.snapshotPayloadContradiction pageNumber snapshot.requiredPosition)
  | .transactionPage owned => do
      rejectIf (¬SnapshotPayloadMatches snapshot owned.page)
        (.snapshotPayloadContradiction pageNumber snapshot.requiredPosition)
      let target ← preparedReplayPageTarget observationIndex replayObservations analysis
        (.transactionPage owned)
      rejectIf (target = none)
        (.snapshotBackedByUncommittedTransaction pageNumber owned.owner owned.position)
  | .commit _ => throw (.suffixSnapshotRecordMissing pageNumber snapshot.requiredPosition)

def SnapshotMatchesPreparedRepairTarget (snapshot : StoredPageSnapshotObservation width)
    (target : RestartCheckpointPageRepairTarget width) : Prop :=
  snapshot.pageNumber = target.page.pageNumber ∧ snapshot.requiredPosition =
    target.pagePosition ∧
    snapshot.pageVersion = target.page.pageVersion ∧ snapshot.image = target.page.image

instance (snapshot : StoredPageSnapshotObservation width)
    (target : RestartCheckpointPageRepairTarget width) :
    Decidable (SnapshotMatchesPreparedRepairTarget snapshot target) :=
  inferInstanceAs (Decidable (_ ∧ _))

def validatePreparedSnapshotIdentity (lineage : LogLineage) (pageNumber : PageNumber)
    (snapshot : StoredPageSnapshotObservation width) :
    Except RestartCheckpointRepairPreparationEvidenceError Unit := do
  rejectIf (snapshot.pageNumber ≠ pageNumber)
    (.unexpectedSnapshotPage pageNumber snapshot.pageNumber snapshot.requiredPosition)
  rejectIf (lineage ≠ snapshot.requiredPosition.lineage)
    (.foreignSnapshotLineage pageNumber snapshot.requiredPosition)

def PreparedRestartCheckpointPageSourceExpectation.position :
    PreparedRestartCheckpointPageSourceExpectation → Option U64
  | .suffixOnly => none
  | .missingAtCheckpoint => none
  | .exactCheckpointSnapshot position => some position

def checkSourceExpectation (repair : PreparedRestartCheckpointPageRepair width)
    (snapshot : Option (StoredPageSnapshotObservation width)) :
    Except RestartCheckpointRepairPreparationEvidenceError Unit :=
  let actualPosition := snapshot.map (·.requiredPosition.get)
  match repair.sourceExpectation with
  | .missingAtCheckpoint =>
      rejectIf (snapshot ≠ none)
        (.checkpointSourceChanged repair.pageNumber none actualPosition)
  | .exactCheckpointSnapshot position =>
      rejectIf (actualPosition ≠ some position)
        (.checkpointSourceChanged repair.pageNumber (some position) actualPosition)
  | .suffixOnly => return ()

/-- Check a snapshot against the record at its position, if the window holds it. -/
def validateIfOwned (pageNumber : PageNumber)
    (snapshot : StoredPageSnapshotObservation width)
    (replayObservations : List (DurableTransactionRestartObservation width))
    (analysis : RestartAnalysis) :
      Except RestartCheckpointRepairPreparationEvidenceError Unit :=
  if ownedReplayPageAtPosition pageNumber snapshot.requiredPosition
      replayObservations = none then
    return ()
  else
    validateReplayBackedSnapshot snapshot replayObservations analysis

def resolveUnchanged (repair : PreparedRestartCheckpointPageRepair width)
    (snapshot : Option (StoredPageSnapshotObservation width))
    (replayObservations : List (DurableTransactionRestartObservation width))
    (analysis : RestartAnalysis) :
    Except RestartCheckpointRepairPreparationEvidenceError
      (PreparedRestartCheckpointPageRepairResolution width) := do
  let snapshot ← okOr snapshot
    (.checkpointSourceChanged repair.pageNumber repair.sourceExpectation.position none)
  validateIfOwned repair.pageNumber snapshot replayObservations analysis
  return .checkpointCurrent snapshot

def resolveUntargeted (repair : PreparedRestartCheckpointPageRepair width)
    (snapshot : Option (StoredPageSnapshotObservation width))
    (replayObservations : List (DurableTransactionRestartObservation width))
    (analysis : RestartAnalysis) :
    Except RestartCheckpointRepairPreparationEvidenceError
      (PreparedRestartCheckpointPageRepairResolution width) :=
  match snapshot with
  | some snapshot => do
      validateReplayBackedSnapshot snapshot replayObservations analysis
      throw (.eligibleReplayTargetMissing repair.pageNumber snapshot.requiredPosition)
  | none => return .noRequiredImage

def resolveTargeted (repair : PreparedRestartCheckpointPageRepair width)
    (target : RestartCheckpointPageRepairTarget width)
    (snapshot : Option (StoredPageSnapshotObservation width))
    (replayObservations : List (DurableTransactionRestartObservation width))
    (analysis : RestartAnalysis) :
    Except RestartCheckpointRepairPreparationEvidenceError
      (PreparedRestartCheckpointPageRepairResolution width) :=
  match snapshot with
  | none => return .candidate none
  | some snapshot =>
      if snapshot.requiredPosition = target.pagePosition then do
        rejectIf (¬SnapshotMatchesPreparedRepairTarget snapshot target)
          (.snapshotPayloadContradiction repair.pageNumber snapshot.requiredPosition)
        return .alreadyCurrent snapshot
      else do
        rejectIf (target.pagePosition.get < snapshot.requiredPosition.get)
          (.snapshotAfterTarget repair.pageNumber snapshot.requiredPosition
            target.pagePosition)
        match repair.sourceExpectation with
        | .suffixOnly => validateReplayBackedSnapshot snapshot replayObservations analysis
        | .exactCheckpointSnapshot _ =>
            validateIfOwned repair.pageNumber snapshot replayObservations analysis
        | .missingAtCheckpoint => .ok ()
        return .candidate (some snapshot)

def resolvePreparedRestartCheckpointPageRepair (lineage : LogLineage)
    (repair : PreparedRestartCheckpointPageRepair width)
    (snapshot : Option (StoredPageSnapshotObservation width))
    (replayObservations : List (DurableTransactionRestartObservation width))
    (analysis : RestartAnalysis) :
    Except RestartCheckpointRepairPreparationEvidenceError
      (PreparedRestartCheckpointPageRepair width) := do
  forM snapshot.toList (validatePreparedSnapshotIdentity lineage repair.pageNumber)
  checkSourceExpectation repair snapshot
  let resolution ←
    if repair.unchangedCheckpointCurrent then
      resolveUnchanged repair snapshot replayObservations analysis
    else
      match repair.target with
      | none => resolveUntargeted repair snapshot replayObservations analysis
      | some target => resolveTargeted repair target snapshot replayObservations analysis
  return { repair with resolution }

/-! ## Preparation -/

/-- Note the target of one record of the window. -/
def targetReplayObservation
    (replayObservations : List (DurableTransactionRestartObservation width))
    (analysis : RestartAnalysis)
    (repairs : List (PreparedRestartCheckpointPageRepair width)) :
    DurableTransactionRestartObservation width × Nat →
      Except RestartCheckpointRepairPreparationEvidenceError
        (List (PreparedRestartCheckpointPageRepair width))
  | (observation, observationIndex) =>
      match observation.pageImage with
      | none => return repairs
      | some page => do
          let repairIndex ← (binarySearchByKey
            (fun repair : PreparedRestartCheckpointPageRepair width =>
              repair.pageNumber.get)
            page.pageNumber.get repairs).mapError
              fun _ => .replayPageInventoryMissing page.pageNumber page.position
          match ← preparedReplayPageTarget observationIndex replayObservations analysis
            observation with
          | some target =>
              return repairs.modify repairIndex ({ · with target := some target })
          | none => return repairs

/-- The page numbers of the window: sorted, then deduplicated. -/
def replayPageNumbers
    (replayObservations : List (DurableTransactionRestartObservation width)) :
    List PageNumber :=
  (((replayObservations.filterMap (·.pageImage)).map (·.pageNumber)).mergeSort
    fun left right => left.get ≤ right.get).dedup

def PreparedRestartCheckpointPageRepair.new (pageNumber : PageNumber) :
    PreparedRestartCheckpointPageRepair width where
  pageNumber
  sourceExpectation := .suffixOnly
  target := none
  unchangedCheckpointCurrent := false
  resolution := .pending

def prepareTransactionRestartCheckpointPageRepairs (storeLineage : LogLineage)
    (observePage : ObservePage width StoreError)
    (baseline : RestartCheckpointCompletenessBaseline)
    (planned : MaterializedRestartCheckpointReplay width) :
    Except (RestartCheckpointRepairPreparationError StoreError)
      (List (PreparedRestartCheckpointPageRepair width)) := do
  let replayLineage := planned.currentAnalysis.lineage
  rejectIf (replayLineage ≠ storeLineage) (.lineageMismatch replayLineage storeLineage)
  let repairs := (replayPageNumbers planned.replayObservations).map .new
  let targeted ← (planned.replayObservations.zipIdx.foldlM (targetReplayObservation
    planned.replayObservations planned.currentAnalysis) repairs).mapError .evidence
  (validateOwnedDirtyCheckpointImages baseline planned.replayObservations
    planned.currentAnalysis).mapError .evidence
  (targeted.map (combineRestartCheckpointPageRepairEvidence baseline)).mapM fun repair =>
    do
    let snapshot ← (observePage repair.pageNumber).mapError
      (.storeObservation repair.pageNumber)
    (resolvePreparedRestartCheckpointPageRepair replayLineage repair snapshot
      planned.replayObservations planned.currentAnalysis).mapError .evidence

/-! ## Carrying out the repairs -/

inductive RestartCheckpointPageRepairPrecondition (width : Nat) where
  | storeMissing
  | exactSnapshot (snapshot : StoredPageSnapshotObservation width)
deriving DecidableEq

structure RestartCheckpointPageRepairCandidate (width : Nat) where
  precondition : RestartCheckpointPageRepairPrecondition width
  target : RestartCheckpointPageRepairTarget width
deriving DecidableEq

inductive RestartCheckpointPageRepairComparison where
  | sourceMatches
  | targetAlreadyPresent
deriving DecidableEq

inductive RestartCheckpointPageRepairComparisonError where
  | unexpectedCurrentSnapshotPage (expected actual : PageNumber)
      (position : LogSequenceNumber)
  | foreignCurrentSnapshotLineage (pageNumber : PageNumber) (position : LogSequenceNumber)
  | targetSnapshotPayloadContradiction (pageNumber : PageNumber)
      (position : LogSequenceNumber)
  | sourceSnapshotPayloadContradiction (pageNumber : PageNumber)
      (position : LogSequenceNumber)
  | storeChanged (pageNumber : PageNumber)
      (expectedSourcePosition actualPosition : Option LogSequenceNumber)
deriving DecidableEq

def compareTransactionRestartCheckpointPageRepairCandidate
    (candidate : RestartCheckpointPageRepairCandidate width)
    (currentSnapshot : Option (StoredPageSnapshotObservation width)) :
    Except RestartCheckpointPageRepairComparisonError
      RestartCheckpointPageRepairComparison :=
  let target := candidate.target
  let pageNumber := target.page.pageNumber
  match currentSnapshot, candidate.precondition with
  | none, .storeMissing => return .sourceMatches
  | none, .exactSnapshot snapshot =>
      throw (.storeChanged pageNumber (some snapshot.requiredPosition) none)
  | some current, precondition => do
      rejectIf (current.pageNumber ≠ pageNumber)
        (.unexpectedCurrentSnapshotPage pageNumber current.pageNumber
          current.requiredPosition)
      rejectIf (target.pagePosition.lineage ≠ current.requiredPosition.lineage)
        (.foreignCurrentSnapshotLineage pageNumber current.requiredPosition)
      if current.requiredPosition = target.pagePosition then
        rejectIf (¬SnapshotMatchesPreparedRepairTarget current target)
          (.targetSnapshotPayloadContradiction pageNumber current.requiredPosition)
        return .targetAlreadyPresent
      else
        match precondition with
        | .storeMissing =>
            throw (.storeChanged pageNumber none (some current.requiredPosition))
        | .exactSnapshot snapshot =>
            if current.requiredPosition = snapshot.requiredPosition then
              rejectIf (current ≠ snapshot)
                (.sourceSnapshotPayloadContradiction pageNumber current.requiredPosition)
              return .sourceMatches
            else
              throw (.storeChanged pageNumber (some snapshot.requiredPosition)
                (some current.requiredPosition))

def comparePreparedRestartCheckpointPageSource (lineage : LogLineage)
    (pageNumber : PageNumber)
    (expected current : Option (StoredPageSnapshotObservation width)) :
    Except RestartCheckpointPageRepairComparisonError Unit :=
  match current, expected with
  | none, none => return ()
  | none, some expected =>
      throw (.storeChanged pageNumber (some expected.requiredPosition) none)
  | some current, expected => do
      rejectIf (current.pageNumber ≠ pageNumber)
        (.unexpectedCurrentSnapshotPage pageNumber current.pageNumber
          current.requiredPosition)
      rejectIf (lineage ≠ current.requiredPosition.lineage)
        (.foreignCurrentSnapshotLineage pageNumber current.requiredPosition)
      let expected ← okOr expected
        (.storeChanged pageNumber none (some current.requiredPosition))
      rejectIf (current.requiredPosition ≠ expected.requiredPosition)
        (.storeChanged pageNumber (some expected.requiredPosition)
          (some current.requiredPosition))
      rejectIf (current ≠ expected)
        (.sourceSnapshotPayloadContradiction pageNumber current.requiredPosition)

/-- Proof authorizing one exact prepared page replacement. -/
structure RestartCheckpointPageRepairWritePermit where
  pagePosition : LogSequenceNumber
  commitPosition : Option LogSequenceNumber
deriving DecidableEq

def RestartCheckpointPageRepairTargetKind.commitPosition :
    RestartCheckpointPageRepairTargetKind → Option LogSequenceNumber
  | .raw => none
  | .committedTransaction _ commitPosition => some commitPosition

/-- `with_transaction_restart_checkpoint_page_repair_write_permit`. -/
def RestartCheckpointPageRepairTarget.permit
    (target : RestartCheckpointPageRepairTarget width) :
    RestartCheckpointPageRepairWritePermit where
  pagePosition := target.pagePosition
  commitPosition := target.kind.commitPosition

inductive RestartCheckpointPageRepairOutcome where
  | noRequiredImage (pageNumber : PageNumber)
  | checkpointCurrent (pageNumber : PageNumber)
  | alreadyCurrent (pageNumber : PageNumber)
  | targetAlreadyPresent (pageNumber : PageNumber)
  | repaired (pageNumber : PageNumber)
deriving DecidableEq

inductive RestartCheckpointPageRepairFailureCause
    (ObservationError WriteError : Type) where
  | lineageMismatch (replayLineage storeLineage : LogLineage)
  | unresolvedDecision (pageNumber : PageNumber)
  | candidateTargetMissing (pageNumber : PageNumber)
  | storeObservation (pageNumber : PageNumber) (source : ObservationError)
  | sourceComparison (pageNumber : PageNumber)
      (source : RestartCheckpointPageRepairComparisonError)
  | storeWrite (pageNumber : PageNumber) (source : WriteError)

structure RepairPorts (World ObservationError WriteError : Type) (width : Nat) where
  lineage : World → LogLineage
  observePage : PageNumber → World →
    Except ObservationError (Option (StoredPageSnapshotObservation width))
  compareAndReplaceReplayPage : RestartCheckpointPageRepairCandidate width →
    RestartCheckpointPageRepairWritePermit → EStateM WriteError World Unit

section Attempt

variable {World ObservationError WriteError : Type}

/-- The source that was prepared, as a precondition of the write. -/
def preconditionOf (source : Option (StoredPageSnapshotObservation width)) :
    RestartCheckpointPageRepairPrecondition width :=
  source.elim .storeMissing .exactSnapshot

def attemptCandidate (ports : RepairPorts World ObservationError WriteError width)
    (pageNumber : PageNumber) (candidate : RestartCheckpointPageRepairCandidate width)
    (current : Option (StoredPageSnapshotObservation width)) :
    EStateM (RestartCheckpointPageRepairFailureCause ObservationError WriteError) World
      RestartCheckpointPageRepairOutcome := do
  match ← check ((compareTransactionRestartCheckpointPageRepairCandidate candidate
    current).mapError (.sourceComparison pageNumber)) with
  | .targetAlreadyPresent => return .targetAlreadyPresent pageNumber
  | .sourceMatches => do
      match ← attempt
        (ports.compareAndReplaceReplayPage candidate candidate.target.permit) with
      | .ok () => return .repaired pageNumber
      | .error error => throw (.storeWrite pageNumber error)

def attemptRepair (ports : RepairPorts World ObservationError WriteError width)
    (replayLineage : LogLineage) (repair : PreparedRestartCheckpointPageRepair width) :
    EStateM (RestartCheckpointPageRepairFailureCause ObservationError WriteError) World
      RestartCheckpointPageRepairOutcome := do
  let pageNumber := repair.pageNumber
  let world ← get
  let current ← check
    ((ports.observePage pageNumber world).mapError (.storeObservation pageNumber))
  let compareSource (expected : Option (StoredPageSnapshotObservation width)) :=
    (comparePreparedRestartCheckpointPageSource replayLineage pageNumber expected
      current).mapError (.sourceComparison pageNumber)
  match repair.resolution with
  | .pending => throw (.unresolvedDecision pageNumber)
  | .noRequiredImage => do
      check (compareSource none)
      return .noRequiredImage pageNumber
  | .checkpointCurrent expected => do
      check (compareSource (some expected))
      return .checkpointCurrent pageNumber
  | .alreadyCurrent expected => do
      check (compareSource (some expected))
      return .alreadyCurrent pageNumber
  | .candidate source => do
      let target ← check (okOr repair.target (.candidateTargetMissing pageNumber))
      attemptCandidate ports pageNumber ⟨preconditionOf source, target⟩ current

/-- Carry out the repairs in order, keeping the outcomes of those completed. -/
def attemptRepairs (ports : RepairPorts World ObservationError WriteError width)
    (replayLineage : LogLineage) :
    List RestartCheckpointPageRepairOutcome →
      List (PreparedRestartCheckpointPageRepair width) →
      EStateM (List RestartCheckpointPageRepairOutcome ×
        RestartCheckpointPageRepairFailureCause ObservationError WriteError) World
        (List RestartCheckpointPageRepairOutcome)
  | completed, [] => return completed
  | completed, repair :: repairs => do
      match ← attempt (attemptRepair ports replayLineage repair) with
      | .ok outcome => attemptRepairs ports replayLineage (completed ++ [outcome]) repairs
      | .error cause => throw (completed, cause)

def attemptPreparedTransactionRestartCheckpointPageRepairs
    (ports : RepairPorts World ObservationError WriteError width)
    (replayLineage : LogLineage)
    (completedPrefix : List RestartCheckpointPageRepairOutcome)
    (repairs : List (PreparedRestartCheckpointPageRepair width)) :
    EStateM (List RestartCheckpointPageRepairOutcome ×
      RestartCheckpointPageRepairFailureCause ObservationError WriteError) World
      (List RestartCheckpointPageRepairOutcome) := do
  let world ← get
  let storeLineage := ports.lineage world
  check (rejectIf (replayLineage ≠ storeLineage)
    (completedPrefix, .lineageMismatch replayLineage storeLineage))
  attemptRepairs ports replayLineage completedPrefix repairs

end Attempt

end Ntsql.Transaction
