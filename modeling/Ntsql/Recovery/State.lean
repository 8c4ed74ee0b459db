import Ntsql.Foundation.DurableLog
import Ntsql.Foundation.Fallible
import Ntsql.Recovery.Types

/-! # The model's state

The state of the logical recovery model, its accessors and the helpers every
operation shares. -/

namespace Ntsql.Recovery

structure RecoveryModel where
  logId : LogId
  lineageId : LineageId
  phase : RecoveryPhase
  walRecords : List WalRecord
  flushPosition : Option WalPosition
  /-- `none` once the position space is exhausted. -/
  nextPosition : Option U64
  logicalHighWater : Option WalPosition
  currentEpoch : Option U64
  nextEpoch : Option U64
  nextSequence : Option U64
  epochHighWater : Option U64
  activeTransactions : TransactionPositions
  persistedTransactions : TransactionPositions
  committedTransactions : BTreeMap TransactionId WalPosition
  pageStore : PageStore
  checkpointSlot : Option CheckpointSnapshot
  selectedCheckpoint : Option CheckpointSnapshot
  walGeneration : Generation
  walFormatVersion : U16
  generationAnchor : Option CheckpointAnchor
  retainedFirst : Option WalPosition
  replacementLogicalHighWater : Option WalPosition
  replacementEpochHighWater : Option U64
  completionEvidence : Option CompletionEvidence
  retentionAnalysis : Option RetentionAnalysis
  checkpointCandidate : CheckpointCandidateState
  walCandidate : WalCandidateState
  locks : Locks
  replayPlan : Option (List WalRecord)
  restorationSummary : Option RestorationSummary
  selectedWalEntry : SelectedEntryState
  selectedCheckpointEntry : SelectedEntryState

/-- A method taking the model mutably: on failure it keeps what it wrote. -/
abbrev ModelM := EStateM ModelError RecoveryModel

namespace RecoveryModel

/-- A fresh model with the given persistent log identity. -/
def new (logId : LogId) : RecoveryModel where
  logId := logId
  lineageId := ⟨0⟩
  phase := .live
  walRecords := []
  flushPosition := none
  nextPosition := some 1
  logicalHighWater := none
  currentEpoch := none
  nextEpoch := some 1
  nextSequence := none
  epochHighWater := none
  activeTransactions := ∅
  persistedTransactions := ∅
  committedTransactions := ∅
  pageStore := ∅
  checkpointSlot := none
  selectedCheckpoint := none
  walGeneration := .zero
  walFormatVersion := completePrefixFormatVersion
  generationAnchor := none
  retainedFirst := none
  replacementLogicalHighWater := none
  replacementEpochHighWater := none
  completionEvidence := none
  retentionAnalysis := none
  checkpointCandidate := .absent
  walCandidate := .absent
  locks := .allLive
  replayPlan := none
  restorationSummary := none
  selectedWalEntry := .valid
  selectedCheckpointEntry := .valid

end RecoveryModel

namespace RecoveryModel

def durableWalRecords (model : RecoveryModel) : List WalRecord :=
  DurableLog.durablePrefix WalRecord.position model.flushPosition model.walRecords

/-- `wal_records.iter().find(|record| record.position == position)`. -/
def recordAt (model : RecoveryModel) (position : WalPosition) : Option WalRecord :=
  model.walRecords.find? fun record => record.position = position

def requirePhase (model : RecoveryModel) (allowed : List RecoveryPhase)
    (operation : String) :
    Except ModelError Unit :=
  rejectIf (model.phase ∉ allowed) (.invalidPhase model.phase operation)

def requireLiveOrComplete (model : RecoveryModel) (operation : String) :
    Except ModelError Unit :=
  model.requirePhase [.live, .completeLive] operation

def markCompletionStale (model : RecoveryModel) (reason : String) : RecoveryModel :=
  { model with
    completionEvidence := model.completionEvidence.map fun evidence =>
      { evidence with stale := true, staleReason := some reason } }

end RecoveryModel

/-- The fields a record of each kind must and must not have. -/
def WalRecord.HasShape (record : WalRecord) : Prop :=
  match record.kind with
  | .transactionPage =>
      record.transaction.isSome ∧ record.page.isSome ∧
        record.pageValue.isSome ∧ record.pageVersion.isSome
  | .transactionCommit =>
      record.transaction.isSome ∧ record.page.isNone ∧
        record.pageValue.isNone ∧ record.pageVersion.isNone
  | .rawPage =>
      record.transaction.isNone ∧ record.page.isSome ∧
        record.pageValue.isSome ∧ record.pageVersion.isSome

instance (record : WalRecord) : Decidable record.HasShape := by
  unfold WalRecord.HasShape
  split <;> infer_instance

def validateRecordShape (record : WalRecord) : Except ModelError Unit :=
  rejectIf (¬record.HasShape)
    (.invalidRecordShape "WAL record fields do not match its kind")

/-- Hands out the next position; the counter moves before the position is
checked. -/
def allocatePosition : ModelM WalPosition := do
  let model ← get
  let value ← check (okOr model.nextPosition .positionExhausted)
  set { model with nextPosition := checkedSucc value }
  check (okOr (WalPosition.new value) .positionExhausted)

end Ntsql.Recovery
