import Ntsql.Recovery.Live
import Ntsql.Recovery.Opening

/-! # Replay, repair and restoration

Planning copies the window of durable records the checkpoint leaves open;
repair installs their images, restoration rebuilds the transaction table, and
completion records the evidence retention relies on. -/

namespace Ntsql.Recovery

namespace CheckpointSnapshot

/-- The replay window: from the replay start inclusively, else strictly after
the frontier, else everything. -/
def InWindow (checkpoint : CheckpointSnapshot) (position : WalPosition) : Prop :=
  match checkpoint.replayStart with
  | some replayStart => position ≥ replayStart
  | none =>
      match checkpoint.frontier.position with
      | some frontier => position > frontier
      | none => True

instance (checkpoint : CheckpointSnapshot) (position : WalPosition) :
    Decidable (checkpoint.InWindow position) := by
  unfold InWindow
  split
  · infer_instance
  · split <;> infer_instance

end CheckpointSnapshot

namespace RecoveryModel

/-- The records `plan_replay` copies. -/
def replayWindow (model : RecoveryModel) : List WalRecord :=
  match model.selectedCheckpoint with
  | some checkpoint =>
      model.durableWalRecords.filter fun record => checkpoint.InWindow record.position
  | none => model.durableWalRecords

end RecoveryModel

def planReplay : ModelM Nat := do
  let model ← get
  check (model.requirePhase [.selected] "plan_replay")
  set { model with
    replayPlan := some model.replayWindow
    phase := .replayPlanned }
  return model.replayWindow.length

/-- Install `snapshot` and count it when the store lags behind it. -/
def installLagging (repaired : Nat) (page : PageId) (snapshot : PageSnapshot) :
    ModelM Nat := do
  let model ← get
  if StoreLags model.pageStore page snapshot.writtenAt then
    set { model with pageStore := model.pageStore.insert page snapshot }
    check (okOr (checkedCount repaired) .repairCountExhausted)
  else
    return repaired

def repairCheckpointPages : Nat → List (PageId × PageSnapshot) → ModelM Nat
  | repaired, [] => return repaired
  | repaired, (page, snapshot) :: entries => do
      let model ← get
      let repaired ← installLagging repaired page (snapshot.rebrand model.lineageId)
      repairCheckpointPages repaired entries

namespace RecoveryModel

/-- Raw pages always apply, a transaction's pages once its commit is durable. -/
def ShouldApply (model : RecoveryModel) (record : WalRecord) : Prop :=
  match record.kind with
  | .rawPage => True
  | .transactionPage =>
      ∃ transaction ∈ record.transaction,
        model.HasCommit model.logicalHighWater transaction
  | .transactionCommit => False

theorem shouldApply_iff {model : RecoveryModel} {record : WalRecord} :
    model.ShouldApply record ↔ record.kind = .rawPage ∨ record.kind = .transactionPage ∧
      ∃ transaction ∈ record.transaction,
        model.HasCommit model.logicalHighWater transaction := by
  unfold ShouldApply
  split <;> rename_i kind <;> simp [kind]

instance (model : RecoveryModel) (record : WalRecord) :
    Decidable (model.ShouldApply record) :=
  decidable_of_iff _ shouldApply_iff.symm

/-- The identity, shape and ownership checks repair makes on a planned record. -/
def checkPlannedRecord (model : RecoveryModel) (record : WalRecord) :
    Except ModelError Unit := do
  rejectIf (record.logId ≠ model.logId ∨ record.lineageId ≠ model.lineageId)
    .foreignSourceMetadata
  validateRecordShape record
  rejectIf (record.kind = .transactionPage ∧ record.transaction = none)
    (.invalidRecordShape "TransactionPage missing transaction during repair")

def plannedSnapshot (model : RecoveryModel) (record : WalRecord) :
    Except ModelError PageSnapshot := do
  let page ← okOr record.page
    (.invalidRecordShape "page record missing page during repair")
  let value ← okOr record.pageValue
    (.invalidRecordShape "page record missing value during repair")
  let version ← okOr record.pageVersion
    (.invalidRecordShape "page record missing version during repair")
  return model.snapshotOf page value record.position version

end RecoveryModel

/-- Replay the planned records onto the page store. -/
def repairPlannedRecords : Nat → List WalRecord → ModelM Nat
  | repaired, [] => return repaired
  | repaired, record :: records => do
      let model ← get
      check (model.checkPlannedRecord record)
      if model.ShouldApply record then
        let snapshot ← check (model.plannedSnapshot record)
        let repaired ← installLagging repaired snapshot.pageId snapshot
        repairPlannedRecords repaired records
      else
        repairPlannedRecords repaired records

/-- Install the pages of `checkpoint` first, when one is selected. -/
def repairSelectedPages (checkpoint : Option CheckpointSnapshot) : ModelM Nat :=
  match checkpoint with
  | some checkpoint => repairCheckpointPages 0 checkpoint.pages.toList
  | none => pure 0

def repairPagesInner : ModelM Nat := do
  let model ← get
  let plan ← check (okOr model.replayPlan
    (.invalidPhase model.phase "repair_pages_inner (no replay plan)"))
  let repaired ← repairSelectedPages model.selectedCheckpoint
  repairPlannedRecords repaired plan

def repairPages : ModelM Nat := do
  let model ← get
  check (model.requirePhase [.replayPlanned] "repair_pages")
  let repaired ← repairPagesInner
  modify fun model => { model with phase := .pagesRepaired }
  return repaired

/-- A fault before any page mutation; the phase allows a retry. -/
def repairPagesFault : ModelM Unit := do
  let model ← get
  check (model.requirePhase [.replayPlanned] "repair_pages_fault")
  throw .repairFault

def repairPagesAppliedFault : ModelM (Applied Nat ModelError) := fun model =>
  match model.requirePhase [.replayPlanned] "repair_pages_applied_fault" with
  | .error error => .ok (.unapplied error) model
  | .ok () =>
      match repairPagesInner model with
      | .ok repaired model =>
          .ok (.appliedThenError repaired .repairFault)
            { model with phase := .pagesRepaired }
      | .error error model => .ok (.unapplied error) model

namespace TransactionPositions

/-- `active.entry(txn).or_insert_with(Vec::new)`, pushing an unseen position. -/
def observePage (active : TransactionPositions) (txn : TransactionId)
    (position : WalPosition) : TransactionPositions :=
  let positions := active[txn]?.getD []
  active.insert txn (if position ∈ positions then positions else positions ++ [position])

end TransactionPositions

/-- The transaction tables restoration builds record by record. -/
structure RestoredTransactions where
  active : TransactionPositions
  committed : BTreeMap TransactionId WalPosition

namespace RecoveryModel

/-- Fold one replayed record into the restored transaction tables. -/
def restoreRecord (model : RecoveryModel) (restored : RestoredTransactions)
    (record : WalRecord) : Except ModelError RestoredTransactions := do
  rejectIf (record.logId ≠ model.logId ∨ record.lineageId ≠ model.lineageId)
    .foreignSourceMetadata
  validateRecordShape record
  match record.kind with
  | .transactionPage =>
      let txn ← okOr record.transaction
        (.invalidRecordShape "TransactionPage missing transaction during restoration")
      return { restored with active := restored.active.observePage txn record.position }
  | .transactionCommit =>
      let txn ← okOr record.transaction
        (.invalidRecordShape "TransactionCommit missing transaction during restoration")
      return { active := restored.active.erase txn
               committed := restored.committed.insert txn record.position }
  | .rawPage =>
      rejectIf record.transaction.isSome
        (.invalidRecordShape "RawPage has transaction during restoration")
      return restored

/-- Epoch high-water persisted by the model or by the selected checkpoint. -/
def persistedHighWater (model : RecoveryModel) : Option U64 :=
  let checkpointHighWater := model.selectedCheckpoint.bind fun checkpoint =>
    checkpoint.transactionSummary.epochHighWater
  match model.epochHighWater, checkpointHighWater with
  | some left, some right => some (if left > right then left else right)
  | some left, none => some left
  | none, some right => some right
  | none, none => none

/-- The first epoch above everything persisted. -/
def freshEpoch (model : RecoveryModel) : Except ModelError U64 :=
  match model.persistedHighWater with
  | some highWater => okOr (checkedSucc highWater) .epochExhausted
  | none => .ok 1

def restorationSeed (model : RecoveryModel) : TransactionPositions :=
  match model.selectedCheckpoint with
  | some checkpoint => checkpoint.transactionSummary.active
  | none => ∅

end RecoveryModel

def restoreTransactions : ModelM RestorationSummary := do
  let model ← get
  check (model.requirePhase [.pagesRepaired] "restore_transactions")
  let freshEpoch ← check model.freshEpoch
  let replay ← check (okOr model.replayPlan
    (.invalidPhase model.phase "restore_transactions (no replay plan)"))
  let restored ← check
    (replay.foldlM model.restoreRecord
      { active := model.restorationSeed, committed := ∅ })
  let summary : RestorationSummary :=
    { freshEpoch := freshEpoch, activeTransactions := restored.active }
  set { model with
    currentEpoch := some freshEpoch
    nextEpoch := checkedSucc freshEpoch
    nextSequence := some 1
    epochHighWater := some freshEpoch
    activeTransactions := ∅
    persistedTransactions := restored.active
    committedTransactions := restored.committed
    restorationSummary := some summary
    phase := .transactionsRestored }
  return summary

def complete : ModelM Unit := do
  let model ← get
  check (model.requirePhase [.transactionsRestored] "complete")
  set { model with
    completionEvidence := some
      { frontier := model.flushPosition
        generation := model.walGeneration
        selectedAnchor := model.selectedCheckpoint.map CheckpointSnapshot.anchor
        epochHighWater := model.epochHighWater
        stale := false
        staleReason := none }
    locks := .allLive
    phase := .completeLive }

end Ntsql.Recovery
