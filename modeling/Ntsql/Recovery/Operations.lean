import Ntsql.Foundation.Execution
import Ntsql.Recovery.Retention

/-! # Operations and runs

The model's public operations as data, so that a run is a list of them. A run
operation is one an ordinary database makes; the remaining public operations
drive the candidate files and the open scenario by hand. -/

namespace Ntsql.Recovery

inductive Response
  | unit
  | epoch (epoch : U64)
  | transaction (id : TransactionId)
  | position (position : WalPosition)
  | flushed (position : Option WalPosition)
  | page (page : PageId)
  | count (count : Nat)
  | applied (result : Applied Nat ModelError)
  | stage (stage : ReplacementStage)
  | lineage (lineage : LineageId)
  | restoration (summary : RestorationSummary)
  | generation (generation : Generation)

inductive RunOperation
  | allocateCoordinatorEpoch
  | beginTransaction
  | appendTransactionPage (txn : TransactionId) (page : PageId) (pageValue : U64)
      (pageVersion : PageVersion)
  | appendTransactionCommit (txn : TransactionId)
  | appendRawPage (page : PageId) (pageValue : U64) (pageVersion : PageVersion)
  | flushWal
  | writePageStore (position : WalPosition)
  | publishCheckpoint (anchor : CheckpointAnchor)
  | crash
  | crashPreservingCompleteWalTail
  | reopen
  | select
  | planReplay
  | repairPages
  | repairPagesFault
  | repairPagesAppliedFault
  | restoreTransactions
  | complete
  | analyzeRetention
  | reclaim
deriving DecidableEq

def RunOperation.apply : RunOperation → ModelM Response
  | .allocateCoordinatorEpoch => .epoch <$> Recovery.allocateCoordinatorEpoch
  | .beginTransaction => .transaction <$> Recovery.beginTransaction
  | .appendTransactionPage txn page pageValue pageVersion =>
      .position <$> Recovery.appendTransactionPage txn page pageValue pageVersion
  | .appendTransactionCommit txn => .position <$> Recovery.appendTransactionCommit txn
  | .appendRawPage page pageValue pageVersion =>
      .position <$> Recovery.appendRawPage page pageValue pageVersion
  | .flushWal => .flushed <$> Recovery.flushWal
  | .writePageStore position => .page <$> Recovery.writePageStore position
  | .publishCheckpoint anchor => (fun _ => .unit) <$> Recovery.publishCheckpoint anchor
  | .crash => (fun _ => .unit) <$> Recovery.crash
  | .crashPreservingCompleteWalTail =>
      (fun _ => .unit) <$> Recovery.crashPreservingCompleteWalTail
  | .reopen => .lineage <$> Recovery.reopen
  | .select => (fun _ => .unit) <$> Recovery.select
  | .planReplay => .count <$> Recovery.planReplay
  | .repairPages => .count <$> Recovery.repairPages
  | .repairPagesFault => (fun _ => .unit) <$> Recovery.repairPagesFault
  | .repairPagesAppliedFault => .applied <$> Recovery.repairPagesAppliedFault
  | .restoreTransactions => .restoration <$> Recovery.restoreTransactions
  | .complete => (fun _ => .unit) <$> Recovery.complete
  | .analyzeRetention => (fun _ => .unit) <$> Recovery.analyzeRetention
  | .reclaim => .generation <$> Recovery.reclaim

inductive PublicOperation
  | ordinary (operation : RunOperation)
  | selectObserved (minimal : MinimalMetadata) (full : Option FullMetadata)
  | beginCheckpointCandidate (snapshot : CheckpointSnapshot)
  | advanceCheckpointCandidate
  | setCheckpointCandidateEntry (entry : CandidateEntry)
  | beginWalCandidate (replacement : WalReplacement)
  | advanceWalCandidate
  | setWalCandidateEntry (entry : CandidateEntry)
  | setSelectedEntriesForOpen (wal checkpoint : SelectedEntryState)
  | setCheckpointCandidateForOpen (candidate : CheckpointCandidateState)
  | setWalCandidateForOpen (candidate : WalCandidateState)

def PublicOperation.apply : PublicOperation → ModelM Response
  | .ordinary operation => operation.apply
  | .selectObserved minimal full =>
      (fun _ => .unit) <$> Recovery.selectObserved minimal full
  | .beginCheckpointCandidate snapshot =>
      (fun _ => .unit) <$> Recovery.beginCheckpointCandidate snapshot
  | .advanceCheckpointCandidate => .stage <$> Recovery.advanceCheckpointCandidate
  | .setCheckpointCandidateEntry entry =>
      (fun _ => .unit) <$> Recovery.setCheckpointCandidateEntry entry
  | .beginWalCandidate replacement =>
      (fun _ => .unit) <$> Recovery.beginWalCandidate replacement
  | .advanceWalCandidate => .stage <$> Recovery.advanceWalCandidate
  | .setWalCandidateEntry entry =>
      (fun _ => .unit) <$> Recovery.setWalCandidateEntry entry
  | .setSelectedEntriesForOpen wal checkpoint =>
      (fun _ => .unit) <$> Recovery.setSelectedEntriesForOpen wal checkpoint
  | .setCheckpointCandidateForOpen candidate =>
      (fun _ => .unit) <$> Recovery.setCheckpointCandidateForOpen candidate
  | .setWalCandidateForOpen candidate =>
      (fun _ => .unit) <$> Recovery.setWalCandidateForOpen candidate

namespace RecoveryModel

/-- The model after a run operation, whether or not it failed. -/
def after (model : RecoveryModel) (operation : RunOperation) : RecoveryModel :=
  Operation.leaves (operation.apply model)

def afterPublic (model : RecoveryModel) (operation : PublicOperation) : RecoveryModel :=
  Operation.leaves (operation.apply model)

def reached (logId : LogId) (operations : List RunOperation) : RecoveryModel :=
  Execution.run after (new logId) operations

end RecoveryModel

/-- The recovery sequence a database runs after a crash. -/
def recoverySteps : List RunOperation :=
  [.reopen, .select, .planReplay, .repairPages, .restoreTransactions, .complete]

/-! ## Concrete values

Small arguments for the concrete runs below. -/

namespace Sample

def log : LogId := ⟨1, u128_one_ne_zero⟩

def page : PageId := ⟨1, u64_one_ne_zero⟩

def anchor : CheckpointAnchor := ⟨1, 1⟩

def version : PageVersion := ⟨1⟩

def transaction : TransactionId := ⟨1, 1, u64_one_ne_zero, u64_one_ne_zero⟩

def first : WalPosition := ⟨1, u64_one_ne_zero⟩

def second : WalPosition := ⟨2, u64_two_ne_zero⟩

end Sample

end Ntsql.Recovery
