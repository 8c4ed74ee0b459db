import Ntsql.Recovery.Identity

/-! # Records, snapshots and checkpoints

The plain data of the recovery model, field by field as the source has it. -/

namespace Ntsql.Recovery

inductive WalRecordKind
  | transactionPage
  | transactionCommit
  | rawPage
deriving DecidableEq

/-- Logical WAL record, bound to log and lineage. -/
structure WalRecord where
  logId : LogId
  lineageId : LineageId
  position : WalPosition
  kind : WalRecordKind
  transaction : Option TransactionId
  page : Option PageId
  pageValue : Option U64
  pageVersion : Option PageVersion
deriving DecidableEq

structure PageSnapshot where
  logId : LogId
  lineageId : LineageId
  pageId : PageId
  value : U64
  writtenAt : WalPosition
  version : PageVersion
deriving DecidableEq

/-- WAL position up to which checkpoint coverage extends; `none` is an empty
checkpoint published before any WAL record. -/
structure CheckpointFrontier where
  position : Option WalPosition
deriving DecidableEq

def CheckpointFrontier.at (position : WalPosition) : CheckpointFrontier := ⟨some position⟩

def CheckpointFrontier.empty : CheckpointFrontier := ⟨none⟩

/-- Content-derived checkpoint identity, supplied by the caller. -/
structure CheckpointAnchor where
  version : U16
  digest : U128
deriving DecidableEq

abbrev TransactionPositions := BTreeMap TransactionId (List WalPosition)

abbrev PageStore := BTreeMap PageId PageSnapshot

structure TransactionSummary where
  active : TransactionPositions
  epochHighWater : Option U64

structure CheckpointSnapshot where
  logId : LogId
  lineageId : LineageId
  anchor : CheckpointAnchor
  frontier : CheckpointFrontier
  /-- Inclusive replay start; `none` when every durable page record was
  represented in the store. -/
  replayStart : Option WalPosition
  pages : PageStore
  transactionSummary : TransactionSummary

/-- Filesystem replacement stage, shared by checkpoint and WAL replacement. -/
inductive ReplacementStage
  | beforeCleanup
  | afterCleanup
  | afterCreate
  | afterWrite
  | beforeSync
  | afterSync
  | beforeRename
  | afterCurrentReplace
  | duringDirectorySync
  | afterDirectorySync
deriving DecidableEq

def ReplacementStage.next : ReplacementStage → Option ReplacementStage
  | .beforeCleanup => some .afterCleanup
  | .afterCleanup => some .afterCreate
  | .afterCreate => some .afterWrite
  | .afterWrite => some .beforeSync
  | .beforeSync => some .afterSync
  | .afterSync => some .beforeRename
  | .beforeRename => some .afterCurrentReplace
  | .afterCurrentReplace => some .duringDirectorySync
  | .duringDirectorySync => some .afterDirectorySync
  | .afterDirectorySync => none

inductive CandidateEntry
  | absent
  | valid
  | validHigher
  | corrupt
  | partialWrite
  | danglingSymlink
  | inodeAlias
deriving DecidableEq

/-- Checkpoint replacement attempt, independent from the selected checkpoint. -/
inductive CheckpointCandidateState
  | absent
  | present (snapshot : CheckpointSnapshot) (stage : ReplacementStage)
      (entry : CandidateEntry)

/-- Complete target state for one WAL generation replacement. -/
structure WalReplacement where
  targetGeneration : Generation
  anchor : CheckpointAnchor
  retainedSuffix : List WalRecord
  retainedFirst : Option WalPosition
  formatVersion : U16
  logicalHighWater : Option WalPosition
  epochHighWater : Option U64

/-- WAL replacement attempt: its target, the stage reached and the candidate
file's entry. -/
inductive WalCandidateState
  | absent
  | present (replacement : WalReplacement) (stage : ReplacementStage)
      (entry : CandidateEntry)

inductive LockOwnership
  | free
  | recovery
  | live
deriving DecidableEq

structure Locks where
  wal : LockOwnership
  pageStore : LockOwnership
  checkpoint : LockOwnership
  walOldInode : LockOwnership
  walNewInode : LockOwnership
deriving DecidableEq

def Locks.allLive : Locks := ⟨.live, .live, .live, .free, .free⟩

def Locks.allFree : Locks := ⟨.free, .free, .free, .free, .free⟩

def Locks.allRecovery : Locks := ⟨.recovery, .recovery, .recovery, .free, .free⟩

inductive RecoveryPhase
  | live
  | crashed
  | unrecovered
  | selected
  | replayPlanned
  | pagesRepaired
  | transactionsRestored
  | completeLive
  | retentionAnalyzed
  | reclaimed
deriving DecidableEq

/-- Result of an operation that may have been applied before its error. -/
inductive Applied (α ε : Type)
  | ok (value : α)
  | unapplied (error : ε)
  | appliedThenError (value : α) (error : ε)

structure CompletionEvidence where
  frontier : Option WalPosition
  generation : Generation
  selectedAnchor : Option CheckpointAnchor
  epochHighWater : Option U64
  /-- Whether a live mutation after completion made this evidence stale. -/
  stale : Bool
  staleReason : Option String

/-- Retention analysis, consumed once by `reclaim`. -/
structure RetentionAnalysis where
  retainedFirst : Option WalPosition
  checkpointAnchor : CheckpointAnchor
  checkpointLogId : LogId

/-- Minimal generation metadata observed before selection. -/
structure MinimalMetadata where
  logId : LogId
  generation : Generation
deriving DecidableEq

/-- Full generation metadata observed before selection. -/
structure FullMetadata where
  minimal : MinimalMetadata
  formatVersion : U16
  retainedFirst : Option WalPosition
  logicalHighWater : Option WalPosition
  epochHighWater : Option U64
  requiredAnchor : CheckpointAnchor

/-- Persisted transaction observations from checkpoint and WAL restoration. -/
structure RestorationSummary where
  freshEpoch : U64
  activeTransactions : TransactionPositions

/-- Validity of a selected persistent entry on fresh open. -/
inductive SelectedEntryState
  | valid
  | partialWrite
  | corrupt
deriving DecidableEq

inductive ModelError
  | invalidPhase (current : RecoveryPhase) (operation : String)
  | positionExhausted
  | generationExhausted
  | epochExhausted
  | sequenceExhausted
  | lineageExhausted
  | transactionNotFound (id : TransactionId)
  | transactionAlreadyCommitted (id : TransactionId)
  | duplicateTransactionId (id : TransactionId)
  | noActiveEpoch
  | checkpointAnchorMismatch (expected : CheckpointAnchor)
      (actual : Option CheckpointAnchor)
  | noCheckpointForNonzeroGeneration (generation : Generation)
  | missingGenerationAnchor (generation : Generation)
  | replacementComplete
  | noPendingCandidate
  | invalidSelectedOnOpen (reason : String)
  | noCheckpointForReclamation
  | noCompletionEvidence
  | noRetentionAnalysis
  | staleCompletionEvidence (reason : String)
  | repairFault
  | foreignLogId (expected actual : LogId) (context : String)
  | volatileSuffixPresent
  | pageNotDurable (page : PageId)
  | pageUncommitted (page : PageId) (txn : TransactionId)
  | invalidRecordShape (reason : String)
  | durableRecordMissing (position : WalPosition)
  | retentionBoundaryMissing (position : WalPosition)
  | pageCheckpointContradiction (page : PageId)
  | pageStoreRegression (page : PageId) (current attempted : WalPosition)
  | repairCountExhausted
  | inodeAliasCandidate (context : String)
  | metadataMismatch (field : String)
  | foreignSourceMetadata
  | invalidTransactionIndex (index : Nat)
  | invalidPageId
  | pageVersionExhausted
  | boundsExceeded (field : String) (value max : U64)
  | skeletonRequiresMoreCapacity (field : String) (required allowed : U64)

/-- WAL format before the first generation replacement. -/
def completePrefixFormatVersion : U16 := 3

/-- Generation-aware WAL format installed by reclamation. -/
def generationFormatVersion : U16 := 4

end Ntsql.Recovery
