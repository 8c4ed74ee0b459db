import Ntsql.Domain.Identity

/-! # The transaction coordinator's data

Tokens are the values the coordinator hands out. A failed operation returns in
its error the tokens and pages it was given. -/

namespace Ntsql.Transaction

/-- Identity of a coordinator object, compared by pointer in the source. -/
abbrev CoordinatorIdentity := Nat

inductive TransactionLifecycleStatus where
  | active
  | commitAttempted
  | committed
  | indeterminate
  | pageAppendIndeterminate
  | noDurableCommitRecord
deriving DecidableEq

/-- Coordinator-owned issuance and commit-attempt registry. -/
structure TransactionCoordinator where
  epoch : NonZeroU64
  identity : CoordinatorIdentity
  logLineage : LogLineage
  nextTransactionId : Option NonZeroU64
  lifecycles : Std.ExtTreeMap TransactionId TransactionLifecycleStatus
  stagedPages : Finset (TransactionId × PageNumber)

/-! ## Tokens -/

structure ActiveTransaction where
  transactionId : TransactionId
  coordinatorIdentity : CoordinatorIdentity
deriving DecidableEq

structure IndeterminateTransaction where
  transactionId : TransactionId
  coordinatorIdentity : CoordinatorIdentity
  logLineage : LogLineage
deriving DecidableEq

structure CommittedTransaction where
  transactionId : TransactionId
  logPosition : LogSequenceNumber
deriving DecidableEq

structure NoDurableCommitRecord where
  transactionId : TransactionId
deriving DecidableEq

structure TransactionDirtyPage (width : Nat) where
  transactionId : TransactionId
  dirty : DirtyPage width
deriving DecidableEq

/-- A page whose required position and page write both reported success. -/
structure CleanPage (width : Nat) where
  address : PageAddress
  version : PageVersion
  image : Bytes width
  requiredPosition : LogSequenceNumber
deriving DecidableEq

structure TransactionCleanPage (width : Nat) where
  transactionId : TransactionId
  clean : CleanPage width
deriving DecidableEq

inductive DurableCommitLookup where
  | found (position : LogSequenceNumber)
  | absent
deriving DecidableEq

inductive TransactionCommitResolution where
  | committed (transaction : CommittedTransaction)
  | noDurableCommitRecord (record : NoDurableCommitRecord)
deriving DecidableEq

structure TransactionCommitRecord where
  transactionId : TransactionId
deriving DecidableEq

/-! ## Errors of the durability protocols -/

inductive CommitError (LogError : Type) where
  | append (source : LogError)
  | foreignAppendPosition (position : LogSequenceNumber)
  | flush (position : LogSequenceNumber) (source : LogError)

structure IndeterminatePageLogAppend (width : Nat) where
  address : PageAddress
  version : PageVersion
  image : Bytes width
  observedPosition : Option LogSequenceNumber

inductive StagePageWriteEvidenceErrorReason where
  | foreignPosition
  | logLineageChanged
deriving DecidableEq

inductive StagePageWriteError (LogError : Type) (width : Nat) where
  | rejected (page : UnloggedPage width)
  | append (page : IndeterminatePageLogAppend width) (source : LogError)
  | invalidEvidence (page : IndeterminatePageLogAppend width)
      (reason : StagePageWriteEvidenceErrorReason)

inductive FlushDirtyPageRejectionReason where
  | foreignLog
  | foreignStore
deriving DecidableEq

/-- A page whose store write did not report success. -/
structure IndeterminatePageWrite (width : Nat) where
  address : PageAddress
  version : PageVersion
  image : Bytes width
  requiredPosition : LogSequenceNumber

inductive FlushDirtyPageError (LogError StoreError : Type) (width : Nat) where
  | rejected (page : DirtyPage width) (reason : FlushDirtyPageRejectionReason)
  | logFlush (page : DirtyPage width) (source : LogError)
  | storeWrite (page : IndeterminatePageWrite width) (source : StoreError)

/-! ## Errors of the coordinator -/

inductive TransactionIssueError where
  | identitySpaceExhausted
  | identityAlreadyIssued (id : TransactionId)
deriving DecidableEq

inductive TransactionCommitRejectionReason where
  | foreignCoordinator
  | foreignLogLineage
  | lifecycleMismatch (actual : Option TransactionLifecycleStatus)
deriving DecidableEq

structure TransactionCommitError (LogError : Type) where
  transaction : IndeterminateTransaction
  source : CommitError LogError

inductive CoordinatedCommitError (LogError : Type) where
  | rejected (transaction : ActiveTransaction) (reason : TransactionCommitRejectionReason)
  | indeterminate (error : TransactionCommitError LogError)

inductive TransactionResolutionFailure (SourceError : Type) where
  | foreignCoordinator
  | foreignLogLineage
  | lifecycleMismatch (actual : Option TransactionLifecycleStatus)
  | source (error : SourceError)

structure TransactionResolutionError (SourceError : Type) where
  transaction : IndeterminateTransaction
  failure : TransactionResolutionFailure SourceError

inductive TransactionPageStageRejectionReason where
  | foreignCoordinator
  | foreignLogLineage
  | foreignPageLineage
  | lifecycleMismatch (actual : Option TransactionLifecycleStatus)
  | pageAlreadyStaged
  | internalPageLogRejection
deriving DecidableEq

inductive TransactionPageStageError (LogError : Type) (width : Nat) where
  | rejected (transaction : ActiveTransaction) (page : UnloggedPage width)
      (reason : TransactionPageStageRejectionReason)
  | append (transaction : TransactionId) (page : IndeterminatePageLogAppend width)
      (source : LogError)
  | invalidEvidence (transaction : TransactionId)
      (page : IndeterminatePageLogAppend width)
      (reason : StagePageWriteEvidenceErrorReason)

inductive TransactionCommittedFlushRejectionReason where
  | wrongTransaction
  | foreignCommitLineage
  | commitPositionNotAfterPage
  | internalFlushRejection
deriving DecidableEq

inductive TransactionCommittedFlushError (LogError StoreError : Type) (width : Nat) where
  | rejected (page : TransactionDirtyPage width)
      (reason : TransactionCommittedFlushRejectionReason)
  | logFlush (page : TransactionDirtyPage width) (source : LogError)
  | storeWrite (transaction : TransactionId) (page : IndeterminatePageWrite width)
      (source : StoreError)

inductive CoordinatedTransactionCommittedFlushRejectionReason where
  | wrongTransaction
  | foreignCoordinatorLineage
  | lifecycleMismatch (actual : Option TransactionLifecycleStatus)
  | pageNotStaged
deriving DecidableEq

inductive CoordinatedTransactionCommittedFlushError (LogError StoreError : Type)
    (width : Nat) where
  | rejected (page : TransactionDirtyPage width)
      (reason : CoordinatedTransactionCommittedFlushRejectionReason)
  | flush (source : TransactionCommittedFlushError LogError StoreError width)

/-! ## Ports -/

/-- Proof that a position was already durable for the current write. -/
structure PageWritePermit where
  durablePosition : LogSequenceNumber
deriving DecidableEq

/-- The log, store and recovery-source ports. A port may answer anything, also
what it did not answer before: each call moves the world behind it. -/
structure Ports (width : Nat) (World LogError StoreError SourceError : Type) where
  logLineage : World → LogLineage × World
  flushThrough : LogSequenceNumber → World → Except LogError Unit × World
  appendCommit :
    TransactionCommitRecord → World → Except LogError LogSequenceNumber × World
  /-- `append_page` for no owner, `append_transaction_page` for an owner. -/
  appendPage : Option TransactionId → UnloggedPage width → World →
    Except LogError LogSequenceNumber × World
  lookupDurableCommit : TransactionId → World →
    Except SourceError (LogLineage × DurableCommitLookup) × World
  storeLineage : World → LogLineage × World
  writePage : DirtyPage width → PageWritePermit → World → Except StoreError Unit × World

/-- What a history records: the calls of the ports with what they answered, the
writes of the registry, and the flushes of staged pages that succeeded. -/
inductive Event (width : Nat) where
  | appendedCommit (id : TransactionId) (answer : Option LogSequenceNumber)
  | flushedThrough (position : LogSequenceNumber) (succeeded : Bool)
  | appendedPage (owner : Option TransactionId) (page : UnloggedPage width)
      (answer : Option LogSequenceNumber)
  | lookedUpCommit (id : TransactionId)
      (answer : Option (LogLineage × DurableCommitLookup))
  | wrotePage (owner : Option TransactionId) (dirty : DirtyPage width)
      (permit : PageWritePermit) (succeeded : Bool)
  | moved (id : TransactionId) (status : TransactionLifecycleStatus)
  | dischargedPage (id : TransactionId) (number : PageNumber)
deriving DecidableEq

/-- The coordinator, the world behind its ports, and what happened so far. -/
structure Runtime (width : Nat) (World : Type) where
  coordinator : TransactionCoordinator
  world : World
  history : List (Event width)

end Ntsql.Transaction
