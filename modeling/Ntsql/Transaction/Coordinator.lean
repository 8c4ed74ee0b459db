import Ntsql.Transaction.Durability

/-! # The transaction coordinator

`begin`, `commit`, `resolve`, `stage_page_write`, `flush_staged_committed_page`
and the free `flush_committed_page`. The ports are called only after every
check of the coordinator passed. -/

namespace Ntsql.Transaction

namespace TransactionCoordinator

def fromAllocatedEpoch (identity : CoordinatorIdentity) (epoch : NonZeroU64)
    (logLineage : LogLineage) : TransactionCoordinator :=
  { epoch, identity, logLineage, nextTransactionId := some NonZeroU64.min,
    lifecycles := ∅, stagedPages := ∅ }

/-- Whether the coordinator issued the active token. -/
def Owns (coordinator : TransactionCoordinator)
    (transaction : ActiveTransaction) : Prop :=
  coordinator.identity = transaction.coordinatorIdentity

instance (coordinator : TransactionCoordinator) (transaction : ActiveTransaction) :
    Decidable (coordinator.Owns transaction) :=
  inferInstanceAs (Decidable (_ = _))

def OwnsIndeterminate (coordinator : TransactionCoordinator)
    (transaction : IndeterminateTransaction) : Prop :=
  coordinator.identity = transaction.coordinatorIdentity

instance (coordinator : TransactionCoordinator) (transaction : IndeterminateTransaction) :
    Decidable (coordinator.OwnsIndeterminate transaction) :=
  inferInstanceAs (Decidable (_ = _))

def status (coordinator : TransactionCoordinator) (id : TransactionId) :
    Option TransactionLifecycleStatus :=
  coordinator.lifecycles[id]?

def setStatus (coordinator : TransactionCoordinator) (id : TransactionId)
    (status : TransactionLifecycleStatus) : TransactionCoordinator :=
  { coordinator with lifecycles := coordinator.lifecycles.insert id status }

def insertStaged (coordinator : TransactionCoordinator) (id : TransactionId)
    (number : PageNumber) : TransactionCoordinator :=
  { coordinator with stagedPages := insert (id, number) coordinator.stagedPages }

def removeStaged (coordinator : TransactionCoordinator) (id : TransactionId)
    (number : PageNumber) : TransactionCoordinator :=
  { coordinator with stagedPages := coordinator.stagedPages.erase (id, number) }

theorem status_setStatus (coordinator : TransactionCoordinator) (id other : TransactionId)
    (status : TransactionLifecycleStatus) :
    (coordinator.setStatus id status).status other =
      if id = other then some status else coordinator.status other := by
  simp only [TransactionCoordinator.status, setStatus, Std.ExtTreeMap.getElem?_insert,
    compare_eq_iff_eq]

@[simp] theorem status_insertStaged (coordinator : TransactionCoordinator)
    (id : TransactionId) (number : PageNumber) :
      (coordinator.insertStaged id number).status = coordinator.status := rfl

@[simp] theorem status_removeStaged (coordinator : TransactionCoordinator)
    (id : TransactionId) (number : PageNumber) :
      (coordinator.removeStaged id number).status = coordinator.status := rfl

@[simp] theorem stagedPages_setStatus (coordinator : TransactionCoordinator)
    (id : TransactionId) (status : TransactionLifecycleStatus) :
    (coordinator.setStatus id status).stagedPages = coordinator.stagedPages := rfl

theorem removeStaged_insertStaged {coordinator : TransactionCoordinator}
    {id : TransactionId} {number : PageNumber}
    (fresh : (id, number) ∉ coordinator.stagedPages) :
    (coordinator.insertStaged id number).removeStaged id number = coordinator := by
  simp [insertStaged, removeStaged, Finset.erase_insert fresh]

end TransactionCoordinator

section Operations

variable {width : Nat} {World LogError StoreError SourceError ε : Type}

/-- A write of the registry, recorded in the history. -/
def Runtime.moved (runtime : Runtime width World) (id : TransactionId)
    (status : TransactionLifecycleStatus) : Runtime width World :=
  { runtime with
    coordinator := runtime.coordinator.setStatus id status
    history := .moved id status :: runtime.history }

def Runtime.withCoordinator (runtime : Runtime width World)
    (update : TransactionCoordinator → TransactionCoordinator) : Runtime width World :=
  { runtime with coordinator := update runtime.coordinator }

def moveTo (id : TransactionId) (status : TransactionLifecycleStatus) :
    EStateM ε (Runtime width World) Unit :=
  modify fun runtime => runtime.moved id status

def updateCoordinator (update : TransactionCoordinator → TransactionCoordinator) :
    EStateM ε (Runtime width World) Unit :=
  modify fun runtime => runtime.withCoordinator update

def begin : EStateM TransactionIssueError (Runtime width World) ActiveTransaction := do
  let coordinator := (← get).coordinator
  let next ← check (okOr coordinator.nextTransactionId .identitySpaceExhausted)
  let id : TransactionId := ⟨coordinator.epoch, next⟩
  check (rejectIf (coordinator.status id ≠ none) (.identityAlreadyIssued id))
  moveTo id .active
  updateCoordinator fun coordinator =>
    { coordinator with nextTransactionId := NonZeroU64.checkedNext next.get }
  pure ⟨id, coordinator.identity⟩

variable (ports : Ports width World LogError StoreError SourceError)

/-- Start one commit attempt for an active token of this coordinator. -/
def commit (transaction : ActiveTransaction) :
    EStateM (CoordinatedCommitError LogError) (Runtime width World)
      CommittedTransaction := do
  let coordinator := (← get).coordinator
  let id := transaction.transactionId
  check (rejectIf (¬coordinator.Owns transaction)
    (.rejected transaction .foreignCoordinator))
  requireLogLineage ports coordinator.logLineage
    (.rejected transaction .foreignLogLineage)
  check (rejectIf (coordinator.status id ≠ some .active)
    (.rejected transaction (.lifecycleMismatch (coordinator.status id))))
  moveTo id .commitAttempted
  match ← attempt (commitDurability ports ⟨id⟩) with
  | .ok position =>
      moveTo id .committed
      pure ⟨id, position⟩
  | .error source =>
      moveTo id .indeterminate
      throw (.indeterminate
        ⟨⟨id, transaction.coordinatorIdentity, coordinator.logLineage⟩, source⟩)

/-- Resolve one indeterminate token from durable-log evidence. -/
def resolve (transaction : IndeterminateTransaction) :
    EStateM (TransactionResolutionError SourceError) (Runtime width World)
      TransactionCommitResolution := do
  let coordinator := (← get).coordinator
  let id := transaction.transactionId
  check (rejectIf (¬coordinator.OwnsIndeterminate transaction)
    ⟨transaction, .foreignCoordinator⟩)
  check (rejectIf (coordinator.status id ≠ some .indeterminate)
    ⟨transaction, .lifecycleMismatch (coordinator.status id)⟩)
  match ← lookupDurableCommit ports id with
  | .error source => throw ⟨transaction, .source source⟩
  | .ok (lineage, lookup) =>
      check (rejectIf (transaction.logLineage ≠ lineage)
        ⟨transaction, .foreignLogLineage⟩)
      match lookup with
      | .found position =>
          check (rejectIf (lineage ≠ position.lineage) ⟨transaction, .foreignLogLineage⟩)
          -- `lifecycles.get_mut`: the entry was seen above and nothing removed it
          let current := (← get).coordinator
          check (rejectIf (current.status id = none)
            ⟨transaction, .lifecycleMismatch none⟩)
          moveTo id .committed
          pure (.committed ⟨id, position⟩)
      | .absent =>
          let current := (← get).coordinator
          check (rejectIf (current.status id = none)
            ⟨transaction, .lifecycleMismatch none⟩)
          moveTo id .noDurableCommitRecord
          pure (.noDurableCommitRecord ⟨id⟩)

/-- The entry is written only where it is present. -/
def markPageAppendIndeterminate (id : TransactionId) :
    EStateM ε (Runtime width World) Unit := do
  let coordinator := (← get).coordinator
  if coordinator.status id ≠ none then moveTo id .pageAppendIndeterminate else pure ()

def stageTransactionPageWrite (transaction : ActiveTransaction)
    (page : UnloggedPage width) :
    EStateM (TransactionPageStageError LogError width) (Runtime width World)
      (ActiveTransaction × TransactionDirtyPage width) := do
  let coordinator := (← get).coordinator
  let id := transaction.transactionId
  let number := page.address.number
  check (rejectIf (¬coordinator.Owns transaction)
    (.rejected transaction page .foreignCoordinator))
  requireLogLineage ports coordinator.logLineage
    (.rejected transaction page .foreignLogLineage)
  requireLogLineage ports page.address.lineage
    (.rejected transaction page .foreignPageLineage)
  check (rejectIf (coordinator.status id ≠ some .active)
    (.rejected transaction page (.lifecycleMismatch (coordinator.status id))))
  check (rejectIf ((id, number) ∈ coordinator.stagedPages)
    (.rejected transaction page .pageAlreadyStaged))
  updateCoordinator (·.insertStaged id number)
  match ← attempt (stagePageWrite ports (some id) page) with
  | .ok dirty => pure (transaction, ⟨id, dirty⟩)
  | .error (.rejected page) =>
      updateCoordinator (·.removeStaged id number)
      throw (.rejected transaction page .internalPageLogRejection)
  | .error (.append page source) =>
      markPageAppendIndeterminate id
      throw (.append id page source)
  | .error (.invalidEvidence page reason) =>
      markPageAppendIndeterminate id
      throw (.invalidEvidence id page reason)

/-- Flush a transaction-owned dirty page once its owner is durably committed. -/
def flushCommittedPage (committed : CommittedTransaction)
    (page : TransactionDirtyPage width) :
    EStateM (TransactionCommittedFlushError LogError StoreError width)
      (Runtime width World) (TransactionCleanPage width) := do
  let required := page.dirty.requiredPosition
  check (rejectIf (committed.transactionId ≠ page.transactionId)
    (.rejected page .wrongTransaction))
  check (rejectIf (committed.logPosition.lineage ≠ required.lineage)
    (.rejected page .foreignCommitLineage))
  check (rejectIf (committed.logPosition.get ≤ required.get)
    (.rejected page .commitPositionNotAfterPage))
  match ← attempt (flushDirtyPage ports (some page.transactionId) page.dirty) with
  | .ok clean => pure ⟨page.transactionId, clean⟩
  | .error (.rejected dirty _) =>
      throw (.rejected ⟨page.transactionId, dirty⟩ .internalFlushRejection)
  | .error (.logFlush dirty source) =>
      throw (.logFlush ⟨page.transactionId, dirty⟩ source)
  | .error (.storeWrite lost source) => throw (.storeWrite page.transactionId lost source)

/-- Flush one staged committed page and discharge its close obligation. -/
def flushStagedCommittedPage (committed : CommittedTransaction)
    (page : TransactionDirtyPage width) :
    EStateM (CoordinatedTransactionCommittedFlushError LogError StoreError width)
      (Runtime width World) (TransactionCleanPage width) := do
  let coordinator := (← get).coordinator
  let id := page.transactionId
  let number := page.dirty.address.number
  check (rejectIf (committed.transactionId ≠ id) (.rejected page .wrongTransaction))
  check (rejectIf (coordinator.logLineage ≠ page.dirty.requiredPosition.lineage ∨
    coordinator.logLineage ≠ committed.logPosition.lineage)
    (.rejected page .foreignCoordinatorLineage))
  check (rejectIf (coordinator.status id ≠ some .committed)
    (.rejected page (.lifecycleMismatch (coordinator.status id))))
  check (rejectIf ((id, number) ∉ coordinator.stagedPages)
    (.rejected page .pageNotStaged))
  match ← attempt (flushCommittedPage ports committed page) with
  | .ok clean =>
      updateCoordinator (·.removeStaged id number)
      pure clean
  | .error source => throw (.flush source)

end Operations

end Ntsql.Transaction
