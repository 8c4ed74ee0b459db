import Ntsql.Transaction.Coordinator

/-! # What each coordinator operation does

One case for each way an operation can end: which ports answered, what moved in
the registry, and what the caller gets back. -/

namespace Ntsql.Transaction

section Effects

variable {width : Nat} {World LogError StoreError SourceError : Type}

inductive BeginEffect (runtime : Runtime width World) :
    EStateM.Result TransactionIssueError (Runtime width World) ActiveTransaction →
      Prop where
  | refused (error : TransactionIssueError) : BeginEffect runtime (.error error runtime)
  | issued (id : TransactionId) (fresh : runtime.coordinator.status id = none)
      (next : Option NonZeroU64) :
      BeginEffect runtime (.ok ⟨id, runtime.coordinator.identity⟩
        ((runtime.moved id .active).withCoordinator fun coordinator =>
          { coordinator with nextTransactionId := next }))

inductive CommitEffect (runtime : Runtime width World) (transaction : ActiveTransaction) :
    EStateM.Result (CoordinatedCommitError LogError) (Runtime width World)
      CommittedTransaction →
      Prop where
  | rejected (reason : TransactionCommitRejectionReason) (world : World) :
      CommitEffect runtime transaction
        (.error (.rejected transaction reason) (runtime.answered world []))
  | indeterminate
      (active : runtime.coordinator.status transaction.transactionId = some .active)
      (lineage : LogLineage) (source : CommitError LogError) (world : World)
      (events : List (Event width)) (neutral : ∀ event ∈ events, event.Neutral) :
      CommitEffect runtime transaction
        (.error (.indeterminate
            ⟨⟨transaction.transactionId, transaction.coordinatorIdentity, lineage⟩,
              source⟩)
          (((runtime.moved transaction.transactionId .commitAttempted).answered world
            events).moved transaction.transactionId .indeterminate))
  | committed
      (active : runtime.coordinator.status transaction.transactionId = some .active)
      (position : LogSequenceNumber) (world : World) :
      CommitEffect runtime transaction
        (.ok ⟨transaction.transactionId, position⟩
          (((runtime.moved transaction.transactionId .commitAttempted).answered world
            [.flushedThrough position true,
              .appendedCommit transaction.transactionId (some position)]).moved
            transaction.transactionId .committed))

/-- The failures of a resolution that come before the source is asked. -/
def TransactionResolutionFailure.IsRejection :
    TransactionResolutionFailure SourceError → Prop
  | .foreignCoordinator => True
  | .lifecycleMismatch _ => True
  | _ => False

inductive ResolveEffect (runtime : Runtime width World)
    (transaction : IndeterminateTransaction) :
    EStateM.Result (TransactionResolutionError SourceError) (Runtime width World)
      TransactionCommitResolution → Prop where
  | rejected (failure : TransactionResolutionFailure SourceError) :
      ResolveEffect runtime transaction (.error ⟨transaction, failure⟩ runtime)
  | unresolved (failure : TransactionResolutionFailure SourceError)
      (asked : ¬failure.IsRejection) (answer : Option (LogLineage × DurableCommitLookup))
      (world : World) :
      ResolveEffect runtime transaction (.error ⟨transaction, failure⟩
        (runtime.answered world [.lookedUpCommit transaction.transactionId answer]))
  | found
      (indeterminate :
        runtime.coordinator.status transaction.transactionId = some .indeterminate)
      (position : LogSequenceNumber) (world : World) :
      ResolveEffect runtime transaction
        (.ok (.committed ⟨transaction.transactionId, position⟩)
          ((runtime.answered world [.lookedUpCommit transaction.transactionId
            (some (position.lineage, .found position))]).moved
            transaction.transactionId .committed))
  | absent
      (indeterminate :
        runtime.coordinator.status transaction.transactionId = some .indeterminate)
      (lineage : LogLineage) (world : World) :
      ResolveEffect runtime transaction
        (.ok (.noDurableCommitRecord ⟨transaction.transactionId⟩)
          ((runtime.answered world [.lookedUpCommit transaction.transactionId
            (some (lineage, .absent))]).moved
            transaction.transactionId .noDurableCommitRecord))

/-- The runtime once the append port was asked for an owned page. -/
def Runtime.appended (runtime : Runtime width World) (id : TransactionId)
    (page : UnloggedPage width) (answer : Option LogSequenceNumber) (world : World) :
    Runtime width World :=
  (runtime.withCoordinator (·.insertStaged id page.address.number)).answered world
    [.appendedPage (some id) page answer]

/-- The errors of a stage that come before the append port is asked. -/
def TransactionPageStageError.IsRejection :
    TransactionPageStageError LogError width → Prop
  | .rejected _ _ _ => True
  | _ => False

inductive StageEffect (runtime : Runtime width World) (transaction : ActiveTransaction)
    (page : UnloggedPage width) :
    EStateM.Result (TransactionPageStageError LogError width) (Runtime width World)
      (ActiveTransaction × TransactionDirtyPage width) → Prop where
  | rejected (reason : TransactionPageStageRejectionReason) (world : World) :
      StageEffect runtime transaction page
        (.error (.rejected transaction page reason) (runtime.answered world []))
  | lost (active : runtime.coordinator.status transaction.transactionId = some .active)
      (error : TransactionPageStageError LogError width) (asked : ¬error.IsRejection)
      (answer : Option LogSequenceNumber) (world : World) :
      StageEffect runtime transaction page
        (.error error
          ((runtime.appended transaction.transactionId page answer world).moved
          transaction.transactionId .pageAppendIndeterminate))
  | staged (active : runtime.coordinator.status transaction.transactionId = some .active)
      (position : LogSequenceNumber) (same : page.address.lineage = position.lineage)
      (world : World) :
      StageEffect runtime transaction page
        (.ok (transaction, ⟨transaction.transactionId,
            ⟨page.address, page.version, page.image, position, same⟩⟩)
          (runtime.appended transaction.transactionId page (some position) world))

/-- The commit proves the page's owner durable after the page, in its lineage. -/
structure Clears (committed : CommittedTransaction) (page : TransactionDirtyPage width) :
    Prop where
  owner : committed.transactionId = page.transactionId
  lineage : committed.logPosition.lineage = page.dirty.requiredPosition.lineage
  after : page.dirty.requiredPosition.get < committed.logPosition.get

/-- The runtime once the store was asked to write an owned page. -/
def Runtime.wrote (runtime : Runtime width World) (page : TransactionDirtyPage width)
    (succeeded : Bool) (world : World) : Runtime width World :=
  runtime.answered world
    [.wrotePage
      (some page.transactionId) page.dirty ⟨page.dirty.requiredPosition⟩ succeeded,
      .flushedThrough page.dirty.requiredPosition true]

inductive FlushEffect (runtime : Runtime width World) (committed : CommittedTransaction)
    (page : TransactionDirtyPage width) :
    EStateM.Result (TransactionCommittedFlushError LogError StoreError width)
      (Runtime width World) (TransactionCleanPage width) → Prop where
  | rejected (reason : TransactionCommittedFlushRejectionReason) (world : World) :
      FlushEffect runtime committed page
        (.error (.rejected page reason) (runtime.answered world []))
  | kept (source : LogError) (world : World) :
      FlushEffect runtime committed page (.error (.logFlush page source)
        (runtime.answered world [.flushedThrough page.dirty.requiredPosition false]))
  | lost (clears : Clears committed page) (source : StoreError) (world : World) :
      FlushEffect runtime committed page
        (.error (.storeWrite page.transactionId (.fromDirty page.dirty) source)
          (runtime.wrote page false world))
  | clean (clears : Clears committed page) (world : World) :
      FlushEffect runtime committed page
        (.ok ⟨page.transactionId, .fromDirty page.dirty⟩ (runtime.wrote page true world))

inductive FlushStagedEffect (runtime : Runtime width World)
    (committed : CommittedTransaction) (page : TransactionDirtyPage width) :
    EStateM.Result (CoordinatedTransactionCommittedFlushError LogError StoreError width)
      (Runtime width World) (TransactionCleanPage width) → Prop where
  | rejected (reason : CoordinatedTransactionCommittedFlushRejectionReason) :
      FlushStagedEffect runtime committed page (.error (.rejected page reason) runtime)
  | failed (source : TransactionCommittedFlushError LogError StoreError width)
      (final : Runtime width World)
      (flushed : FlushEffect runtime committed page (.error source final)) :
      FlushStagedEffect runtime committed page (.error (.flush source) final)
  | clean (clean : TransactionCleanPage width) (final : Runtime width World)
      (flushed : FlushEffect runtime committed page
        (.ok clean final : EStateM.Result
          (TransactionCommittedFlushError LogError StoreError width) _ _)) :
      FlushStagedEffect runtime committed page (.ok clean (final.withCoordinator
        (·.removeStaged page.transactionId page.dirty.address.number)))

end Effects

/-! ## Each operation has its effect -/

section Operations

variable {width : Nat} {World LogError StoreError SourceError : Type}

theorem moveTo_bind {ε β : Type} (runtime : Runtime width World) (id : TransactionId)
    (status : TransactionLifecycleStatus)
    (next : Unit → EStateM ε (Runtime width World) β) :
    (moveTo id status >>= next) runtime = next () (runtime.moved id status) := rfl

theorem updateCoordinator_bind {ε β : Type} (runtime : Runtime width World)
    (update : TransactionCoordinator → TransactionCoordinator)
    (next : Unit → EStateM ε (Runtime width World) β) :
    (updateCoordinator update >>= next) runtime = next ()
      (runtime.withCoordinator update) := rfl

theorem begin_effect (runtime : Runtime width World) :
    BeginEffect runtime (begin runtime) := by
  rw [begin, Operation.get_bind]
  cases runtime.coordinator.nextTransactionId with
  | none => exact .refused _
  | some next =>
      rw [okOr, Operation.check_bind_of_ok rfl, Operation.check_rejectIf_bind]
      split
      · exact .refused _
      · rename_i fresh
        exact .issued _ (not_not.mp fresh) _

variable (ports : Ports width World LogError StoreError SourceError)

theorem commit_effect (transaction : ActiveTransaction) (runtime : Runtime width World) :
    CommitEffect runtime transaction (commit ports transaction runtime) := by
  rw [commit, Operation.get_bind, Operation.check_rejectIf_bind]
  split
  · exact .rejected _ runtime.world
  simp only [requireLogLineage_bind, Operation.check_rejectIf_bind]
  split
  · exact .rejected _ _
  split
  · exact .rejected _ _
  rename_i active
  have active := not_not.mp active
  rw [moveTo_bind, Operation.bind_apply, Operation.attempt_apply]
  have effect := commitDurability_effect ports ⟨transaction.transactionId⟩
    ((runtime.answered (ports.logLineage runtime.world).2 []).moved
      transaction.transactionId .commitAttempted)
  generalize commitDurability ports _ _ = result at effect ⊢
  cases effect with
  | failed error world events neutral =>
      exact .indeterminate active _ error world events neutral
  | durable position world => exact .committed active position world

theorem resolve_effect (transaction : IndeterminateTransaction)
    (runtime : Runtime width World) :
    ResolveEffect runtime transaction (resolve ports transaction runtime) := by
  rw [resolve, Operation.get_bind, Operation.check_rejectIf_bind]
  split
  · exact .rejected _
  rw [Operation.check_rejectIf_bind]
  split
  · exact .rejected _
  rename_i indeterminate
  have indeterminate := not_not.mp indeterminate
  rw [lookupDurableCommit, callPort_bind]
  generalize ports.lookupDurableCommit transaction.transactionId runtime.world = reply
  rcases reply with ⟨source | ⟨lineage, lookup⟩, world⟩
  · exact .unresolved (.source source) id _ world
  simp only [Operation.check_rejectIf_bind]
  split
  · exact .unresolved .foreignLogLineage id _ world
  cases lookup with
  | found position =>
      simp only [Operation.check_rejectIf_bind]
      split
      · exact .unresolved .foreignLogLineage id _ world
      rename_i own
      rw [Operation.get_bind, Operation.check_rejectIf_bind]
      simp only [Runtime.answered_coordinator, indeterminate, reduceCtorEq, ↓reduceIte]
      rw [not_not.mp own]
      exact .found indeterminate position world
  | absent =>
      dsimp only
      rw [Operation.get_bind, Operation.check_rejectIf_bind]
      simp only [Runtime.answered_coordinator, indeterminate, reduceCtorEq, ↓reduceIte]
      exact .absent indeterminate lineage world

theorem markPageAppendIndeterminate_bind {ε β : Type} {runtime : Runtime width World}
    {id : TransactionId} (active : runtime.coordinator.status id = some .active)
    (next : Unit → EStateM ε (Runtime width World) β) :
    (markPageAppendIndeterminate id >>= next) runtime =
      next () (runtime.moved id .pageAppendIndeterminate) := by
  simp only [markPageAppendIndeterminate, bind_assoc, Operation.get_bind, ne_eq, active,
    reduceCtorEq, not_false_eq_true, ↓reduceIte, moveTo_bind]

theorem Runtime.unstaged {runtime : Runtime width World} {id : TransactionId}
    {number : PageNumber} (fresh : (id, number) ∉ runtime.coordinator.stagedPages)
    (first second : World) :
    (((runtime.answered first []).withCoordinator (·.insertStaged id number)).answered
      second
        []).withCoordinator (·.removeStaged id number) = runtime.answered second [] := by
  simp only [Runtime.withCoordinator, Runtime.answered, List.nil_append,
    TransactionCoordinator.removeStaged_insertStaged fresh]

theorem stageTransactionPageWrite_effect (transaction : ActiveTransaction)
    (page : UnloggedPage width) (runtime : Runtime width World) :
    StageEffect runtime transaction page
      (stageTransactionPageWrite ports transaction page runtime) := by
  rw [stageTransactionPageWrite, Operation.get_bind, Operation.check_rejectIf_bind]
  split
  · exact .rejected _ runtime.world
  simp only [requireLogLineage_bind, Operation.check_rejectIf_bind,
    Runtime.answered_answered]
  split
  · exact .rejected _ _
  split
  · exact .rejected _ _
  split
  · exact .rejected _ _
  split
  · exact .rejected _ _
  rename_i active fresh
  have active := not_not.mp active
  rw [updateCoordinator_bind, Operation.bind_apply, Operation.attempt_apply]
  generalize staging : Runtime.withCoordinator _ _ = started
  have effect := stagePageWrite_effect ports (some transaction.transactionId) page started
  generalize stagePageWrite ports _ _ _ = result at effect ⊢
  subst staging
  cases effect with
  | rejected world =>
      dsimp only
      rw [updateCoordinator_bind, List.nil_append, Runtime.unstaged fresh]
      exact .rejected _ world
  | appendFailed lost source world =>
      dsimp only
      rw [markPageAppendIndeterminate_bind]
      · exact .lost active (.append _ lost source) id none world
      · exact active
  | unproved lost reason position world =>
      dsimp only
      rw [markPageAppendIndeterminate_bind]
      · exact .lost active (.invalidEvidence _ lost reason) id (some position) world
      · exact active
  | staged position same world => exact .staged active position same world

theorem flushCommittedPage_effect (committed : CommittedTransaction)
    (page : TransactionDirtyPage width) (runtime : Runtime width World) :
    FlushEffect runtime committed page
      (flushCommittedPage ports committed page runtime) := by
  rw [flushCommittedPage]
  simp only [Operation.check_rejectIf_bind]
  split
  · exact .rejected _ runtime.world
  split
  · exact .rejected _ runtime.world
  split
  · exact .rejected _ runtime.world
  rename_i owner lineage after
  have clears : Clears committed page :=
    ⟨not_not.mp owner, not_not.mp lineage, not_le.mp after⟩
  rw [Operation.bind_apply, Operation.attempt_apply]
  have effect := flushDirtyPage_effect ports (some page.transactionId) page.dirty runtime
  generalize flushDirtyPage ports _ _ _ = result at effect ⊢
  cases effect with
  | rejected reason world => exact .rejected _ world
  | logFailed source world => exact .kept source world
  | storeFailed source world => exact .lost clears source world
  | clean world => exact .clean clears world

theorem flushStagedCommittedPage_effect (committed : CommittedTransaction)
    (page : TransactionDirtyPage width) (runtime : Runtime width World) :
    FlushStagedEffect runtime committed page
      (flushStagedCommittedPage ports committed page runtime) := by
  rw [flushStagedCommittedPage, Operation.get_bind]
  simp only [Operation.check_rejectIf_bind]
  split
  · exact .rejected _
  split
  · exact .rejected _
  split
  · exact .rejected _
  split
  · exact .rejected _
  rw [Operation.bind_apply, Operation.attempt_apply]
  have effect := flushCommittedPage_effect ports committed page runtime
  generalize flushCommittedPage ports committed page runtime = result at effect ⊢
  cases result with
  | ok clean final => exact .clean clean final effect
  | error source final => exact .failed source final effect

end Operations

end Ntsql.Transaction
