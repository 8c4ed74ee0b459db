import Ntsql.Storage.CommitLogWrite
import Ntsql.Storage.PageStoreReopen
import Ntsql.Transaction.WriteAhead

/-! # The coordinator over one log file and one page-store file -/

namespace Ntsql.Storage.FileCommitLog

open Transaction

variable {width : Nat}

inductive FileTransactionRecoveryError where
  | poisonedWriter
  | duplicateCommitRecord (id : TransactionId)
  | volatileCommitRecord (id : TransactionId)
deriving DecidableEq

/-- The commit records of a transaction, each with whether it is durable. -/
def commitRecordsOf (log : FileCommitLog width) (id : TransactionId) :
    List (LogSequenceNumber × Bool) :=
  log.records.zipIdx.filterMap fun (record, index) =>
    if record.kind = .transactionCommit (.fromTransactionId id) then
      some (record.position, decide (index < log.durableLen))
    else
      none

def lookupDurableCommit (id : TransactionId) :
    EStateM FileTransactionRecoveryError (FileCommitLog width)
      (LogLineage × DurableCommitLookup) := do
  let log ← get
  check (rejectIf log.writer.poisoned .poisonedWriter)
  match log.commitRecordsOf id with
  | [] => return (log.lineage, .absent)
  | [(position, true)] => return (log.lineage, .found position)
  | [(_, false)] => throw (.volatileCommitRecord id)
  | _ => throw (.duplicateCommitRecord id)

end Ntsql.Storage.FileCommitLog

namespace Ntsql.Transaction

open Storage

/-- The log and the store that the ports reach. -/
structure FileStorage (width : Nat) where
  log : FileCommitLog width
  store : FilePageStore width

namespace FileStorage

variable {width : Nat} {ε α : Type}

def onLog (action : EStateM ε (FileCommitLog width) α) (storage : FileStorage width) :
    Except ε α × FileStorage width :=
  match action storage.log with
  | .ok value log => (.ok value, { storage with log })
  | .error error log => (.error error, { storage with log })

def onStore (action : EStateM ε (FilePageStore width) α) (storage : FileStorage width) :
    Except ε α × FileStorage width :=
  match action storage.store with
  | .ok value store => (.ok value, { storage with store })
  | .error error store => (.error error, { storage with store })

@[simp] theorem onLog_store (action : EStateM ε (FileCommitLog width) α)
    (storage : FileStorage width) : (onLog action storage).2.store = storage.store := by
  rw [onLog]
  split <;> rfl

@[simp] theorem onStore_store (action : EStateM ε (FilePageStore width) α)
    (storage : FileStorage width) :
    (onStore action storage).2.store = Operation.leaves (action storage.store) := by
  rw [onStore]
  cases action storage.store <;> rfl

end FileStorage

def filePorts (width : Nat) : Ports width (FileStorage width) FileCommitLogError
    FilePageStoreError FileCommitLog.FileTransactionRecoveryError where
  logLineage storage := (storage.log.lineage, storage)
  flushThrough position := FileStorage.onLog (FileCommitLog.flushThrough position)
  appendCommit record :=
    FileStorage.onLog (FileCommitLog.appendCommit record.transactionId)
  appendPage owner page :=
    match owner with
    | none => FileStorage.onLog (FileCommitLog.appendPageInternal page)
    | some id => FileStorage.onLog (FileCommitLog.appendTransactionPageInternal id page)
  lookupDurableCommit id := FileStorage.onLog (FileCommitLog.lookupDurableCommit id)
  storeLineage storage := (storage.store.lineage, storage)
  writePage dirty permit :=
    FileStorage.onStore (FilePageStore.writePage dirty ⟨permit.durablePosition⟩)

/-! ## Only a page write reaches the store -/

section View

variable {width : Nat} {World View LogError StoreError SourceError ε ζ α β : Type}
  (view : World → View)

/-- What `view` shows of the world behind the ports is left as it was. -/
def Keeps (action : EStateM ε (Runtime width World) α) : Prop :=
  ∀ runtime, view (Operation.leaves (action runtime)).world = view runtime.world

/-- No port moves what `view` shows, but for the one that writes pages. -/
structure Quiet (ports : Ports width World LogError StoreError SourceError) : Prop where
  logLineage : ∀ world, view (ports.logLineage world).2 = view world
  flushThrough : ∀ position world, view (ports.flushThrough position world).2 = view world
  appendCommit : ∀ record world, view (ports.appendCommit record world).2 = view world
  appendPage : ∀ owner page world, view (ports.appendPage owner page world).2 = view world
  lookupDurableCommit :
    ∀ id world, view (ports.lookupDurableCommit id world).2 = view world
  storeLineage : ∀ world, view (ports.storeLineage world).2 = view world

variable {view}

theorem Keeps.bind {action : EStateM ε (Runtime width World) α}
    {next : α → EStateM ε (Runtime width World) β} (first : Keeps view action)
    (rest : ∀ value, Keeps view (next value)) : Keeps view (action >>= next) := by
  intro runtime
  have started := first runtime
  rw [Operation.bind_apply]
  cases outcome : action runtime with
  | ok value middle =>
      rw [outcome] at started
      exact (rest value middle).trans started
  | error error middle =>
      rw [outcome] at started
      exact started

theorem Keeps.check (result : Except ε α) :
    Keeps view (check result : EStateM ε (Runtime width World) α) := by
  intro runtime
  cases result <;> rfl

theorem Keeps.attempt {action : EStateM ζ (Runtime width World) α}
    (keeps : Keeps view action) :
    Keeps view (attempt action : EStateM ε (Runtime width World) (Except ζ α)) := by
  intro runtime
  have kept := keeps runtime
  rw [Operation.attempt_apply]
  cases outcome : action runtime <;> simpa [outcome] using kept

theorem Keeps.get_bind {next : Runtime width World → EStateM ε (Runtime width World) β}
    (rest : ∀ runtime, Keeps view (next runtime)) : Keeps view (get >>= next) :=
  Keeps.bind (fun _ => rfl) rest

theorem Keeps.of_world {action : EStateM ε (Runtime width World) α}
    (kept : ∀ runtime, (Operation.leaves (action runtime)).world = runtime.world) :
    Keeps view action :=
  fun runtime => congrArg view (kept runtime)

theorem Keeps.callPort {call : World → Except ζ α × World}
    (quiet : ∀ world, view (call world).2 = view world)
    (event : Except ζ α → Event width) :
    Keeps view (callPort call event : EStateM ε (Runtime width World) (Except ζ α)) :=
  fun runtime => quiet runtime.world

variable {ports : Ports width World LogError StoreError SourceError}

theorem Quiet.requireLogLineage (quiet : Quiet view ports) (lineage : LogLineage)
    (error : ε) :
    Keeps view
      (requireLogLineage ports lineage error : EStateM ε (Runtime width World) Unit) :=
  Keeps.bind (fun runtime => quiet.logLineage runtime.world) fun _ => Keeps.check _

theorem Quiet.commitDurability (quiet : Quiet view ports)
    (record : TransactionCommitRecord) :
    Keeps view (commitDurability ports record) := by
  refine Keeps.bind (fun runtime => quiet.logLineage runtime.world) fun expected => ?_
  refine Keeps.bind (Keeps.callPort (quiet.appendCommit record) _) fun answer => ?_
  cases answer with
  | error source => exact Keeps.of_world fun _ => rfl
  | ok position =>
      refine Keeps.bind (Keeps.check _) fun _ => ?_
      refine Keeps.bind (quiet.requireLogLineage _ _) fun _ => ?_
      refine Keeps.bind (Keeps.callPort (quiet.flushThrough position) _) fun answer => ?_
      cases answer <;> exact Keeps.of_world fun _ => rfl

theorem Quiet.stagePageWrite (quiet : Quiet view ports) (owner : Option TransactionId)
    (page : UnloggedPage width) : Keeps view (stagePageWrite ports owner page) := by
  refine Keeps.bind (quiet.requireLogLineage _ _) fun _ => ?_
  refine Keeps.bind (fun runtime => quiet.logLineage runtime.world) fun expected => ?_
  refine Keeps.bind (Keeps.callPort (quiet.appendPage owner page) _) fun answer => ?_
  cases answer with
  | error source => exact Keeps.of_world fun _ => rfl
  | ok position =>
      refine Keeps.bind (Keeps.check _) fun _ => ?_
      exact Keeps.bind (quiet.requireLogLineage _ _) fun _ => Keeps.check _

theorem keeps_begin (view : World → View) :
    Keeps view
      (begin : EStateM TransactionIssueError
        (Runtime width World) ActiveTransaction) := by
  refine Keeps.get_bind fun runtime => ?_
  refine Keeps.bind (Keeps.check _) fun next => ?_
  refine Keeps.bind (Keeps.check _) fun _ => ?_
  exact Keeps.of_world fun _ => rfl

theorem Quiet.commit (quiet : Quiet view ports) (transaction : ActiveTransaction) :
    Keeps view (commit ports transaction) := by
  refine Keeps.get_bind fun runtime => ?_
  refine Keeps.bind (Keeps.check _) fun _ => ?_
  refine Keeps.bind (quiet.requireLogLineage _ _) fun _ => ?_
  refine Keeps.bind (Keeps.check _) fun _ => ?_
  refine Keeps.bind (Keeps.of_world fun _ => rfl) fun _ => ?_
  refine Keeps.bind (quiet.commitDurability _).attempt fun outcome => ?_
  cases outcome <;> exact Keeps.of_world fun _ => rfl

theorem Quiet.resolve (quiet : Quiet view ports)
    (transaction : IndeterminateTransaction) :
    Keeps view (resolve ports transaction) := by
  refine Keeps.get_bind fun runtime => ?_
  refine Keeps.bind (Keeps.check _) fun _ => ?_
  refine Keeps.bind (Keeps.check _) fun _ => ?_
  refine Keeps.bind (Keeps.callPort (quiet.lookupDurableCommit _) _) fun answer => ?_
  rcases answer with source | ⟨lineage, lookup⟩
  · exact Keeps.of_world fun _ => rfl
  refine Keeps.bind (Keeps.check _) fun _ => ?_
  cases lookup with
  | found position =>
      refine Keeps.bind (Keeps.check _) fun _ => ?_
      refine Keeps.get_bind fun current => ?_
      exact Keeps.bind (Keeps.check _) fun _ => Keeps.of_world fun _ => rfl
  | absent =>
      refine Keeps.get_bind fun current => ?_
      exact Keeps.bind (Keeps.check _) fun _ => Keeps.of_world fun _ => rfl

theorem keeps_markPageAppendIndeterminate (id : TransactionId) :
    Keeps view
      (markPageAppendIndeterminate id : EStateM ε (Runtime width World) Unit) := by
  refine Keeps.get_bind fun runtime => ?_
  dsimp only
  split <;> exact Keeps.of_world fun _ => rfl

theorem Quiet.stageTransactionPageWrite (quiet : Quiet view ports)
    (transaction : ActiveTransaction) (page : UnloggedPage width) :
    Keeps view (stageTransactionPageWrite ports transaction page) := by
  refine Keeps.get_bind fun runtime => ?_
  refine Keeps.bind (Keeps.check _) fun _ => ?_
  refine Keeps.bind (quiet.requireLogLineage _ _) fun _ => ?_
  refine Keeps.bind (quiet.requireLogLineage _ _) fun _ => ?_
  refine Keeps.bind (Keeps.check _) fun _ => ?_
  refine Keeps.bind (Keeps.check _) fun _ => ?_
  refine Keeps.bind (Keeps.of_world fun _ => rfl) fun _ => ?_
  refine Keeps.bind (quiet.stagePageWrite _ page).attempt fun outcome => ?_
  rcases outcome with (_ | _ | _) | dirty
  · exact Keeps.of_world fun _ => rfl
  · exact Keeps.bind (keeps_markPageAppendIndeterminate _) fun _ =>
      Keeps.of_world fun _ => rfl
  · exact Keeps.bind (keeps_markPageAppendIndeterminate _) fun _ =>
      Keeps.of_world fun _ => rfl
  · exact Keeps.of_world fun _ => rfl

/-- The page was offered to the store at most once. -/
def Flushes (view : World → View)
    (ports : Ports width World LogError StoreError SourceError)
    (dirty : DirtyPage width) (before after : World) : Prop :=
  view after = view before ∨ ∃ world, view world = view before ∧
    after = (ports.writePage dirty ⟨dirty.requiredPosition⟩ world).2

theorem Quiet.flushDirtyPage (quiet : Quiet view ports) (owner : Option TransactionId)
    (dirty : DirtyPage width) (runtime : Runtime width World) :
    Flushes view ports dirty runtime.world
      (Operation.leaves (flushDirtyPage ports owner dirty runtime)).world := by
  have read := quiet.logLineage runtime.world
  have readStore := (quiet.storeLineage (ports.logLineage runtime.world).2).trans read
  rw [Transaction.flushDirtyPage, requireLogLineage_bind]
  split
  · exact .inl read
  simp only [readStoreLineage_bind, Operation.check_rejectIf_bind]
  split
  · exact .inl readStore
  simp only [Transaction.flushThrough, callPort_bind, Runtime.answered_world]
  generalize (ports.storeLineage (ports.logLineage runtime.world).2).2 =
    second at readStore ⊢
  have flushed := (quiet.flushThrough dirty.requiredPosition second).trans readStore
  generalize ports.flushThrough dirty.requiredPosition second = reply at flushed ⊢
  rcases reply with ⟨source | done, third⟩
  · exact .inl flushed
  refine .inr ⟨third, flushed, ?_⟩
  simp only [writePage, callPort_bind, Runtime.answered_world]
  generalize ports.writePage dirty ⟨dirty.requiredPosition⟩ third = reply
  rcases reply with ⟨source | done, fourth⟩ <;> rfl

theorem Quiet.flushCommittedPage (quiet : Quiet view ports)
    (committed : CommittedTransaction) (page : TransactionDirtyPage width)
    (runtime : Runtime width World) :
    Flushes view ports page.dirty runtime.world
      (Operation.leaves (flushCommittedPage ports committed page runtime)).world := by
  rw [Transaction.flushCommittedPage]
  simp only [Operation.check_rejectIf_bind]
  split
  · exact .inl rfl
  split
  · exact .inl rfl
  split
  · exact .inl rfl
  have flushes := quiet.flushDirtyPage (some page.transactionId) page.dirty runtime
  rw [Operation.bind_apply, Operation.attempt_apply]
  generalize Transaction.flushDirtyPage ports _ _ _ = result at flushes ⊢
  rcases result with ⟨clean, final⟩ | ⟨_ | _ | _, final⟩ <;> exact flushes

theorem Quiet.flushStagedCommittedPage (quiet : Quiet view ports)
    (committed : CommittedTransaction) (page : TransactionDirtyPage width)
    (runtime : Runtime width World) :
    Flushes view ports page.dirty runtime.world
      (Operation.leaves
        (flushStagedCommittedPage ports committed page runtime)).world := by
  rw [Transaction.flushStagedCommittedPage, Operation.get_bind]
  simp only [Operation.check_rejectIf_bind]
  split
  · exact .inl rfl
  split
  · exact .inl rfl
  split
  · exact .inl rfl
  split
  · exact .inl rfl
  have flushes := quiet.flushCommittedPage committed page runtime
  rw [Operation.bind_apply, Operation.attempt_apply]
  generalize Transaction.flushCommittedPage ports _ _ _ = result at flushes ⊢
  rcases result with ⟨clean, final⟩ | ⟨source, final⟩ <;> exact flushes

end View

theorem quiet_filePorts (width : Nat) : Quiet FileStorage.store (filePorts width) where
  logLineage _ := rfl
  flushThrough _ _ := FileStorage.onLog_store _ _
  appendCommit _ _ := FileStorage.onLog_store _ _
  appendPage owner _ _ := by cases owner <;> exact FileStorage.onLog_store _ _
  lookupDurableCommit _ _ := FileStorage.onLog_store _ _
  storeLineage _ := rfl

end Ntsql.Transaction
