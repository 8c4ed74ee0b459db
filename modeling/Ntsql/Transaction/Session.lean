import Ntsql.Foundation.Execution
import Ntsql.Transaction.Protocol

/-! # Sessions of one coordinator

A session holds the tokens the coordinator handed out. A call consumes the
tokens it is given; a rejection hands them back. Between calls anything may
happen behind the ports. -/

namespace Ntsql.Transaction

structure Session (width : Nat) (World : Type) where
  runtime : Runtime width World
  active : Multiset ActiveTransaction
  indeterminate : Multiset IndeterminateTransaction
  committed : Multiset CommittedTransaction
  dirtyPages : Multiset (TransactionDirtyPage width)

inductive Call (width : Nat) (World : Type) where
  | environment (change : World → World)
  | begin
  | commit (transaction : ActiveTransaction)
  | resolve (transaction : IndeterminateTransaction)
  | stagePageWrite (transaction : ActiveTransaction) (page : UnloggedPage width)
  | flushStagedCommittedPage (committed : CommittedTransaction)
      (page : TransactionDirtyPage width)
  | flushCommittedPage (committed : CommittedTransaction)
      (page : TransactionDirtyPage width)

section Sessions

variable {width : Nat} {World LogError StoreError SourceError : Type}

namespace Session

/-- Only tokens that are held can be given. -/
def Holds (session : Session width World) : Call width World → Prop
  | .environment _ => True
  | .begin => True
  | .commit transaction => transaction ∈ session.active
  | .resolve transaction => transaction ∈ session.indeterminate
  | .stagePageWrite transaction _ => transaction ∈ session.active
  | .flushStagedCommittedPage committed page =>
      committed ∈ session.committed ∧ page ∈ session.dirtyPages
  | .flushCommittedPage committed page =>
      committed ∈ session.committed ∧ page ∈ session.dirtyPages

instance (session : Session width World) :
    (call : Call width World) → Decidable (session.Holds call)
  | .environment _ => isTrue trivial
  | .begin => isTrue trivial
  | .commit _ => inferInstanceAs (Decidable (_ ∈ _))
  | .resolve _ => inferInstanceAs (Decidable (_ ∈ _))
  | .stagePageWrite _ _ => inferInstanceAs (Decidable (_ ∈ _))
  | .flushStagedCommittedPage _ _ => inferInstanceAs (Decidable (_ ∧ _))
  | .flushCommittedPage _ _ => inferInstanceAs (Decidable (_ ∧ _))

def afterBegin (session : Session width World) :
    EStateM.Result TransactionIssueError (Runtime width World) ActiveTransaction →
      Session width World
  | .ok transaction runtime =>
      { session with runtime, active := transaction ::ₘ session.active }
  | .error _ runtime => { session with runtime }

def afterCommit (session : Session width World) (given : ActiveTransaction) :
    EStateM.Result (CoordinatedCommitError LogError) (Runtime width World)
      CommittedTransaction →
      Session width World
  | .ok committed runtime =>
      { session with
        runtime
        active := session.active.erase given
        committed := committed ::ₘ session.committed }
  | .error (.rejected transaction _) runtime =>
      { session with runtime, active := transaction ::ₘ session.active.erase given }
  | .error (.indeterminate error) runtime =>
      { session with
        runtime
        active := session.active.erase given
        indeterminate := error.transaction ::ₘ session.indeterminate }

def afterResolve (session : Session width World) (given : IndeterminateTransaction) :
    EStateM.Result (TransactionResolutionError SourceError) (Runtime width World)
      TransactionCommitResolution → Session width World
  | .ok (.committed committed) runtime =>
      { session with
        runtime
        indeterminate := session.indeterminate.erase given
        committed := committed ::ₘ session.committed }
  | .ok (.noDurableCommitRecord _) runtime =>
      { session with runtime, indeterminate := session.indeterminate.erase given }
  | .error error runtime =>
      { session with
        runtime
        indeterminate := error.transaction ::ₘ session.indeterminate.erase given }

def afterStage (session : Session width World) (given : ActiveTransaction) :
    EStateM.Result (TransactionPageStageError LogError width) (Runtime width World)
      (ActiveTransaction × TransactionDirtyPage width) → Session width World
  | .ok (transaction, page) runtime =>
      { session with
        runtime
        active := transaction ::ₘ session.active.erase given
        dirtyPages := page ::ₘ session.dirtyPages }
  | .error (.rejected transaction _ _) runtime =>
      { session with runtime, active := transaction ::ₘ session.active.erase given }
  | .error _ runtime => { session with runtime, active := session.active.erase given }

def afterFlush (session : Session width World) (given : TransactionDirtyPage width) :
    EStateM.Result (TransactionCommittedFlushError LogError StoreError width)
      (Runtime width World) (TransactionCleanPage width) → Session width World
  | .ok _ runtime =>
      { session with runtime, dirtyPages := session.dirtyPages.erase given }
  | .error (.rejected page _) runtime =>
      { session with runtime, dirtyPages := page ::ₘ session.dirtyPages.erase given }
  | .error (.logFlush page _) runtime =>
      { session with runtime, dirtyPages := page ::ₘ session.dirtyPages.erase given }
  | .error (.storeWrite _ _ _) runtime =>
      { session with runtime, dirtyPages := session.dirtyPages.erase given }

/-- A success is recorded in the history. -/
def afterFlushStaged (session : Session width World)
    (given : TransactionDirtyPage width) :
    EStateM.Result (CoordinatedTransactionCommittedFlushError LogError StoreError width)
      (Runtime width World) (TransactionCleanPage width) → Session width World
  | .ok _ runtime =>
      { session with
        runtime := runtime.discharged given.transactionId given.dirty.address.number
        dirtyPages := session.dirtyPages.erase given }
  | .error (.rejected page _) runtime =>
      { session with runtime, dirtyPages := page ::ₘ session.dirtyPages.erase given }
  | .error (.flush source) runtime => session.afterFlush given (.error source runtime)

variable (ports : Ports width World LogError StoreError SourceError)

def perform (session : Session width World) : Call width World → Session width World
  | .environment change =>
      { session with
        runtime := session.runtime.answered (change session.runtime.world) [] }
  | .begin => session.afterBegin (Transaction.begin session.runtime)
  | .commit transaction =>
      session.afterCommit transaction
        (Transaction.commit ports transaction session.runtime)
  | .resolve transaction =>
      session.afterResolve transaction
        (Transaction.resolve ports transaction session.runtime)
  | .stagePageWrite transaction page =>
      session.afterStage transaction
        (stageTransactionPageWrite ports transaction page session.runtime)
  | .flushStagedCommittedPage committed page =>
      session.afterFlushStaged page
        (Transaction.flushStagedCommittedPage ports committed page session.runtime)
  | .flushCommittedPage committed page =>
      session.afterFlush page
        (Transaction.flushCommittedPage ports committed page session.runtime)

/-! The world is the one the operation left. -/

theorem world_afterBegin (session : Session width World)
    (result : EStateM.Result TransactionIssueError
      (Runtime width World) ActiveTransaction) :
    (session.afterBegin result).runtime.world = (Operation.leaves result).world := by
  cases result <;> rfl

theorem world_afterCommit (session : Session width World) (given : ActiveTransaction)
    (result : EStateM.Result (CoordinatedCommitError LogError) (Runtime width World)
      CommittedTransaction) :
    (session.afterCommit given result).runtime.world =
      (Operation.leaves result).world := by
  rcases result with _ | ⟨_ | _, _⟩ <;> rfl

theorem world_afterResolve (session : Session width World)
    (given : IndeterminateTransaction)
    (result : EStateM.Result (TransactionResolutionError SourceError)
      (Runtime width World) TransactionCommitResolution) :
    (session.afterResolve given result).runtime.world =
      (Operation.leaves result).world := by
  rcases result with ⟨_ | _, _⟩ | _ <;> rfl

theorem world_afterStage (session : Session width World) (given : ActiveTransaction)
    (result : EStateM.Result (TransactionPageStageError LogError width)
      (Runtime width World) (ActiveTransaction × TransactionDirtyPage width)) :
    (session.afterStage given result).runtime.world =
      (Operation.leaves result).world := by
  rcases result with _ | ⟨_ | _ | _, _⟩ <;> rfl

theorem world_afterFlush (session : Session width World)
    (given : TransactionDirtyPage width)
    (result : EStateM.Result (TransactionCommittedFlushError LogError StoreError width)
      (Runtime width World) (TransactionCleanPage width)) :
    (session.afterFlush given result).runtime.world =
      (Operation.leaves result).world := by
  rcases result with _ | ⟨_ | _ | _, _⟩ <;> rfl

theorem world_afterFlushStaged (session : Session width World)
    (given : TransactionDirtyPage width)
    (result : EStateM.Result
      (CoordinatedTransactionCommittedFlushError LogError StoreError width)
      (Runtime width World) (TransactionCleanPage width)) :
    (session.afterFlushStaged given result).runtime.world =
      (Operation.leaves result).world := by
  rcases result with _ | ⟨_ | (_ | _ | _), _⟩ <;> rfl

/-- A fresh coordinator and nothing committed or staged. Tokens of any other
coordinator may be held. -/
structure Started (session : Session width World) : Prop where
  opened : ∃ identity epoch logLineage, session.runtime.coordinator =
    TransactionCoordinator.fromAllocatedEpoch identity epoch logLineage
  history : session.runtime.history = []
  committed : session.committed = 0
  dirtyPages : session.dirtyPages = 0

/-! ## Every call keeps the coordinator tracked -/

/-- The tokens are what the history says they are. -/
structure Sound (session : Session width World) : Prop where
  tracked : Tracked session.runtime
  committed : ∀ committed ∈ session.committed,
    ProvedCommitted committed.transactionId committed.logPosition
      session.runtime.history ∧
      latestStatus committed.transactionId session.runtime.history = some .committed
  dirtyPages : ∀ page ∈ session.dirtyPages,
    StagedBy page.transactionId page.dirty session.runtime.history

theorem Started.sound {session : Session width World} (started : Started session) :
    session.Sound := by
  rcases started.opened with ⟨identity, epoch, logLineage, opened⟩
  refine ⟨⟨?_, fun id => ?_, fun id number => ?_⟩, ?_, ?_⟩
  · rw [started.history]
    trivial
  · rw [started.history, opened]
    exact Std.ExtTreeMap.getElem?_empty
  · rw [started.history, opened]
    simp [TransactionCoordinator.fromAllocatedEpoch, History.Since]
  · simp [started.committed]
  · simp [started.dirtyPages]

variable {session : Session width World}

theorem Sound.grow (sound : session.Sound) {runtime : Runtime width World}
    (tracked : Tracked runtime) (grown : session.runtime.history <:+ runtime.history)
    {active : Multiset ActiveTransaction}
    {indeterminate : Multiset IndeterminateTransaction}
    {committed : Multiset CommittedTransaction}
    {dirtyPages : Multiset (TransactionDirtyPage width)}
    (newCommitted : ∀ token ∈ committed, token ∈ session.committed ∨
      ProvedCommitted token.transactionId token.logPosition runtime.history ∧
        latestStatus token.transactionId runtime.history = some .committed)
    (newPages : ∀ page ∈ dirtyPages, page ∈ session.dirtyPages ∨
      StagedBy page.transactionId page.dirty runtime.history) :
    Sound { runtime, active, indeterminate, committed, dirtyPages } where
  tracked := tracked
  committed := by
    intro token member
    rcases newCommitted token member with held | proved
    · have before := sound.committed token held
      exact ⟨before.1.mono grown,
        latestStatus_committed_mono before.2 grown tracked.justified⟩
    · exact proved
  dirtyPages := by
    intro page member
    rcases newPages page member with held | staged
    · exact (sound.dirtyPages page held).mono grown
    · exact staged

theorem Sound.unchanged (sound : session.Sound) (world : World)
    (active : Multiset ActiveTransaction)
    (indeterminate : Multiset IndeterminateTransaction) :
    Sound { session with
      runtime := session.runtime.answered world [], active, indeterminate } :=
  sound.grow (sound.tracked.neutral world (by simp)) (List.suffix_refl _) (fun _ => .inl)
    fun _ => .inl

theorem suffix_resolved (runtime : Runtime width World) (world : World)
    (events : List (Event width)) (id : TransactionId)
    (status : TransactionLifecycleStatus) :
    runtime.history <:+ ((runtime.answered world events).moved id status).history :=
  (runtime.suffix_answered world events).trans (Runtime.suffix_moved _ id status)

theorem suffix_attempt (runtime : Runtime width World) (world : World)
    (events : List (Event width)) (id : TransactionId)
    (attempted outcome : TransactionLifecycleStatus) :
    runtime.history <:+
      (((runtime.moved id attempted).answered world events).moved id outcome).history :=
  (runtime.suffix_moved id attempted).trans (suffix_resolved _ world events id outcome)

theorem Sound.afterBegin (sound : session.Sound) :
    (session.afterBegin (Transaction.begin session.runtime)).Sound := by
  have effect := begin_effect session.runtime
  generalize Transaction.begin session.runtime = result at effect ⊢
  cases effect with
  | refused error => exact sound
  | issued id fresh next =>
      have moves : Moves (session.runtime.coordinator.status id) .active := fresh ▸ .issue
      have tracked := (sound.tracked.moved moves).withNext next
      exact sound.grow tracked (List.suffix_cons _ _) (fun _ => .inl) fun _ => .inl

theorem Sound.afterCommit (sound : session.Sound) (transaction : ActiveTransaction) :
    (session.afterCommit transaction
      (Transaction.commit ports transaction session.runtime)).Sound := by
  have effect := commit_effect ports transaction session.runtime
  generalize Transaction.commit ports transaction session.runtime = result at effect ⊢
  have status := TransactionCoordinator.status_setStatus session.runtime.coordinator
    transaction.transactionId transaction.transactionId .commitAttempted
  rw [if_pos rfl] at status
  cases effect with
  | rejected reason world => exact sound.unchanged world _ _
  | indeterminate active lineage source world events neutral =>
      have attempted := sound.tracked.moved (active ▸ Moves.attempt)
      have failed := (attempted.neutral world neutral).moved (status ▸ Moves.fail)
      exact sound.grow failed (suffix_attempt _ _ _ _ _ _) (fun _ => .inl) fun _ => .inl
  | committed active position world =>
      have attempted := sound.tracked.moved (active ▸ Moves.attempt)
      have flushed : Tracked ((session.runtime.moved transaction.transactionId
          .commitAttempted).answered world [.flushedThrough position true,
            .appendedCommit transaction.transactionId (some position)]) :=
        attempted.neutral world (by simp [Event.Neutral])
      have durable := flushed.moved (status ▸ Moves.commit)
      refine sound.grow durable (suffix_attempt _ _ _ _ _ _) (fun token member => ?_)
        fun _ => .inl
      rcases Multiset.mem_cons.mp member with rfl | held
      · exact .inr ⟨.inl ⟨_, List.suffix_cons _ _⟩, latestStatus_moved_self _ _ _⟩
      · exact .inl held

theorem Sound.afterResolve (sound : session.Sound)
    (transaction : IndeterminateTransaction) :
    (session.afterResolve transaction
      (Transaction.resolve ports transaction session.runtime)).Sound := by
  have effect := resolve_effect ports transaction session.runtime
  generalize Transaction.resolve ports transaction session.runtime = result at effect ⊢
  cases effect with
  | rejected failure => exact sound.unchanged session.runtime.world _ _
  | unresolved failure asked answer world =>
      have asked : Tracked (session.runtime.answered world
          [.lookedUpCommit transaction.transactionId answer]) :=
        sound.tracked.observed world trivial
      exact sound.grow asked (Runtime.suffix_answered _ _ _) (fun _ => .inl) fun _ => .inl
  | found indeterminate position world =>
      have asked : Tracked (session.runtime.answered world
          [.lookedUpCommit transaction.transactionId
            (some (position.lineage, .found position))]) :=
        sound.tracked.observed world trivial
      have found := asked.moved (indeterminate ▸ Moves.find)
      refine sound.grow found (suffix_resolved _ _ _ _ _) (fun token member => ?_)
        fun _ => .inl
      rcases Multiset.mem_cons.mp member with rfl | held
      · exact .inr ⟨.inr (List.mem_cons_of_mem _ List.mem_cons_self),
          latestStatus_moved_self _ _ _⟩
      · exact .inl held
  | absent indeterminate lineage world =>
      have asked : Tracked (session.runtime.answered world
          [.lookedUpCommit transaction.transactionId (some (lineage, .absent))]) :=
        sound.tracked.observed world trivial
      have missed := asked.moved (indeterminate ▸ Moves.miss)
      exact sound.grow missed (suffix_resolved _ _ _ _ _) (fun _ => .inl) fun _ => .inl

theorem Sound.afterStage (sound : session.Sound) (transaction : ActiveTransaction)
    (page : UnloggedPage width) :
    (session.afterStage transaction
      (stageTransactionPageWrite ports transaction page session.runtime)).Sound := by
  have effect := stageTransactionPageWrite_effect ports transaction page session.runtime
  generalize stageTransactionPageWrite ports transaction page session.runtime =
    result at effect ⊢
  cases effect with
  | rejected reason world => exact sound.unchanged world _ _
  | lost active error asked answer world =>
      have appended := sound.tracked.appended transaction.transactionId page answer world
      have lost := appended.moved (active ▸ Moves.losePageAppend)
      have grown := suffix_resolved session.runtime world
        [.appendedPage (some transaction.transactionId) page answer]
          transaction.transactionId
        .pageAppendIndeterminate
      cases error with
      | rejected => exact (asked trivial).elim
      | append => exact sound.grow lost grown (fun _ => .inl) fun _ => .inl
      | invalidEvidence => exact sound.grow lost grown (fun _ => .inl) fun _ => .inl
  | staged active position same world =>
      have appended :=
        sound.tracked.appended transaction.transactionId page (some position) world
      refine sound.grow appended (List.suffix_cons _ _) (fun _ => .inl) fun staged
        member => ?_
      rcases Multiset.mem_cons.mp member with rfl | held
      · exact .inr List.mem_cons_self
      · exact .inl held

/-- A flush that was allowed to write keeps the history permitted. -/
theorem Sound.wrote (sound : session.Sound) {committed : CommittedTransaction}
    {page : TransactionDirtyPage width} (given : committed ∈ session.committed)
    (held : page ∈ session.dirtyPages) (clears : Clears committed page) (succeeded : Bool)
    (world : World) : Tracked (session.runtime.wrote page succeeded world) :=
  sound.tracked.wrote clears (sound.committed committed given).1
    (sound.committed committed given).2 (sound.dirtyPages page held) succeeded world

theorem held_of_mem_returned {page other : TransactionDirtyPage width}
    (given : page ∈ session.dirtyPages)
    (member : other ∈ page ::ₘ session.dirtyPages.erase page) :
      other ∈ session.dirtyPages := by
  rw [Multiset.cons_erase given] at member
  exact member

theorem Sound.afterFlush (sound : session.Sound) {committed : CommittedTransaction}
    {page : TransactionDirtyPage width} (given : committed ∈ session.committed)
    (held : page ∈ session.dirtyPages)
    {result : EStateM.Result (TransactionCommittedFlushError LogError StoreError width)
      (Runtime width World) (TransactionCleanPage width)}
    (effect : FlushEffect session.runtime committed page result) :
    (session.afterFlush page result).Sound := by
  cases effect with
  | rejected reason world =>
      exact sound.grow (sound.tracked.neutral world (by simp)) (List.suffix_refl _)
        (fun _ => .inl) fun _ member => .inl (held_of_mem_returned held member)
  | kept source world =>
      have flushed : Tracked (session.runtime.answered world
          [.flushedThrough page.dirty.requiredPosition false]) :=
        sound.tracked.observed world trivial
      exact sound.grow flushed (Runtime.suffix_answered _ _ _) (fun _ => .inl)
        fun _ member => .inl (held_of_mem_returned held member)
  | lost clears source world =>
      exact sound.grow (sound.wrote given held clears false world)
        (Runtime.suffix_answered _ _ _) (fun _ => .inl)
        fun _ member => .inl (Multiset.mem_of_mem_erase member)
  | clean clears world =>
      exact sound.grow (sound.wrote given held clears true world)
        (Runtime.suffix_answered _ _ _) (fun _ => .inl)
        fun _ member => .inl (Multiset.mem_of_mem_erase member)

theorem Sound.afterFlushStaged (sound : session.Sound) {committed : CommittedTransaction}
    {page : TransactionDirtyPage width} (given : committed ∈ session.committed)
    (held : page ∈ session.dirtyPages)
    {result : EStateM.Result
      (CoordinatedTransactionCommittedFlushError LogError StoreError width)
      (Runtime width World) (TransactionCleanPage width)}
    (effect : FlushStagedEffect session.runtime committed page result) :
    (session.afterFlushStaged page result).Sound := by
  cases effect with
  | rejected reason =>
      exact sound.grow sound.tracked (List.suffix_refl _) (fun _ => .inl)
        fun _ member => .inl (held_of_mem_returned held member)
  | failed source final flushed => exact sound.afterFlush given held flushed
  | clean clean final flushed =>
      cases flushed with
      | clean clears world =>
          have wrote := sound.wrote given held clears true world
          exact sound.grow (wrote.discharged page.transactionId page.dirty.address.number)
            ((Runtime.suffix_answered _ world _).trans (List.suffix_cons _ _))
            (fun _ => .inl) fun _ member => .inl (Multiset.mem_of_mem_erase member)

theorem Sound.perform (sound : session.Sound) (call : Call width World)
    (holds : session.Holds call) : (session.perform ports call).Sound := by
  cases call with
  | environment change => exact sound.unchanged _ _ _
  | begin => exact sound.afterBegin
  | commit transaction => exact sound.afterCommit ports transaction
  | resolve transaction => exact sound.afterResolve ports transaction
  | stagePageWrite transaction page => exact sound.afterStage ports transaction page
  | flushStagedCommittedPage committed page =>
      exact sound.afterFlushStaged holds.1 holds.2
        (flushStagedCommittedPage_effect ports committed page session.runtime)
  | flushCommittedPage committed page =>
      exact sound.afterFlush holds.1 holds.2
        (flushCommittedPage_effect ports committed page session.runtime)

end Session

end Sessions

end Ntsql.Transaction
