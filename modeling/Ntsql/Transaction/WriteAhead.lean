import Ntsql.Transaction.Session

/-! # Write-ahead and no-steal

Over arbitrary ports, a run of coordinator calls writes an owned page only when
its owner is proved committed after the page and the page's position was just
flushed, and what is rejected leaves no trace. -/

namespace Ntsql.Transaction

variable {width : Nat} {World LogError StoreError SourceError : Type}

def CoordinatedCommitError.IsRejection : CoordinatedCommitError LogError → Prop
  | .rejected _ _ => True
  | .indeterminate _ => False

def TransactionCommittedFlushError.IsRejection :
    TransactionCommittedFlushError LogError StoreError width → Prop
  | .rejected _ _ => True
  | _ => False

def CoordinatedTransactionCommittedFlushError.IsRejection :
    CoordinatedTransactionCommittedFlushError LogError StoreError width → Prop
  | .rejected _ _ => True
  | .flush source => source.IsRejection

/-- An operation ends in one of some errors. -/
def FailsWith {ε α : Type} (errors : ε → Prop)
    (result : EStateM.Result ε (Runtime width World) α) : Prop :=
  ∃ error final, result = .error error final ∧ errors error

namespace Session

open Execution History

variable (ports : Ports width World LogError StoreError SourceError)

def Rejects (session : Session width World) : Call width World → Prop
  | .environment _ => False
  | .begin => FailsWith (fun _ => True) (Transaction.begin session.runtime)
  | .commit transaction =>
      FailsWith CoordinatedCommitError.IsRejection
        (Transaction.commit ports transaction session.runtime)
  | .resolve transaction =>
      FailsWith (fun error => error.failure.IsRejection)
        (Transaction.resolve ports transaction session.runtime)
  | .stagePageWrite transaction page =>
      FailsWith TransactionPageStageError.IsRejection
        (stageTransactionPageWrite ports transaction page session.runtime)
  | .flushStagedCommittedPage committed page =>
      FailsWith CoordinatedTransactionCommittedFlushError.IsRejection
        (Transaction.flushStagedCommittedPage ports committed page session.runtime)
  | .flushCommittedPage committed page =>
      FailsWith TransactionCommittedFlushError.IsRejection
        (Transaction.flushCommittedPage ports committed page session.runtime)

/-- The same session, with another world behind its ports. -/
def inWorld (session : Session width World) (world : World) : Session width World :=
  { session with runtime := session.runtime.answered world [] }

variable {session : Session width World}

theorem afterFlush_of_rejected {committed : CommittedTransaction}
    {page : TransactionDirtyPage width} (held : page ∈ session.dirtyPages)
    {error : TransactionCommittedFlushError LogError StoreError width}
    {final : Runtime width World} (rejection : error.IsRejection)
    (effect : FlushEffect session.runtime committed page (.error error final)) :
    ∃ world, session.afterFlush page (.error error final) = session.inWorld world := by
  cases effect with
  | rejected reason world =>
      exact ⟨world, by rw [afterFlush, Multiset.cons_erase held]; rfl⟩
  | kept source world => exact rejection.elim
  | lost clears source world => exact rejection.elim

/-- A rejection asks no port to do anything, writes neither the registry nor the
staged pages, and hands back every token and page. -/
theorem perform_of_rejects {call : Call width World} (holds : session.Holds call)
    (rejects : session.Rejects ports call) :
    ∃ world, session.perform ports call = session.inWorld world := by
  cases call with
  | environment change => exact rejects.elim
  | begin =>
      rcases rejects with ⟨error, final, failed, -⟩
      have effect := begin_effect session.runtime
      rw [perform, failed]
      rw [failed] at effect
      cases effect
      exact ⟨session.runtime.world, rfl⟩
  | commit transaction =>
      rcases rejects with ⟨error, final, failed, rejection⟩
      have effect := commit_effect ports transaction session.runtime
      rw [perform, failed]
      rw [failed] at effect
      cases effect with
      | rejected reason world =>
          exact ⟨world, by rw [afterCommit, Multiset.cons_erase holds]; rfl⟩
      | indeterminate => exact rejection.elim
  | resolve transaction =>
      rcases rejects with ⟨error, final, failed, rejection⟩
      have effect := resolve_effect ports transaction session.runtime
      rw [perform, failed]
      rw [failed] at effect
      cases effect with
      | rejected failure =>
          exact ⟨session.runtime.world,
            by rw [afterResolve, Multiset.cons_erase holds]; rfl⟩
      | unresolved failure asked => exact (asked rejection).elim
  | stagePageWrite transaction page =>
      rcases rejects with ⟨error, final, failed, rejection⟩
      have effect :=
        stageTransactionPageWrite_effect ports transaction page session.runtime
      rw [perform, failed]
      rw [failed] at effect
      cases effect with
      | rejected reason world =>
          exact ⟨world, by rw [afterStage, Multiset.cons_erase holds]; rfl⟩
      | lost active error asked => exact (asked rejection).elim
  | flushStagedCommittedPage committed page =>
      rcases rejects with ⟨error, final, failed, rejection⟩
      have effect := flushStagedCommittedPage_effect ports committed page session.runtime
      rw [perform, failed]
      rw [failed] at effect
      cases effect with
      | rejected reason =>
          exact ⟨session.runtime.world,
            by rw [afterFlushStaged, Multiset.cons_erase holds.2]; rfl⟩
      | failed source final flushed =>
          exact afterFlush_of_rejected holds.2 rejection flushed
  | flushCommittedPage committed page =>
      rcases rejects with ⟨error, final, failed, rejection⟩
      have effect := flushCommittedPage_effect ports committed page session.runtime
      rw [perform, failed]
      rw [failed] at effect
      exact afterFlush_of_rejected holds.2 rejection effect

def issuedTransaction (session : Session width World) :
    Call width World → Option TransactionId
  | .begin =>
      match Transaction.begin session.runtime with
      | .ok transaction _ => some transaction.transactionId
      | .error _ _ => none
  | _ => none

/-- The transactions a history issued, the latest first. -/
def issuedIn (runtime : Runtime width World) : List TransactionId :=
  runtime.history.filterMap Event.issued

theorem issuedIn_answered_neutral (runtime : Runtime width World) (world : World)
    {events : List (Event width)} (neutral : ∀ event ∈ events, event.Neutral) :
    issuedIn (runtime.answered world events) = issuedIn runtime := by
  have silent : events.filterMap Event.issued = [] := by
    rw [List.filterMap_eq_nil_iff]
    intro event member
    have quiet := neutral event member
    cases event with
    | moved => exact quiet.elim
    | _ => rfl
  rw [issuedIn, Runtime.answered_history, List.filterMap_append, silent, List.nil_append,
    issuedIn]

theorem issuedIn_afterFlush {committed : CommittedTransaction}
    {page : TransactionDirtyPage width}
    {result : EStateM.Result (TransactionCommittedFlushError LogError StoreError width)
      (Runtime width World) (TransactionCleanPage width)}
    (effect : FlushEffect session.runtime committed page result) :
    issuedIn (session.afterFlush page result).runtime = issuedIn session.runtime := by
  cases effect <;> rfl

theorem issuedIn_perform (session : Session width World) (call : Call width World) :
    issuedIn (session.perform ports call).runtime =
      (session.issuedTransaction call).toList ++ issuedIn session.runtime := by
  cases call with
  | environment change => rfl
  | begin =>
      have effect := begin_effect session.runtime
      rw [perform, issuedTransaction]
      generalize Transaction.begin session.runtime = result at effect ⊢
      cases effect <;> rfl
  | commit transaction =>
      have effect := commit_effect ports transaction session.runtime
      rw [perform]
      generalize Transaction.commit ports transaction session.runtime = result at effect ⊢
      cases effect with
      | rejected reason world => rfl
      | indeterminate active lineage source world events neutral =>
          exact issuedIn_answered_neutral _ world neutral
      | committed active position world => rfl
  | resolve transaction =>
      have effect := resolve_effect ports transaction session.runtime
      rw [perform]
      generalize Transaction.resolve ports transaction session.runtime =
        result at effect ⊢
      cases effect <;> rfl
  | stagePageWrite transaction page =>
      have effect :=
        stageTransactionPageWrite_effect ports transaction page session.runtime
      rw [perform]
      generalize stageTransactionPageWrite ports transaction page session.runtime = result
        at effect ⊢
      cases effect with
      | rejected reason world => rfl
      | lost active error asked answer world =>
          cases error with
          | rejected => exact (asked trivial).elim
          | _ => rfl
      | staged active position same world => rfl
  | flushStagedCommittedPage committed page =>
      have effect := flushStagedCommittedPage_effect ports committed page session.runtime
      rw [perform]
      generalize Transaction.flushStagedCommittedPage ports committed page
        session.runtime = result at effect ⊢
      cases effect with
      | rejected reason => rfl
      | failed source final flushed => exact issuedIn_afterFlush flushed
      | clean clean final flushed =>
          cases flushed
          rfl
  | flushCommittedPage committed page =>
      exact issuedIn_afterFlush
        (flushCommittedPage_effect ports committed page session.runtime)

theorem sound_run {session : Session width World} (sound : session.Sound)
    (calls : List (Call width World))
    (held : Respects (perform ports) Holds session calls) :
    (Execution.run (perform ports) session calls).Sound :=
  invariant_run (fun _ call sound holds => sound.perform ports call holds)
    calls held sound

/-- These are all the transactions that were issued, in order. -/
def Tallied (session : Session width World) (issued : List TransactionId) : Prop :=
  issued = (issuedIn session.runtime).reverse

theorem Tallied.perform {session : Session width World} {issued : List TransactionId}
    (tallied : session.Tallied issued) (call : Call width World) :
    (session.perform ports call).Tallied
      (issued ++ (session.issuedTransaction call).toList) := by
  rw [Tallied, issuedIn_perform, List.reverse_append, tallied]
  cases session.issuedTransaction call <;> rfl

theorem nodup_issuedTransactions {session : Session width World}
    (started : session.Started) (calls : List (Call width World))
    (held : Respects (perform ports) Holds session calls) :
    (emitted (perform ports) issuedTransaction session calls).Nodup := by
  have issued : Tallied (Execution.run (perform ports) session calls)
      ([] ++ emitted (perform ports) issuedTransaction session calls) :=
    invariant_emitted (fun _ _ call tallied _ => tallied.perform ports call) calls held
      (by rw [Tallied, issuedIn, started.history]; rfl)
  rw [List.nil_append] at issued
  rw [issued, List.nodup_reverse]
  exact nodup_issued (sound_run ports started.sound calls held).tracked.justified

/-- Along every run from a fresh coordinator, over ports that answer anything:
an owned page is written only after its owner was proved committed, later in the
log than the page and in its lineage, and right after a successful flush of the
page's position; each registry entry moves only along its lifecycle; the staged
pages are those appended and not yet discharged; a rejected call changes nothing;
and no transaction is issued twice. -/
theorem write_ahead_and_no_steal (session : Session width World)
    (started : session.Started) (calls : List (Call width World))
    (held : Respects (perform ports) Holds session calls) :
    let final := Execution.run (perform ports) session calls
    (∀ past event, event :: past <:+ final.runtime.history → Permits past event) ∧
      (∀ id, final.runtime.coordinator.status id =
        latestStatus id final.runtime.history) ∧
      (∀ id number, (id, number) ∈ final.runtime.coordinator.stagedPages ↔
        ∃ later event past, final.runtime.history = later ++ event :: past ∧
          event.AppendsPage id number ∧ ∀ other ∈ later,
            ¬other.DischargesPage id number) ∧
      (∀ call, final.Holds call → final.Rejects ports call →
        ∃ world, final.perform ports call = final.inWorld world) ∧
      (emitted (perform ports) issuedTransaction session calls).Nodup := by
  have sound := sound_run ports started.sound calls held
  refine ⟨justified_iff_forall_suffix.mp sound.tracked.justified, sound.tracked.registry,
    fun id number => ?_, fun call => perform_of_rejects ports,
    nodup_issuedTransactions ports started calls held⟩
  rw [sound.tracked.staged, since_iff_exists_append]

/-! A log that assigns consecutive positions and a store that accepts all. -/

def sampleLineage : LogLineage := .persistent NonZeroU128.min

def samplePorts : Ports 1 U64 Unit Unit Unit where
  logLineage position := (sampleLineage, position)
  flushThrough _ position := (.ok (), position)
  appendCommit _ position := (.ok ⟨sampleLineage, position⟩, position + 1)
  appendPage _ _ position := (.ok ⟨sampleLineage, position⟩, position + 1)
  lookupDurableCommit _ position := (.ok (sampleLineage, .absent), position)
  storeLineage position := (sampleLineage, position)
  writePage _ _ position := (.ok (), position)

def sampleSession : Session 1 U64 where
  runtime := ⟨.fromAllocatedEpoch 0 NonZeroU64.min sampleLineage, 1, []⟩
  active := 0
  indeterminate := 0
  committed := 0
  dirtyPages := 0

def sampleTransaction : TransactionId := ⟨NonZeroU64.min, NonZeroU64.min⟩

def samplePage : TransactionDirtyPage 1 where
  transactionId := sampleTransaction
  dirty :=
    ⟨⟨sampleLineage, NonZeroU64.min⟩, ⟨0⟩, Bytes.singleton 7, ⟨sampleLineage, 1⟩, rfl⟩

def sampleCalls : List (Call 1 U64) :=
  [.begin,
    .stagePageWrite ⟨sampleTransaction, 0⟩
      ⟨samplePage.dirty.address, ⟨0⟩, Bytes.singleton 7⟩,
    .commit ⟨sampleTransaction, 0⟩,
    .flushStagedCommittedPage ⟨sampleTransaction, ⟨sampleLineage, 2⟩⟩ samplePage]

/-- A staged page of a committed transaction is written, and permitted to be. -/
theorem committed_page_is_written :
    let final := Execution.run (perform samplePorts) sampleSession sampleCalls
    .wrotePage (some sampleTransaction) samplePage.dirty ⟨⟨sampleLineage, 1⟩⟩ true ∈
        final.runtime.history ∧
      ∀ past event, event :: past <:+ final.runtime.history → Permits past event :=
  ⟨by decide +kernel,
    (write_ahead_and_no_steal samplePorts sampleSession
      ⟨⟨_, _, _, rfl⟩, rfl, rfl, rfl⟩ sampleCalls (by decide +kernel)).1⟩

end Session

end Ntsql.Transaction
