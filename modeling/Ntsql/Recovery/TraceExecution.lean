import Ntsql.Recovery.Reopening
import Ntsql.Recovery.Trace

/-! # Executing a trace

A trace operation runs the operations of the model it stands for and keeps the
tables that the trace's indices refer to. -/

namespace Ntsql.Recovery

open RecoveryModel Operation

variable {model final : RecoveryModel} {run after : TraceRun}

theorem onModel_ok {action : ModelM α} {value : α}
    (succeeds : action run.model = .ok value final) :
    onModel action run = .ok value { run with model := final } := by
  rw [onModel, succeeds]

theorem action_of_perform {operation : RunOperation} {action : ModelM α}
    {report : α → Response} (applies : operation.apply = report <$> action)
    (performed : model.perform operation = some final) :
      ∃ value, action model = .ok value final := by
  rw [perform, applies] at performed
  cases outcome : (report <$> action) model with
  | ok response last =>
      rw [outcome] at performed
      rcases map_ok_iff.mp outcome with ⟨value, succeeds, _⟩
      refine ⟨value, ?_⟩
      cases response with
      | applied result => cases result <;> cases performed <;> exact succeeds
      | _ => cases performed; exact succeeds
  | error error last =>
      rw [outcome] at performed
      cases performed

/-- The operations that leave the tables of a trace alone. -/
def TraceOp.plain : TraceOp → Option RunOperation
  | .allocateEpoch => some .allocateCoordinatorEpoch
  | .flushWal => some .flushWal
  | .publishCheckpoint anchor => some (.publishCheckpoint anchor)
  | .select => some .select
  | .planReplay => some .planReplay
  | .repairPages => some .repairPages
  | .restoreTransactions => some .restoreTransactions
  | .analyzeRetention => some .analyzeRetention
  | .reclaim => some .reclaim
  | _ => none

theorem onModel_discard {action : ModelM α} {value : α}
    (succeeds : action run.model = .ok value final) :
    (onModel action >>= fun _ => pure PUnit.unit : TraceM PUnit) run =
      .ok ⟨⟩ { run with model := final } := by
  rw [bind_of_ok (onModel_ok succeeds)]
  rfl

theorem execute_plain {op : TraceOp} {operation : RunOperation}
    (isPlain : op.plain = some operation)
    (performed : run.model.perform operation = some final) :
    op.execute run = .ok () { run with model := final } := by
  cases op <;> cases isPlain
  case allocateEpoch | flushWal | planReplay | repairPages |
    restoreTransactions | reclaim =>
    rcases action_of_perform rfl performed with ⟨_, succeeds⟩
    exact onModel_discard succeeds
  case publishCheckpoint | select | analyzeRetention =>
    rcases action_of_perform rfl performed with ⟨_, succeeds⟩
    exact onModel_ok succeeds

theorem pageIdOf_get (page : PageId) : pageIdOf page.get run = .ok page run := by
  rw [pageIdOf, check_ok_iff, okOr_ok_iff, PageId.new, dif_pos page.nonzero]
  exact ⟨rfl, rfl⟩

theorem execute_appendRawPage {page : PageId} {value version : U64}
    {position : WalPosition}
    (succeeds : appendRawPage page value ⟨version⟩ run.model = .ok position final) :
    (TraceOp.appendRawPage page.get value version).execute run =
      .ok () { run with
        model := final
        pagePositions := run.pagePositions ++ [position] } := by
  rw [TraceOp.execute, bind_of_ok (pageIdOf_get page), bind_of_ok (onModel_ok succeeds)]
  rfl

theorem execute_beginTransaction {id : TransactionId}
    (succeeds : beginTransaction run.model = .ok id final) :
    TraceOp.beginTransaction.execute run =
      .ok () { run with
        model := final
        txnIds := run.txnIds ++ [id] } := by
  rw [TraceOp.execute, bind_of_ok (onModel_ok succeeds)]
  rfl

theorem transactionAt_of_getElem? {index : Nat} {txn : TransactionId}
    (found : run.txnIds[index]? = some txn) : transactionAt index run = .ok txn run := by
  rw [transactionAt, get_bind, found]
  rfl

theorem execute_appendTransactionPage {index : Nat} {txn : TransactionId} {page : PageId}
    {value version : U64} {position : WalPosition} (found : run.txnIds[index]? = some txn)
    (succeeds : appendTransactionPage txn page value ⟨version⟩ run.model =
      .ok position final) :
    (TraceOp.appendTransactionPage index page.get value version).execute run =
      .ok () { run with
        model := final
        pagePositions := run.pagePositions ++ [position] } := by
  rw [TraceOp.execute, bind_of_ok (transactionAt_of_getElem? found),
    bind_of_ok (pageIdOf_get page), bind_of_ok (onModel_ok succeeds)]
  rfl

theorem execute_appendTransactionCommit {index : Nat} {txn : TransactionId}
    {position : WalPosition} (found : run.txnIds[index]? = some txn)
    (succeeds : appendTransactionCommit txn run.model = .ok position final) :
    (TraceOp.appendTransactionCommit index).execute run =
      .ok () { run with
        model := final
        pagePositions := run.pagePositions ++ [position] } := by
  rw [TraceOp.execute, bind_of_ok (transactionAt_of_getElem? found),
    bind_of_ok (onModel_ok succeeds)]
  rfl

theorem execute_writePageStore {index : Nat} {position : WalPosition} {page : PageId}
    (found : run.pagePositions[index]? = some position)
    (succeeds : writePageStore position run.model = .ok page final) :
    (TraceOp.writePageStore index).execute run = .ok () { run with model := final } := by
  rw [TraceOp.execute, get_bind, found]
  exact onModel_discard succeeds

theorem execute_crash (succeeds : crash run.model = .ok () final) :
    TraceOp.crash.execute run = .ok () ⟨final, [], [], 0⟩ := by
  rw [TraceOp.execute, bind_of_ok (onModel_ok succeeds)]
  rfl

theorem execute_reopen {lineage : LineageId}
    (succeeds : reopen run.model = .ok lineage final) :
    TraceOp.reopen.execute run =
      .ok () { run with
        model := final
        pagePositions := final.walRecords.map WalRecord.position } := by
  rw [TraceOp.execute, bind_of_ok (onModel_ok succeeds)]
  rfl

theorem execute_complete (succeeds : complete run.model = .ok () final) :
    TraceOp.complete.execute run =
      .ok () { run with
        model := final
        pageVersionCounter := 0 } := by
  rw [TraceOp.execute, bind_of_ok (onModel_ok succeeds)]
  rfl

theorem execute_liveMutation {page : PageId} {value version counter : U64}
    {position : WalPosition} {flushed : Option WalPosition} {middle : RecoveryModel}
    (counts : checkedSucc run.pageVersionCounter = some counter)
    (appends : appendRawPage page value ⟨version⟩ run.model = .ok position middle)
    (flushes : flushWal middle = .ok flushed final) :
    (TraceOp.liveMutationAfterComplete page.get value version).execute run =
      .ok () { run with
        model := final
        pagePositions := run.pagePositions ++ [position]
        pageVersionCounter := counter } := by
  have appended : onModel (appendRawPage page value ⟨version⟩)
      { run with pageVersionCounter := counter } =
        .ok position { run with
          model := middle
          pageVersionCounter := counter } := onModel_ok appends
  have isFlushed : onModel flushWal { run with
        model := middle
        pageVersionCounter := counter } =
      .ok flushed { run with
        model := final
        pageVersionCounter := counter } := onModel_ok flushes
  have counted :
      check (okOr (checkedSucc run.pageVersionCounter) ModelError.pageVersionExhausted)
      run = .ok counter run := by
    rw [counts]
    rfl
  rw [TraceOp.execute, bind_of_ok (pageIdOf_get page), get_bind, bind_of_ok counted,
    set_bind, bind_of_ok appended, bind_of_ok isFlushed]
  rfl

theorem execute_appendRawPage_live {page : PageId} {value version : U64}
    {position : WalPosition} (live : run.model.IsLive)
    (next : run.model.nextPosition = some position.get) :
    ∃ after, (TraceOp.appendRawPage page.get value version).execute run = .ok () after ∧
      after.model.IsLive ∧ after.model.nextPosition = checkedSucc position.get :=
  ⟨_, execute_appendRawPage (appendRawPage_ok_iff.mpr ⟨live, next, rfl⟩), live, rfl⟩

theorem executeFrom_cons {seed : U64} {ops rest : List TraceOp} {op : TraceOp}
    {index : Nat} {after : TraceRun} (executes : op.execute run = .ok () after) :
    executeFrom seed ops index (op :: rest) run =
      executeFrom seed ops (index + 1) rest after := by
  rw [executeFrom, executes]

/-! ## What an execution performs -/

theorem onModel_ok_iff {action : ModelM α} {value : α} :
    onModel action run = .ok value after ↔
      ∃ final, action run.model = .ok value final ∧
        after = { run with model := final } := by
  rw [onModel]
  cases action run.model with
  | ok other final => simp [eq_comm]
  | error error final => simp

/-- What succeeds performs, unless it reports an unapplied repair. -/
theorem perform_of_action {operation : RunOperation} {action : ModelM α}
    {report : α → Response} {value : α} (applies : operation.apply = report <$> action)
    (succeeds : action model = .ok value final)
    (applied : ∀ error, report value ≠ .applied (.unapplied error)) :
    model.perform operation = some final := by
  have responds : operation.apply model = .ok (report value) final := by
    rw [applies]
    exact map_ok_iff.mpr ⟨value, succeeds, rfl⟩
  unfold perform
  rw [responds]
  cases response : report value with
  | applied result =>
      cases result with
      | unapplied error => exact absurd response (applied error)
      | _ => rfl
  | _ => rfl

theorem perform_of_execute_plain {op : TraceOp} {operation : RunOperation}
    (isPlain : op.plain = some operation) (executes : op.execute run = .ok () after) :
    run.model.perform operation = some after.model := by
  cases op <;> cases isPlain
  case allocateEpoch | flushWal | planReplay | repairPages |
    restoreTransactions | reclaim =>
    rcases bind_ok_iff.mp executes with ⟨_, _, acts, done⟩
    rcases onModel_ok_iff.mp acts with ⟨final, succeeds, rfl⟩
    cases done
    exact perform_of_action rfl succeeds nofun
  case publishCheckpoint | select | analyzeRetention =>
    rcases onModel_ok_iff.mp executes with ⟨final, succeeds, rfl⟩
    exact perform_of_action rfl succeeds nofun

theorem transactionAt_ok {index : Nat} {txn : TransactionId}
    (found : transactionAt index run = .ok txn after) : after = run := by
  rw [transactionAt, get_bind] at found
  exact (check_ok_iff.mp found).2.symm

theorem pageIdOf_ok {pageId : U64} {page : PageId}
    (valid : pageIdOf pageId run = .ok page after) :
    after = run := (check_ok_iff.mp valid).2.symm

theorem performs_of_execute (sound : run.model.Sound) {op : TraceOp}
    (executes : op.execute run = .ok () after) :
    ∃ operations, operations.length ≤ 2 ∧ run.model.performAll operations =
      some after.model := by
  have one (operation : RunOperation)
      (performed : run.model.perform operation = some after.model) :
      ∃ operations, operations.length ≤ 2 ∧ run.model.performAll operations =
        some after.model := by
    refine ⟨[operation], Nat.le_succ 1, ?_⟩
    rw [performAll_cons, performed]
    rfl
  cases op with
  | allocateEpoch | flushWal | publishCheckpoint | select | planReplay | repairPages
  | restoreTransactions | analyzeRetention | reclaim =>
      exact one _ (perform_of_execute_plain rfl executes)
  | beginTransaction | crash | reopen | complete =>
      rcases bind_ok_iff.mp executes with ⟨_, _, acts, done⟩
      rcases onModel_ok_iff.mp acts with ⟨final, succeeds, rfl⟩
      cases done
      first
        | exact one .beginTransaction (perform_of_action rfl succeeds nofun)
        | exact one .crash (perform_of_action rfl succeeds nofun)
        | exact one .reopen (perform_of_action rfl succeeds nofun)
        | exact one .complete (perform_of_action rfl succeeds nofun)
  | appendTransactionPage index pageId value version =>
      rcases bind_ok_iff.mp executes with ⟨txn, _, found, rest⟩
      cases transactionAt_ok found
      rcases bind_ok_iff.mp rest with ⟨page, _, valid, acts⟩
      cases pageIdOf_ok valid
      rcases bind_ok_iff.mp acts with ⟨_, _, appends, done⟩
      rcases onModel_ok_iff.mp appends with ⟨final, succeeds, rfl⟩
      cases done
      exact one (.appendTransactionPage txn page value ⟨version⟩)
        (perform_of_action rfl succeeds nofun)
  | appendTransactionCommit index =>
      rcases bind_ok_iff.mp executes with ⟨txn, _, found, acts⟩
      cases transactionAt_ok found
      rcases bind_ok_iff.mp acts with ⟨_, _, appends, done⟩
      rcases onModel_ok_iff.mp appends with ⟨final, succeeds, rfl⟩
      cases done
      exact one (.appendTransactionCommit txn) (perform_of_action rfl succeeds nofun)
  | appendRawPage pageId value version =>
      rcases bind_ok_iff.mp executes with ⟨page, _, valid, acts⟩
      cases pageIdOf_ok valid
      rcases bind_ok_iff.mp acts with ⟨_, _, appends, done⟩
      rcases onModel_ok_iff.mp appends with ⟨final, succeeds, rfl⟩
      cases done
      exact one (.appendRawPage page value ⟨version⟩)
        (perform_of_action rfl succeeds nofun)
  | writePageStore index =>
      rw [TraceOp.execute, get_bind] at executes
      rcases check_bind_ok_iff.mp executes with ⟨position, _, acts⟩
      rcases bind_ok_iff.mp acts with ⟨_, _, writes, done⟩
      rcases onModel_ok_iff.mp writes with ⟨final, succeeds, rfl⟩
      cases done
      exact one (.writePageStore position) (perform_of_action rfl succeeds nofun)
  | repairPagesFault =>
      refine ⟨[], Nat.zero_le _, ?_⟩
      rw [TraceOp.execute, expectRepairFault] at executes
      cases outcome : repairPagesFault run.model with
      | ok value final => exact absurd outcome repairPagesFault_fails
      | error error final =>
          have failed :
              RunOperation.repairPagesFault.apply run.model = .error error final :=
            map_error_iff.mpr outcome
          rw [outcome, sound.unchanged_of_error failed] at executes
          cases error <;> cases executes
          rfl
  | repairPagesAppliedFault =>
      rcases bind_ok_iff.mp executes with ⟨result, _, acts, done⟩
      rcases onModel_ok_iff.mp acts with ⟨final, succeeds, rfl⟩
      cases result with
      | appliedThenError value error =>
          cases done
          exact one .repairPagesAppliedFault (perform_of_action rfl succeeds nofun)
      | unapplied error => cases done
      | ok value => cases done
  | analyzeRetentionExpectStale =>
      refine ⟨[], Nat.zero_le _, ?_⟩
      rw [TraceOp.execute, expectStaleEvidence] at executes
      cases outcome : analyzeRetention run.model with
      | ok value final =>
          rw [outcome] at executes
          cases executes
      | error error final =>
          have failed :
              RunOperation.analyzeRetention.apply run.model = .error error final :=
            map_error_iff.mpr outcome
          rw [outcome, sound.unchanged_of_error failed] at executes
          cases error <;> cases executes
          rfl
  | liveMutationAfterComplete pageId value version =>
      rcases bind_ok_iff.mp executes with ⟨page, _, valid, acts⟩
      cases pageIdOf_ok valid
      rw [get_bind] at acts
      rcases check_bind_ok_iff.mp acts with ⟨counter, _, rest⟩
      rw [set_bind] at rest
      rcases bind_ok_iff.mp rest with ⟨position, _, appends, later⟩
      rcases onModel_ok_iff.mp appends with ⟨middle, appended, rfl⟩
      rcases bind_ok_iff.mp later with ⟨_, _, flushes, done⟩
      rcases onModel_ok_iff.mp flushes with ⟨final, flushed, rfl⟩
      cases done
      have first :
          run.model.perform (.appendRawPage page value ⟨version⟩) = some middle :=
        perform_of_action rfl appended nofun
      have second : middle.perform .flushWal = some final :=
        perform_of_action rfl flushed nofun
      refine ⟨[.appendRawPage page value ⟨version⟩, .flushWal], Nat.le_refl 2, ?_⟩
      rw [performAll_cons, first, Option.bind_some, performAll_cons, second]
      rfl

end Ntsql.Recovery
