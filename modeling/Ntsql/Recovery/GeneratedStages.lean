import Ntsql.Recovery.GeneratedOpening

/-! # The stages of a generated trace

After its publication a generated trace goes through crashes, recoveries and
reclamations. The stages say which operation may come next; the model follows
them, whatever the seed put into the log. -/

namespace Ntsql.Recovery

variable {model final : RecoveryModel} {run : TraceRun} {anchor : CheckpointAnchor}
  {operations : Nat}

open RecoveryModel Operation

inductive Stage
  | live
  | crashed
  | unrecovered
  | selected
  | planned
  | repaired
  | restored
  /-- Complete, with evidence nothing has made stale. -/
  | fresh
  | stale
  | analyzed
  | reclaimed
deriving DecidableEq

namespace Stage

/-- `later`, when the stage is the required one. -/
def moved (required later stage : Stage) : Option Stage :=
  if stage = required then some later else none

theorem moved_eq_some {required later stage reached : Stage} :
    moved required later stage = some reached ↔ stage = required ∧ later = reached := by
  simp [moved]

def next (stage : Stage) : TraceOp → Option Stage
  | .crash => if stage = .crashed then none else some .crashed
  | .reopen => moved .crashed .unrecovered stage
  | .select => moved .unrecovered .selected stage
  | .planReplay => moved .selected .planned stage
  | .repairPagesFault => moved .planned .planned stage
  | .repairPages | .repairPagesAppliedFault => moved .planned .repaired stage
  | .restoreTransactions => moved .repaired .restored stage
  | .complete => moved .restored .fresh stage
  | .liveMutationAfterComplete pageId _ _ =>
      if pageId = 0 then none else moved .fresh .stale stage
  | .analyzeRetentionExpectStale => moved .stale .stale stage
  | .analyzeRetention => moved .fresh .analyzed stage
  | .reclaim => moved .analyzed .reclaimed stage
  | _ => none

def Describes : Stage → TraceRun → Prop
  | .live, run => run.model.phase = .live
  | .crashed, run => run.model.phase = .crashed
  | .unrecovered, run => run.model.phase = .unrecovered
  | .selected, run => run.model.phase = .selected
  | .planned, run => run.model.phase = .replayPlanned
  | .repaired, run => run.model.phase = .pagesRepaired
  | .restored, run => run.model.phase = .transactionsRestored
  | .fresh, run => run.model.phase = .completeLive ∧
      (∃ evidence, run.model.HasFresh evidence) ∧
      run.pageVersionCounter = 0
  | .stale, run => run.model.phase = .completeLive ∧
      ∃ evidence reason, run.model.completionEvidence = some evidence ∧
        evidence.stale = true ∧
        evidence.staleReason = some reason
  | .analyzed, run => ∃ checkpoint, run.model.checkpointSlot = some checkpoint ∧
      run.model.AnalyzedFor checkpoint
  | .reclaimed, run => run.model.phase = .reclaimed

theorem Describes.running {stage : Stage} (describes : stage.Describes run)
    (other : stage ≠ .crashed) : run.model.phase ≠ .crashed := by
  intro crashed
  cases stage with
  | crashed => exact other rfl
  | fresh | stale => cases crashed.symm.trans describes.1
  | analyzed =>
      rcases describes with ⟨_, _, analyzed⟩
      cases crashed.symm.trans analyzed.phase
  | live | unrecovered | selected | planned | repaired | restored | reclaimed =>
      cases crashed.symm.trans describes

end Stage

/-- The model after the publication, with little spent. -/
structure RecoveryModel.Standing (anchor : CheckpointAnchor) (operations : Nat)
    (model : RecoveryModel) : Prop where
  kept : model.Kept anchor
  flushed : model.AllFlushed
  spent : model.Spent operations

namespace RecoveryModel.Standing

theorem perform (standing : model.Standing anchor operations) {operation : RunOperation}
    (keepsCheckpoint : operation.keepsCheckpoint = true)
    (appends : operation.appends = false) (room : operations + 2 < 2 ^ 64)
    (performed : model.perform operation = some final) :
    final.Standing anchor (operations + 1) := by
  have sound := standing.kept.openable.sound
  rcases (perform_eq_some_iff sound).mp performed with ⟨_, _, effect⟩
  exact ⟨standing.kept.effect keepsCheckpoint effect,
    standing.flushed.effect sound appends effect, standing.spent.effect sound room effect⟩

theorem mono (standing : model.Standing anchor operations) {more : Nat}
    (le : operations ≤ more) :
    model.Standing anchor more :=
  ⟨standing.kept, standing.flushed, standing.spent.mono le⟩

end RecoveryModel.Standing

structure At (anchor : CheckpointAnchor) (operations : Nat) (stage : Stage)
    (run : TraceRun) : Prop where
  standing : run.model.Standing anchor operations
  stage : stage.Describes run

namespace At

/-- The operation executes and leads to the stage. -/
def Leads (anchor : CheckpointAnchor) (operations : Nat) (later : Stage) (op : TraceOp)
    (run : TraceRun) : Prop :=
  ∃ after, op.execute run = .ok () after ∧ At anchor (operations + 2) later after

theorem leads {op : TraceOp} {operation : RunOperation} {later : Stage} {after : TraceRun}
    (standing : run.model.Standing anchor operations)
    (keepsCheckpoint : operation.keepsCheckpoint = true)
    (appends : operation.appends = false) (room : operations + 3 < 2 ^ 64)
    (performed : run.model.perform operation = some after.model)
    (executed : op.execute run = .ok () after) (describes : later.Describes after) :
    Leads anchor operations later op run :=
  ⟨after, executed, ⟨(standing.perform keepsCheckpoint appends (by omega) performed).mono
    (Nat.le_succ _), describes⟩⟩

variable (room : operations + 3 < 2 ^ 64)

include room

theorem crash {stage : Stage} (isAt : At anchor operations stage run)
    (other : stage ≠ .crashed) :
    Leads anchor operations .crashed .crash run := by
  have performed := (perform_crash_iff isAt.standing.kept.openable.sound).mpr
    ⟨isAt.stage.running other, rfl⟩
  rcases action_of_perform rfl performed with ⟨_, succeeds⟩
  exact leads isAt.standing rfl rfl room performed (execute_crash succeeds) rfl

theorem reopen (isAt : At anchor operations .crashed run) :
    Leads anchor operations .unrecovered .reopen run := by
  have kept := isAt.standing.kept
  rcases Spent.checkedSucc_exists isAt.standing.spent.lineage (by omega) with
    ⟨lineage, next⟩
  have performed := (perform_reopen_iff kept.openable).mpr
    ⟨isAt.stage, kept.fits, ⟨lineage⟩,
      Option.map_eq_some_iff.mpr ⟨lineage, next, rfl⟩, rfl⟩
  rcases action_of_perform rfl performed with ⟨_, succeeds⟩
  exact leads isAt.standing rfl rfl room performed (execute_reopen succeeds) rfl

theorem select (isAt : At anchor operations .unrecovered run) :
    Leads anchor operations .selected .select run := by
  have kept := isAt.standing.kept
  have performed := (perform_select_iff kept.openable).mpr ⟨isAt.stage, kept.fits, rfl⟩
  exact leads isAt.standing rfl rfl room performed (execute_plain rfl performed) rfl

theorem planReplay (isAt : At anchor operations .selected run) :
    Leads anchor operations .planned .planReplay run := by
  have performed := (perform_planReplay_iff isAt.standing.kept.openable.sound).mpr
    ⟨isAt.stage, rfl⟩
  exact leads isAt.standing rfl rfl room performed (execute_plain rfl performed) rfl

theorem repairPages (isAt : At anchor operations .planned run) :
    Leads anchor operations .repaired .repairPages run := by
  have performed := (perform_repair_iff isAt.standing.kept.openable.sound (.inl rfl)).mpr
    ⟨isAt.stage, rfl⟩
  exact leads isAt.standing rfl rfl room performed (execute_plain rfl performed) rfl

theorem restoreTransactions (isAt : At anchor operations .repaired run) :
    Leads anchor operations .restored .restoreTransactions run := by
  have sound := isAt.standing.kept.openable.sound
  obtain ⟨epoch, after⟩ : ∃ epoch, epochAfter run.model.epochHighWater = some epoch := by
    cases highWater : run.model.epochHighWater with
    | none => exact ⟨1, rfl⟩
    | some epoch =>
        exact Spent.checkedSucc_exists
          (isAt.standing.spent.epoch epoch highWater) (by omega)
  have performed :=
    (perform_restoreTransactions_iff sound).mpr ⟨isAt.stage, epoch, after, rfl⟩
  exact leads isAt.standing rfl rfl room performed (execute_plain rfl performed) rfl

theorem complete (isAt : At anchor operations .restored run) :
    Leads anchor operations .fresh .complete run := by
  have performed :=
    (perform_complete_iff isAt.standing.kept.openable.sound).mpr ⟨isAt.stage, rfl⟩
  rcases action_of_perform rfl performed with ⟨_, succeeds⟩
  exact leads isAt.standing rfl rfl room performed (execute_complete succeeds)
    ⟨rfl, ⟨_, rfl, rfl⟩, rfl⟩

omit room in
theorem repairPagesFault (isAt : At anchor operations .planned run) :
    Leads anchor operations .planned .repairPagesFault run := by
  have phase : run.model.requirePhase [.replayPlanned] "repair_pages_fault" = .ok () :=
    requirePhase_ok_iff.mpr (List.mem_singleton.mpr isAt.stage)
  have faults : Recovery.repairPagesFault run.model = .error .repairFault run.model := by
    rw [Recovery.repairPagesFault, get_bind, check_bind_of_ok phase]
    rfl
  refine ⟨run, ?_, isAt.standing.mono (Nat.le_add_right _ _), isAt.stage⟩
  rw [TraceOp.execute, expectRepairFault, faults]

theorem repairPagesAppliedFault (isAt : At anchor operations .planned run) :
    Leads anchor operations .repaired .repairPagesAppliedFault run := by
  have sound := isAt.standing.kept.openable.sound
  have performed := (perform_repair_iff sound (.inr rfl)).mpr ⟨isAt.stage, rfl⟩
  rcases sound.repairPagesInner isAt.stage with ⟨count, repaired⟩
  have succeeds : onModel Recovery.repairPagesAppliedFault run =
      .ok (.appliedThenError count .repairFault)
        { run with model := run.model.afterRepair } :=
    onModel_ok (repairPagesAppliedFault_of_inner isAt.stage repaired)
  have executed : TraceOp.repairPagesAppliedFault.execute run =
      .ok () { run with model := run.model.afterRepair } := by
    rw [TraceOp.execute, expectAppliedFault, bind_of_ok succeeds]
    rfl
  exact leads isAt.standing rfl rfl room performed executed rfl

theorem liveMutation {pageId value version : U64} (isAt : At anchor operations .fresh run)
    (valid : pageId ≠ 0) :
    Leads anchor operations .stale
      (.liveMutationAfterComplete pageId value version) run := by
  rcases isAt.stage with ⟨completed, ⟨evidence, fresh⟩, unversioned⟩
  have sound := isAt.standing.kept.openable.sound
  rcases exists_mutation isAt.standing.spent sound.guarded (.inr completed)
      ⟨pageId, valid⟩ value ⟨version⟩ with
    ⟨final, mutation⟩
  rcases mutation.steps with ⟨position, middle, flushed, appends, _, flushes, _⟩
  have counts : checkedSucc run.pageVersionCounter = some 1 := by
    rw [unversioned]
    rfl
  refine ⟨_, execute_liveMutation counts appends flushes,
    ⟨mutation.kept isAt.standing.kept,
    mutation.allFlushed sound, mutation.spent isAt.standing.spent sound room⟩, ?_⟩
  refine ⟨mutation.phase.trans completed, { evidence with
    stale := true
    staleReason := some "raw page appended" }, _, ?_, rfl, rfl⟩
  rw [mutation.evidence, markCompletionStale, fresh.recorded]
  rfl

omit room in
theorem analyzeRetentionExpectStale (isAt : At anchor operations .stale run) :
    Leads anchor operations .stale .analyzeRetentionExpectStale run := by
  rcases isAt.stage with ⟨completed, evidence, reason, recorded, stale, isReason⟩
  have phase : run.model.requirePhase [.completeLive] "analyze_retention" = .ok () :=
    requirePhase_ok_iff.mpr (List.mem_singleton.mpr completed)
  have refuses :
      run.model.requireFreshEvidence = .error (.staleCompletionEvidence reason) := by
    rw [requireFreshEvidence, recorded]
    change (if evidence.stale = true then _ else _) = _
    rw [if_pos stale, isReason]
    rfl
  have fails : Recovery.analyzeRetention run.model =
      .error (.staleCompletionEvidence reason) run.model := by
    rw [Recovery.analyzeRetention, get_bind, check_bind_of_ok phase]
    exact bind_error_iff.mpr (.inl (check_error_iff.mpr ⟨refuses, rfl⟩))
  refine ⟨run, ?_, isAt.standing.mono (Nat.le_add_right _ _), isAt.stage⟩
  rw [TraceOp.execute, expectStaleEvidence, fails]

theorem analyzeRetention (isAt : At anchor operations .fresh run) :
    Leads anchor operations .analyzed .analyzeRetention run := by
  rcases isAt.stage with ⟨completed, ⟨evidence, fresh⟩, _⟩
  have sound := isAt.standing.kept.openable.sound
  rcases isAt.standing.kept.slot with ⟨checkpoint, isSlot, keeps⟩
  have retainable := isAt.standing.kept.retainable keeps
  have settled := sound.phases.settled (.inl completed) evidence fresh
  rcases perform_analyzeRetention sound completed fresh isSlot retainable with
    ⟨floor, isFloor, performed⟩
  exact leads isAt.standing rfl rfl room performed (execute_plain rfl performed)
    ⟨checkpoint, isSlot, rfl, settled.selectedSlot.trans isSlot, floor, isFloor, rfl⟩

theorem reclaim (isAt : At anchor operations .analyzed run) :
    Leads anchor operations .reclaimed .reclaim run := by
  rcases isAt.stage with ⟨checkpoint, isSlot, analyzed⟩
  have kept := isAt.standing.kept
  rcases kept.slot with ⟨other, isOther, keeps⟩
  cases isSlot.symm.trans isOther
  rcases Spent.checkedSucc_exists isAt.standing.spent.generation (by omega) with
    ⟨generation, next⟩
  have advances : run.model.walGeneration.checkedNext = some ⟨generation⟩ :=
    Option.map_eq_some_iff.mpr ⟨generation, next, rfl⟩
  rcases perform_reclaim kept.openable analyzed isSlot (kept.retainable keeps)
      isAt.standing.flushed advances with
    ⟨_, replacement, _, performed⟩
  exact leads isAt.standing rfl rfl room performed (execute_plain rfl performed) rfl

theorem step {stage later : Stage} {op : TraceOp} (isAt : At anchor operations stage run)
    (moves : stage.next op = some later) : Leads anchor operations later op run := by
  cases op with
  | crash =>
      rcases Option.ite_none_left_eq_some.mp moves with ⟨running, isCrashed⟩
      cases isCrashed
      exact isAt.crash room running
  | reopen =>
      rcases Stage.moved_eq_some.mp moves with ⟨rfl, rfl⟩
      exact isAt.reopen room
  | select =>
      rcases Stage.moved_eq_some.mp moves with ⟨rfl, rfl⟩
      exact isAt.select room
  | planReplay =>
      rcases Stage.moved_eq_some.mp moves with ⟨rfl, rfl⟩
      exact isAt.planReplay room
  | repairPagesFault =>
      rcases Stage.moved_eq_some.mp moves with ⟨rfl, rfl⟩
      exact isAt.repairPagesFault
  | repairPages =>
      rcases Stage.moved_eq_some.mp moves with ⟨rfl, rfl⟩
      exact isAt.repairPages room
  | repairPagesAppliedFault =>
      rcases Stage.moved_eq_some.mp moves with ⟨rfl, rfl⟩
      exact isAt.repairPagesAppliedFault room
  | restoreTransactions =>
      rcases Stage.moved_eq_some.mp moves with ⟨rfl, rfl⟩
      exact isAt.restoreTransactions room
  | complete =>
      rcases Stage.moved_eq_some.mp moves with ⟨rfl, rfl⟩
      exact isAt.complete room
  | liveMutationAfterComplete pageId value version =>
      rcases Option.ite_none_left_eq_some.mp moves with ⟨valid, isMoved⟩
      rcases Stage.moved_eq_some.mp isMoved with ⟨rfl, rfl⟩
      exact isAt.liveMutation room valid
  | analyzeRetentionExpectStale =>
      rcases Stage.moved_eq_some.mp moves with ⟨rfl, rfl⟩
      exact isAt.analyzeRetentionExpectStale
  | analyzeRetention =>
      rcases Stage.moved_eq_some.mp moves with ⟨rfl, rfl⟩
      exact isAt.analyzeRetention room
  | reclaim =>
      rcases Stage.moved_eq_some.mp moves with ⟨rfl, rfl⟩
      exact isAt.reclaim room
  | allocateEpoch | beginTransaction | appendTransactionPage | appendTransactionCommit
  | appendRawPage | flushWal | writePageStore | publishCheckpoint =>
      cases moves

end At

def Stage.through (stage : Stage) (ops : List TraceOp) : Option Stage :=
  ops.foldlM Stage.next stage

theorem At.executes {seed : U64} {ops rest : List TraceOp} {index : Nat}
    {stage last : Stage} (isAt : At anchor operations stage run)
    (moves : stage.through rest = some last)
    (room : operations + 2 * rest.length + 1 < 2 ^ 64) :
    ∃ after, executeFrom seed ops index rest run = .ok after := by
  induction rest generalizing operations index stage run with
  | nil => exact ⟨run, rfl⟩
  | cons op rest induction =>
      rw [List.length_cons] at room
      rw [Stage.through, List.foldlM_cons] at moves
      rcases Option.bind_eq_some_iff.mp moves with ⟨later, first, others⟩
      rcases isAt.step (by omega) first with ⟨middle, executed, stillAt⟩
      rw [executeFrom_cons executed]
      exact induction stillAt others (by omega)

end Ntsql.Recovery
