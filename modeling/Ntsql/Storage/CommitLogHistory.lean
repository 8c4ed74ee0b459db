import Ntsql.Storage.CommitLogReclamation

/-! # Histories of the commit log

A log is appended to, flushed and reclaimed in any order. Its selected file
always holds the log, and no counter ever goes back. -/

namespace Ntsql.Storage.FileCommitLog

open FrameLog

variable {width : Nat}

inductive LogCall where
  | operation (operation : LogOperation)
  | reclaim (permit : WalReclamationPermit)

def perform (log : FileCommitLog width) : LogCall → FileCommitLog width
  | .operation operation => log.after operation
  | .reclaim permit => Operation.leaves (reclaimRestartWalPrefix permit log)

/-- Any permit may be presented. -/
def Authorized (log : FileCommitLog width) : LogCall → Prop
  | .operation operation => log.Permitted operation
  | .reclaim _ => True

instance (log : FileCommitLog width) : (call : LogCall) → Decidable (log.Authorized call)
  | .operation operation => inferInstanceAs (Decidable (log.Permitted operation))
  | .reclaim _ => isTrue trivial

/-- What a call reports of the reclamation it made. -/
def reclamation (log : FileCommitLog width) :
    LogCall → Option WalReclamationEffectObservation
  | .operation _ => none
  | .reclaim permit =>
      match reclaimRestartWalPrefix permit log with
      | .ok observation _ => some observation
      | .error _ _ => none

/-- The position of the record that a call added. -/
def issuedPosition (log : FileCommitLog width) : LogCall → Option U64
  | .operation operation =>
      (log.after operation).records[log.records.length]?.map fun record =>
        record.position.get
  | .reclaim _ => none

def issuedEpoch (log : FileCommitLog width) : LogCall → Option U64
  | .operation .allocateTransactionEpochFrame =>
      match allocateTransactionEpochFrame log with
      | .ok (epoch, _) _ => some epoch.get
      | .error _ _ => none
  | _ => none

/-- The log a reclamation leaves when it succeeds. -/
structure ReclaimedFrom (log : FileCommitLog width) (permit : WalReclamationPermit)
    (next : FileCommitLog width) : Prop where
  healthy : next.writer.poisoned = false
  generation : next.generation.val = log.generation.val + 1
  records : next.records = log.records.filter fun record =>
    ∃ floor ∈ permit.retainedFirstLogicalRecord, floor.get ≤ record.position.get
  durable : next.durableLen = next.records.length
  retainedFirst : next.reclaimedRetainedFirst = permit.retainedFirstLogicalRecord
  logicalHighWater : next.reclaimedLogicalHighWater = log.durablePosition
  epochHighWater : next.reclaimedAllocatedEpochHighWater = log.allocatedEpochHighWater
  anchor : next.selectedCheckpointAnchor = some permit.selectedCheckpointAnchor
  identity : next.persistentId = log.persistentId ∧
    next.databaseFileIdentity = log.databaseFileIdentity ∧ next.lineage = log.lineage
  nextPosition : next.nextPosition = log.nextPosition
  nextEpoch : next.nextEpoch = log.nextEpoch

/-- Some header and groups account for the file and the log. -/
def Accounted (layout : PageLayout) (log : FileCommitLog width) : Prop :=
  ∃ header groups, Wrote layout log header groups

section Steps

variable {layout : PageLayout} {log : FileCommitLog width} {header : LogFileHeader}
  {groups : List (LogGroup width)} {permit : WalReclamationPermit}

theorem Wrote.reclaimedFrom (wrote : Wrote layout log header groups)
    {observation : WalReclamationEffectObservation} {next : FileCommitLog width}
    (reclaimed : reclaimRestartWalPrefix permit log = .ok observation next) :
    ReclaimedFrom log permit next := by
  have effect := reclaimRestartWalPrefix_effect log permit
  rw [reclaimed] at effect
  cases effect with
  | reclaimed plan isPlan script armedFault reliable =>
      rcases planned_of_ok isPlan with ⟨other, start, planned⟩
      have pages := supportsPages_of_reclaimable planned.reclaimable
      have same : other = layout :=
        Except.ok.inj (planned.width_eq.symm.trans (wrote.writes pages))
      rw [same] at planned
      exact {
        healthy := rfl
        generation := checkedSucc_eq_some.mp planned.generation
        records := wrote.retained_eq_filter planned
        durable := rfl
        retainedFirst := planned.retainedFirst
        logicalHighWater := planned.frontier
        epochHighWater := planned.allocated.symm
        anchor := congrArg some planned.anchor
        identity := ⟨rfl, rfl, rfl⟩
        nextPosition := wrote.adopt_nextPosition planned
        nextEpoch := rfl }

theorem Wrote.perform_reclaim (wrote : Wrote layout log header groups) :
    Accounted layout (log.perform (.reclaim permit)) ∧
      (log.perform (.reclaim permit)).nextPosition = log.nextPosition ∧
      (log.perform (.reclaim permit)).nextEpoch = log.nextEpoch ∧
      (log.perform (.reclaim permit)).generation.val =
        log.generation.val + (log.reclamation (.reclaim permit)).toList.length := by
  have effect := reclaimRestartWalPrefix_effect log permit
  have from_ok := @Wrote.reclaimedFrom width layout log header groups permit wrote
  rw [perform, reclamation]
  generalize reclaimRestartWalPrefix permit log = result at effect from_ok ⊢
  cases effect with
  | refused error => exact ⟨⟨header, groups, wrote⟩, rfl, rfl, rfl⟩
  | unwritten error script armedFault =>
      exact ⟨⟨header, groups, { wrote with healthy := nofun }⟩, rfl, rfl, rfl⟩
  | unpublished plan planned error script armedFault =>
      rcases wrote.reclaimed planned with ⟨next, _, unpublished, _⟩
      exact ⟨⟨next, _, unpublished script armedFault⟩, rfl, rfl, rfl⟩
  | reclaimed plan planned script armedFault reliable =>
      rcases wrote.reclaimed planned with ⟨next, _, _, reclaimed⟩
      have continues := from_ok rfl
      exact ⟨⟨next, _, reclaimed script armedFault⟩, continues.nextPosition,
        continues.nextEpoch, continues.generation⟩

theorem perform_accounted {call : LogCall} (accounted : Accounted layout log)
    (authorized : log.Authorized call) : Accounted layout (log.perform call) := by
  rcases accounted with ⟨header, groups, wrote⟩
  cases call with
  | operation operation => exact ⟨header, _, wrote.after authorized⟩
  | reclaim permit => exact wrote.perform_reclaim.1

/-! ## Counters -/

def PositionAhead (log : FileCommitLog width) (position : U64) : Prop :=
  ∃ next ∈ log.nextPosition, next ≤ position

def EpochAhead (log : FileCommitLog width) (epoch : U64) : Prop :=
  ∃ next ∈ log.nextEpoch, next.get ≤ epoch

theorem counters_cases {offer : Option (LogGroup width)} {final : FileCommitLog width}
    (effect : OperationEffect layout log offer final) :
    (final.records = log.records ∧ final.nextPosition = log.nextPosition ∨
        ∃ record : FileLogRecord width, final.records = log.records ++ [record] ∧
          log.nextPosition = some record.position.get ∧
          final.nextPosition = checkedSucc record.position.get) ∧
      (final.nextEpoch = log.nextEpoch ∨ ∃ epoch, log.nextEpoch = some epoch ∧
        final.nextEpoch = NonZeroU64.checkedNext epoch.get) ∧
      final.generation = log.generation := by
  cases effect with
  | kept armedFault => exact ⟨.inl ⟨rfl, rfl⟩, .inl rfl, rfl⟩
  | tried group final isOffer begins effect =>
      cases effect with
      | refused script armedFault reliable => exact ⟨.inl ⟨rfl, rfl⟩, .inl rfl, rfl⟩
      | torn written script armedFault isHealthy failing =>
          exact ⟨.inl ⟨rfl, rfl⟩, .inl rfl, rfl⟩
      | appended script armedFault isHealthy reliable =>
          cases group with
          | epoch epoch => exact ⟨.inl ⟨rfl, rfl⟩, .inr ⟨epoch, begins, rfl⟩, rfl⟩
          | record record => exact ⟨.inr ⟨record, rfl, begins.2.1, rfl⟩, .inl rfl, rfl⟩
          | marker position => exact ⟨.inl ⟨rfl, rfl⟩, .inl rfl, rfl⟩

theorem PositionAhead.of_succ {final : FileCommitLog width} {previous later : U64}
    (counter : final.nextPosition = checkedSucc previous)
    (ahead : final.PositionAhead later) :
    previous < later := by
  rcases ahead with ⟨next, isNext, above⟩
  have advanced := lt_of_checkedSucc (counter.symm.trans isNext)
  exact advanced.trans_le above

theorem EpochAhead.of_next {final : FileCommitLog width} {previous : NonZeroU64}
    {later : U64} (counter : final.nextEpoch = NonZeroU64.checkedNext previous.get)
    (ahead : final.EpochAhead later) : previous.get < later := by
  rcases ahead with ⟨next, isNext, above⟩
  have advanced := NonZeroU64.checkedNext_eq_some.mp (counter.symm.trans isNext)
  refine lt_of_lt_of_le ?_ above
  rw [Fin.lt_def]
  omega

theorem position_behind {call : LogCall} (accounted : Accounted layout log) {later : U64}
    (ahead : (log.perform call).PositionAhead later) : log.PositionAhead later := by
  rcases accounted with ⟨header, groups, wrote⟩
  cases call with
  | operation operation =>
      rcases (counters_cases (log.after_effect wrote.writes operation)).1 with
        ⟨_, same⟩ | ⟨record, _, next, counter⟩
      · rw [PositionAhead, ← same]
        exact ahead
      · exact ⟨record.position.get, next, (ahead.of_succ counter).le⟩
  | reclaim permit =>
      rw [PositionAhead, ← (wrote.perform_reclaim).2.1]
      exact ahead

theorem position_issued {call : LogCall} (accounted : Accounted layout log)
    {position : U64} (issued : position ∈ log.issuedPosition call) :
    log.PositionAhead position ∧
      ∀ later, (log.perform call).PositionAhead later → position < later := by
  rcases accounted with ⟨header, groups, wrote⟩
  cases call with
  | reclaim permit => cases issued
  | operation operation =>
      rw [issuedPosition] at issued
      rcases (counters_cases (log.after_effect wrote.writes operation)).1 with
        ⟨same, _⟩ | ⟨record, appended, next, counter⟩
      · rw [same, List.getElem?_eq_none le_rfl] at issued
        cases issued
      · rw [appended, List.getElem?_concat_length] at issued
        cases issued
        exact ⟨⟨_, next, le_rfl⟩, fun later ahead => ahead.of_succ counter⟩

theorem allocated_of_ok {epoch : NonZeroU64} {lineage : LogLineage}
    {final : FileCommitLog width}
    (allocates : allocateTransactionEpochFrame log = .ok (epoch, lineage) final) :
    log.nextEpoch = some epoch ∧ final.nextEpoch = NonZeroU64.checkedNext epoch.get := by
  rw [allocateTransactionEpochFrame, Operation.get_bind, Operation.check_bind_ok_iff]
    at allocates
  rcases allocates with ⟨_, _, allocates⟩
  rcases Operation.check_bind_ok_iff.mp allocates with ⟨next, isNext, allocates⟩
  rcases Operation.bind_ok_iff.mp allocates with ⟨_, written, _, allocates⟩
  rcases Operation.bind_ok_iff.mp allocates with ⟨_, synced, _, allocates⟩
  rw [Operation.modify_bind, Operation.pure_apply] at allocates
  cases allocates
  exact ⟨(okOr_ok_iff _ _ _).mp isNext, rfl⟩

theorem epoch_behind {call : LogCall} (accounted : Accounted layout log) {later : U64}
    (ahead : (log.perform call).EpochAhead later) : log.EpochAhead later := by
  rcases accounted with ⟨header, groups, wrote⟩
  cases call with
  | operation operation =>
      rcases (counters_cases (log.after_effect wrote.writes operation)).2.1 with
        same | ⟨epoch, next, counter⟩
      · rw [EpochAhead, ← same]
        exact ahead
      · exact ⟨epoch, next, (ahead.of_next counter).le⟩
  | reclaim permit =>
      rw [EpochAhead, ← (wrote.perform_reclaim).2.2.1]
      exact ahead

theorem epoch_issued {call : LogCall} {epoch : U64}
    (issued : epoch ∈ log.issuedEpoch call) :
    log.EpochAhead epoch ∧ ∀ later, (log.perform call).EpochAhead later →
      epoch < later := by
  cases call with
  | reclaim permit => cases issued
  | operation operation =>
      cases operation with
      | appendCommit transactionId => cases issued
      | appendPage page => cases issued
      | appendTransactionPage transactionId page => cases issued
      | flushThrough position => cases issued
      | armFault fault => cases issued
      | allocateTransactionEpochFrame =>
          rw [issuedEpoch] at issued
          cases allocates : allocateTransactionEpochFrame log with
          | error error final =>
              rw [allocates] at issued
              cases issued
          | ok result final =>
              rcases allocated_of_ok allocates with ⟨next, counter⟩
              rw [allocates] at issued
              cases issued
              refine ⟨⟨_, next, le_rfl⟩, fun later ahead => ?_⟩
              rw [perform, after, allocates] at ahead
              exact ahead.of_next counter

end Steps

/-! ## Whole histories -/

section Histories

variable {layout : PageLayout} {initial : FileCommitLog width} {script : List IoResult}

theorem accounted_created (created : Created layout script initial) :
    Accounted layout initial := by
  rcases wrote_created created with ⟨header, _, wrote⟩
  exact ⟨header, [], wrote⟩

theorem accounted_run (calls : List LogCall) (accounted : Accounted layout initial)
    (authorized : Execution.Respects perform Authorized initial calls) :
    Accounted layout (Execution.run perform initial calls) :=
  Execution.invariant_run (fun _ _ => perform_accounted) calls authorized accounted

theorem generation_run (calls : List LogCall) (accounted : Accounted layout initial)
    (authorized : Execution.Respects perform Authorized initial calls) :
    (Execution.run perform initial calls).generation.val =
      initial.generation.val +
        (Execution.emitted perform reclamation initial calls).length := by
  have preserved (log : FileCommitLog width) (made : List WalReclamationEffectObservation)
      (call : LogCall)
      (holds : Accounted layout log ∧
        log.generation.val = initial.generation.val + made.length)
      (authorized : log.Authorized call) :
      Accounted layout (log.perform call) ∧ (log.perform call).generation.val =
        initial.generation.val + (made ++ (log.reclamation call).toList).length := by
    refine ⟨perform_accounted holds.1 authorized, ?_⟩
    rcases holds with ⟨⟨header, groups, wrote⟩, count⟩
    cases call with
    | operation operation =>
        have same := (counters_cases (log.after_effect wrote.writes operation)).2.2
        rw [perform, same, count, reclamation, Option.toList_none, List.append_nil]
    | reclaim permit =>
        rw [wrote.perform_reclaim.2.2.2, count, List.length_append, Nat.add_assoc]
  have started :
      Accounted layout initial ∧ initial.generation.val = initial.generation.val +
      ([] : List WalReclamationEffectObservation).length := ⟨accounted, rfl⟩
  exact (Execution.invariant_emitted preserved calls authorized started).2

theorem positions_increase (calls : List LogCall) (accounted : Accounted layout initial)
    (authorized : Execution.Respects perform Authorized initial calls) :
    (Execution.emitted perform issuedPosition initial calls).Pairwise (· < ·) :=
  Execution.emitted_increasing (Accounted layout) PositionAhead
    (fun _ _ => perform_accounted)
    (fun _ _ _ accounted _ issued => (position_issued accounted issued).1)
    (fun _ _ _ accounted _ ahead => position_behind accounted ahead)
    (fun _ _ _ later accounted _ issued ahead =>
      (position_issued accounted issued).2 later ahead) calls authorized accounted

theorem epochs_increase (calls : List LogCall) (accounted : Accounted layout initial)
    (authorized : Execution.Respects perform Authorized initial calls) :
    (Execution.emitted perform issuedEpoch initial calls).Pairwise (· < ·) :=
  Execution.emitted_increasing (Accounted layout) EpochAhead
    (fun _ _ => perform_accounted)
    (fun _ _ _ _ _ issued => (epoch_issued issued).1)
    (fun _ _ _ accounted _ ahead => epoch_behind accounted ahead)
    (fun _ _ _ later _ _ issued ahead => (epoch_issued issued).2 later ahead)
    calls authorized accounted

def Reclaims (log : FileCommitLog width) (call : LogCall) : Prop :=
  log.Authorized call ∧ ∀ permit, call = .reclaim permit → (log.reclamation call).isSome

theorem steady_history (calls : List LogCall) (accounted : Accounted layout initial)
    (succeeds : Execution.Respects perform Reclaims initial calls)
    (steady : initial.writer.Reliable ∧ initial.writer.poisoned = false) :
    (Execution.run perform initial calls).writer.poisoned = false := by
  have preserved (log : FileCommitLog width) (call : LogCall)
      (holds : Accounted layout log ∧ log.writer.Reliable ∧ log.writer.poisoned = false)
      (succeeds : log.Reclaims call) :
      Accounted layout (log.perform call) ∧ (log.perform call).writer.Reliable ∧
        (log.perform call).writer.poisoned = false := by
    rcases holds with ⟨accounted, steady⟩
    refine ⟨perform_accounted accounted succeeds.1, ?_⟩
    rcases accounted with ⟨header, groups, wrote⟩
    cases call with
    | operation operation =>
        exact steady_effect (log.after_effect wrote.writes operation) steady
    | reclaim permit =>
        have reclaims := succeeds.2 permit rfl
        have effect := reclaimRestartWalPrefix_effect log permit
        rw [reclamation] at reclaims
        rw [perform]
        generalize reclaimRestartWalPrefix permit log = result at effect reclaims ⊢
        cases effect with
        | refused error => cases reclaims
        | unwritten error script armedFault => cases reclaims
        | unpublished plan planned error script armedFault => cases reclaims
        | reclaimed plan planned script armedFault reliable =>
            exact ⟨reliable steady.1, rfl⟩
  exact (Execution.invariant_run preserved calls succeeds ⟨accounted, steady⟩).2.2

/-- Every history of a new log, reclamations included, leaves one that reopens
exactly. Each successful reclamation keeps the records from the floor on and is
counted by the generation, and no position or epoch is issued twice. -/
theorem reclaimed_log_reopens_exactly (created : Created layout script initial)
    (calls : List LogCall)
    (authorized : Execution.Respects perform Authorized initial calls) :
    let final := Execution.run perform initial calls
    ReopensExactly layout final ∧
      (script = [] → Execution.Respects perform Reclaims initial calls →
        final.writer.poisoned = false) ∧
      (∀ permit observation next, reclaimRestartWalPrefix permit final =
        .ok observation next →
        ReclaimedFrom final permit next ∧ ReopensExactly layout next) ∧
      final.generation.val =
        (Execution.emitted perform reclamation initial calls).length ∧
      (Execution.emitted perform issuedPosition initial calls).Pairwise (· < ·) ∧
      (Execution.emitted perform issuedEpoch initial calls).Pairwise (· < ·) := by
  intro final
  have accounted := accounted_created created
  rcases accounted_run calls accounted authorized with ⟨header, groups, wrote⟩
  refine ⟨wrote.reopens, ?_, ?_, ?_, positions_increase calls accounted authorized,
    epochs_increase calls accounted authorized⟩
  · intro reliable succeeds
    exact steady_history calls accounted succeeds
      ⟨created.fresh.1.trans reliable, created.fresh.2.1⟩
  · intro permit observation next reclaimed
    refine ⟨wrote.reclaimedFrom reclaimed, ?_⟩
    have accounted : Accounted layout (final.perform (.reclaim permit)) :=
      wrote.perform_reclaim.1
    rw [perform, reclaimed] at accounted
    rcases accounted with ⟨_, _, later⟩
    exact later.reopens
  · have counted := generation_run calls accounted authorized
    rw [created.fresh.2.2, Fin.val_zero, Nat.zero_add] at counted
    exact counted

end Histories

/-- Reclaiming a log of one commit with nothing retained, then committing again. -/
theorem reclaimed_log_of_two_commits_reopens :
    ∃ initial : FileCommitLog 2, createNewTransactionPageCapable 2 .min [] = .ok initial ∧
      let permit : WalReclamationPermit := {
        persistentLogId := .min
        lineage := .persistent .min
        durableFrontier := some ⟨.persistent .min, 1⟩
        retainedFirstLogicalRecord := none
        allocatedEpochHighWater := .min
        physicalFormatVersion := FORMAT_VERSION_V3
        sourceGeneration := 0
        selectedCheckpointAnchor := (1, 9)
        anchorVersion_ne_zero := by decide }
      let calls : List LogCall :=
        [.operation .allocateTransactionEpochFrame, .operation
          (.appendCommit ⟨.min, .min⟩),
          .operation (.flushThrough ⟨.persistent .min, 1⟩), .reclaim permit,
          .operation .allocateTransactionEpochFrame,
            .operation (.appendCommit ⟨⟨2, by decide⟩, .min⟩)]
      let final := Execution.run perform initial calls
      final.generation = 1 ∧ ReopensExactly ⟨2, 1, 2⟩ final ∧
        (([] : List IoResult) = [] → Execution.Respects perform Reclaims initial calls →
          final.writer.poisoned = false) ∧
        (∀ permit observation next, reclaimRestartWalPrefix permit final =
          .ok observation next →
          ReclaimedFrom final permit next ∧ ReopensExactly ⟨2, 1, 2⟩ next) ∧
        final.generation.val =
          (Execution.emitted perform reclamation initial calls).length ∧
        (Execution.emitted perform issuedPosition initial calls).Pairwise (· < ·) ∧
        (Execution.emitted perform issuedEpoch initial calls).Pairwise (· < ·) := by
  refine ⟨_, rfl, ?_⟩
  intro permit calls final
  refine ⟨by decide +kernel, ?_⟩
  refine reclaimed_log_reopens_exactly
    (.transactionPageCapable .min forConst_two rfl) calls ?_
  decide +kernel

end Ntsql.Storage.FileCommitLog
