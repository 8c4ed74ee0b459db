import Ntsql.Transaction.RepairRun

/-! # Repairs that failed

A plan whose repair failed is kept and can only be attempted again as a whole.
Its reports name the pages in order, up to the one the attempt stopped at. -/

namespace Ntsql.Transaction

variable {width : Nat}

def RestartCheckpointPageRepairOutcome.pageNumber :
    RestartCheckpointPageRepairOutcome → PageNumber
  | .noRequiredImage pageNumber => pageNumber
  | .checkpointCurrent pageNumber => pageNumber
  | .alreadyCurrent pageNumber => pageNumber
  | .targetAlreadyPresent pageNumber => pageNumber
  | .repaired pageNumber => pageNumber

namespace RestartCheckpointPageRepairFailureCause

variable {ObservationError WriteError : Type}

def currentAttemptIsIndeterminate :
    RestartCheckpointPageRepairFailureCause ObservationError WriteError → Bool
  | .storeWrite _ _ => true
  | _ => false

def pageNumber :
    RestartCheckpointPageRepairFailureCause ObservationError WriteError →
      Option PageNumber
  | .lineageMismatch _ _ => none
  | .unresolvedDecision pageNumber => some pageNumber
  | .candidateTargetMissing pageNumber => some pageNumber
  | .storeObservation pageNumber _ => some pageNumber
  | .sourceComparison pageNumber _ => some pageNumber
  | .storeWrite pageNumber _ => some pageNumber

end RestartCheckpointPageRepairFailureCause

structure FailedRestartCheckpointPageRepair (ObservationError WriteError : Type) where
  completedPrefix : List RestartCheckpointPageRepairOutcome
  cause : RestartCheckpointPageRepairFailureCause ObservationError WriteError
  hasIndeterminateResult : Bool

section Execution

variable {World ObservationError WriteError : Type}

/-- Attempt the plan from its first page. -/
def executePreparedTransactionRestartCheckpointPageRepairs
    (ports : RepairPorts World ObservationError WriteError width)
    (replayLineage : LogLineage)
    (repairs : List (PreparedRestartCheckpointPageRepair width))
    (priorIndeterminateResult : Bool) :
    EStateM (FailedRestartCheckpointPageRepair ObservationError WriteError) World
      (List RestartCheckpointPageRepairOutcome) := do
  match ← attempt
    (attemptPreparedTransactionRestartCheckpointPageRepairs ports replayLineage []
    repairs) with
  | .ok outcomes => return outcomes
  | .error (completed, cause) => throw {
      completedPrefix := completed
      cause := cause
      hasIndeterminateResult :=
        priorIndeterminateResult || cause.currentAttemptIsIndeterminate }

def FailedRestartCheckpointPageRepair.retry
    (failed : FailedRestartCheckpointPageRepair ObservationError WriteError)
    (ports : RepairPorts World ObservationError WriteError width)
    (replayLineage : LogLineage)
    (repairs : List (PreparedRestartCheckpointPageRepair width)) :
    EStateM (FailedRestartCheckpointPageRepair ObservationError WriteError) World
      (List RestartCheckpointPageRepairOutcome) :=
  executePreparedTransactionRestartCheckpointPageRepairs ports replayLineage repairs
    failed.hasIndeterminateResult

/-- The first attempt of a plan, or a retry of the one that failed. -/
def attemptAfter (ports : RepairPorts World ObservationError WriteError width)
    (replayLineage : LogLineage)
    (repairs : List (PreparedRestartCheckpointPageRepair width)) :
    Option (FailedRestartCheckpointPageRepair ObservationError WriteError) →
      EStateM (FailedRestartCheckpointPageRepair ObservationError WriteError) World
        (List RestartCheckpointPageRepairOutcome)
  | none => executePreparedTransactionRestartCheckpointPageRepairs ports replayLineage
      repairs false
  | some failed => failed.retry ports replayLineage repairs

/-! ## Reports -/

variable {ports : RepairPorts World ObservationError WriteError width}
  {replayLineage : LogLineage}

theorem attemptCandidate_names {pageNumber : PageNumber}
    {candidate : RestartCheckpointPageRepairCandidate width}
    {current : Option (StoredPageSnapshotObservation width)} {world : World} :
    Operation.Results (·.pageNumber = pageNumber) (·.pageNumber = some pageNumber)
      (attemptCandidate ports pageNumber candidate current world) := by
  refine Operation.Results.check_bind_mapError (fun _ => rfl) fun comparison => ?_
  cases comparison with
  | targetAlreadyPresent => rfl
  | sourceMatches =>
      refine Operation.Results.attempt_bind fun written middle => ?_
      cases written <;> rfl

theorem attemptRepair_names {repair : PreparedRestartCheckpointPageRepair width}
    {world : World} :
    Operation.Results (·.pageNumber = repair.pageNumber)
      (·.pageNumber = some repair.pageNumber)
      (attemptRepair ports replayLineage repair world) := by
  rw [attemptRepair, Operation.get_bind]
  refine Operation.Results.check_bind_mapError (fun _ => rfl) fun current => ?_
  cases repair.resolution with
  | pending => rfl
  | noRequiredImage => exact Operation.Results.check_bind_mapError (fun _ => rfl) fun _ =>
      rfl
  | checkpointCurrent expected =>
      exact Operation.Results.check_bind_mapError (fun _ => rfl) fun _ => rfl
  | alreadyCurrent expected =>
      exact Operation.Results.check_bind_mapError (fun _ => rfl) fun _ => rfl
  | candidate source =>
      cases target : repair.target with
      | none => simp [okOr]; rfl
      | some target => exact attemptCandidate_names

/-- What an attempt of each repair reports, or fails with, holds of the outcomes of
all of them, or of those up to the repair that failed. -/
theorem attemptRepairs_each
    {reports : PreparedRestartCheckpointPageRepair width →
      RestartCheckpointPageRepairOutcome → Prop}
    {fails : PreparedRestartCheckpointPageRepair width →
      RestartCheckpointPageRepairFailureCause ObservationError WriteError → Prop}
    (each : ∀ repair world, Operation.Results (reports repair) (fails repair)
      (attemptRepair ports replayLineage repair world))
    (done repairs : List (PreparedRestartCheckpointPageRepair width))
    {completed : List RestartCheckpointPageRepairOutcome}
    (reported : List.Forall₂ reports done completed) {world : World} :
    Operation.Results (List.Forall₂ reports (done ++ repairs))
      (fun failure => ∃ before repair rest, done ++ repairs = before ++ repair :: rest ∧
        List.Forall₂ reports before failure.1 ∧ fails repair failure.2)
      (attemptRepairs ports replayLineage completed repairs world) := by
  induction repairs generalizing done completed world with
  | nil =>
      rw [List.append_nil]
      exact reported
  | cons repair repairs induction =>
      have here := each repair world
      rw [attemptRepairs, Operation.bind_apply, Operation.attempt_apply]
      cases result : attemptRepair ports replayLineage repair world with
      | error cause middle =>
          rw [result] at here
          exact ⟨done, repair, repairs, rfl, reported, here⟩
      | ok outcome middle =>
          rw [result] at here
          have reports : reports repair outcome := here
          rw [List.append_cons done repair repairs]
          exact induction (done ++ [repair])
            (List.rel_append reported (.cons reports .nil))

/-- The outcomes reported are those of the pages up to the failure, in order. -/
def StopsIn (repairs : List (PreparedRestartCheckpointPageRepair width))
    (failure : List RestartCheckpointPageRepairOutcome ×
      RestartCheckpointPageRepairFailureCause ObservationError WriteError) : Prop :=
  ∃ done repair rest, repairs = done ++ repair :: rest ∧
    failure.1.map (·.pageNumber) = done.map (·.pageNumber) ∧
    failure.2.pageNumber = some repair.pageNumber

theorem map_pageNumber_eq {repairs : List (PreparedRestartCheckpointPageRepair width)}
    {outcomes : List RestartCheckpointPageRepairOutcome}
    (named : List.Forall₂
      (fun repair outcome => outcome.pageNumber = repair.pageNumber) repairs outcomes) :
    outcomes.map (·.pageNumber) = repairs.map (·.pageNumber) := by
  induction named with
  | nil => rfl
  | cons here _ induction => rw [List.map_cons, List.map_cons, here, induction]

theorem attemptRepairs_names (repairs : List (PreparedRestartCheckpointPageRepair width))
    {world : World} :
    Operation.Results (·.map (·.pageNumber) = repairs.map (·.pageNumber))
      (StopsIn repairs) (attemptRepairs ports replayLineage [] repairs world) := by
  refine (attemptRepairs_each (fun _ _ => attemptRepair_names) [] repairs .nil).imp
    (fun _ named => map_pageNumber_eq named) ?_
  rintro failure ⟨done, repair, rest, split, named, stopped⟩
  exact ⟨done, repair, rest, split, map_pageNumber_eq named, stopped⟩

theorem attemptAfter_apply (repairs : List (PreparedRestartCheckpointPageRepair width))
    (previous : Option (FailedRestartCheckpointPageRepair ObservationError WriteError))
    (world : World) :
    attemptAfter ports replayLineage repairs previous world =
      match attemptPreparedTransactionRestartCheckpointPageRepairs ports
        replayLineage [] repairs world with
      | .ok outcomes final => .ok outcomes final
      | .error (completed, cause) final =>
          .error ⟨completed, cause,
            previous.elim false (·.hasIndeterminateResult) ||
              cause.currentAttemptIsIndeterminate⟩ final := by
  cases previous <;>
    rw [attemptAfter] <;>
    try rw [FailedRestartCheckpointPageRepair.retry]
  all_goals
    rw [executePreparedTransactionRestartCheckpointPageRepairs, Operation.bind_apply,
      Operation.attempt_apply]
    cases attemptPreparedTransactionRestartCheckpointPageRepairs ports
      replayLineage [] repairs world <;> rfl

end Execution

/-! ## Attempts -/

section Attempts

variable {lineage : LogLineage}
  {records : List (DurableTransactionRestartObservation width)}
  {store stopped : RecoveryStore width}
  {repairs : List (PreparedRestartCheckpointPageRepair width)}
  {prepared : PageNumber → Option (StoredPageSnapshotObservation width)}

/-- Attempts of a plan that failed, one after the other. Each meets outcomes of
its own. -/
inductive Retried (replayLineage : LogLineage)
    (repairs : List (PreparedRestartCheckpointPageRepair width))
    (store : RecoveryStore width) :
    Option (FailedRestartCheckpointPageRepair Empty RepairStoreError) →
      RecoveryStore width → Prop
  | unattempted : Retried replayLineage repairs store none store
  | failed {previous : Option (FailedRestartCheckpointPageRepair Empty RepairStoreError)}
      {stopped next : RecoveryStore width}
      {failure : FailedRestartCheckpointPageRepair Empty RepairStoreError}
      (before : Retried replayLineage repairs store previous stopped)
      (outcomes : List WriteOutcome)
      (fails : attemptAfter repairPorts replayLineage repairs previous
        (stopped.meeting outcomes) = .error failure next) :
      Retried replayLineage repairs store (some failure) next

theorem Advances.again {middle final : RecoveryStore width}
    (first : Advances records repairs store middle)
    (later : Advances records repairs middle final) :
      Advances records repairs store final := by
  intro pageNumber
  rcases later pageNumber with unchanged | advanced
  · rw [unchanged]
    exact first pageNumber
  · exact .inr advanced

theorem AwaitsAll.meeting (awaits : AwaitsAll lineage records repairs prepared store)
    (outcomes : List WriteOutcome) :
    AwaitsAll lineage records repairs prepared (store.meeting outcomes) :=
  awaits.advances rfl (Advances.refl records repairs store)

theorem attemptRepairs_error (valid : ValidPrefix lineage records)
    (awaits : AwaitsAll lineage records repairs prepared store)
    (completed : List RestartCheckpointPageRepairOutcome) :
    Operation.Results (fun _ => True)
      (fun failure => ∃ pageNumber, failure.2 = .storeWrite pageNumber .writeFailed)
      (attemptRepairs repairPorts lineage completed repairs store) := by
  induction repairs generalizing store completed with
  | nil => exact trivial
  | cons repair repairs induction =>
      have attempted := attemptRepair_attempted valid awaits.own
        (awaits.each repair List.mem_cons_self)
      have kept := attempted.advances valid
      rw [attemptRepairs_cons]
      cases result : attemptRepair repairPorts lineage repair store with
      | error cause middle =>
          rw [result] at attempted
          cases attempted <;> exact ⟨repair.pageNumber, rfl⟩
      | ok outcome middle =>
          rw [result] at kept
          exact induction (awaits.tail.advances kept.1 kept.2) _

structure Executed (records : List (DurableTransactionRestartObservation width))
    (repairs : List (PreparedRestartCheckpointPageRepair width))
    (store : RecoveryStore width)
    (result : EStateM.Result (FailedRestartCheckpointPageRepair Empty RepairStoreError)
      (RecoveryStore width) (List RestartCheckpointPageRepairOutcome)) : Prop where
  lineage : (Operation.leaves result).lineage = store.lineage
  advances : Advances records repairs store (Operation.leaves result)
  reports : Operation.Results (·.map (·.pageNumber) = repairs.map (·.pageNumber))
    (fun failure => StopsIn repairs (failure.completedPrefix, failure.cause) ∧
      (∃ pageNumber, failure.cause = .storeWrite pageNumber .writeFailed) ∧
      failure.hasIndeterminateResult = true) result
  repaired : ∀ outcomes final, result = .ok outcomes final →
    ∀ repair ∈ repairs,
      final.page repair.pageNumber = latestImage records repair.pageNumber

theorem attemptAfter_executed (valid : ValidPrefix lineage records)
    (awaits : AwaitsAll lineage records repairs prepared store)
    (previous : Option (FailedRestartCheckpointPageRepair Empty RepairStoreError)) :
    Executed records repairs store
      (attemptAfter repairPorts lineage repairs previous store) := by
  rcases attemptRepairs_advances valid awaits [] with ⟨same, advances, repaired⟩
  have names : Operation.Results (·.map (·.pageNumber) = repairs.map (·.pageNumber))
      (StopsIn repairs) (attemptRepairs repairPorts lineage [] repairs store) :=
    attemptRepairs_names repairs
  have failed := attemptRepairs_error valid awaits []
  rw [attemptAfter_apply,
    attemptPreparedTransactionRestartCheckpointPageRepairs_eq awaits.own]
  cases result : attemptRepairs repairPorts lineage [] repairs store with
  | ok outcomes final =>
      rw [result] at same advances names
      refine ⟨same, advances, names, ?_⟩
      intro _ _ succeeds
      cases succeeds
      exact repaired outcomes final result
  | error failure final =>
      rw [result] at same advances names failed
      rcases failure with ⟨completed, cause⟩
      rcases failed with ⟨pageNumber, isWrite⟩
      have isWrite : cause = .storeWrite pageNumber .writeFailed := isWrite
      subst isWrite
      refine ⟨same, advances, ⟨names, ⟨pageNumber, rfl⟩, Bool.or_true _⟩, ?_⟩
      intro _ _ succeeds
      cases succeeds

theorem Retried.advances (valid : ValidPrefix lineage records)
    (awaits : AwaitsAll lineage records repairs prepared store)
    {previous : Option (FailedRestartCheckpointPageRepair Empty RepairStoreError)}
    (retried : Retried lineage repairs store previous stopped) :
    stopped.lineage = store.lineage ∧ Advances records repairs store stopped := by
  induction retried with
  | unattempted => exact ⟨rfl, Advances.refl records repairs store⟩
  | @failed previous stopped next failure before outcomes fails induction =>
      have awaited := (awaits.advances induction.1 induction.2).meeting outcomes
      have executed := attemptAfter_executed valid awaited previous
      rw [fails] at executed
      exact ⟨executed.lineage.trans induction.1, induction.2.again executed.advances⟩

end Attempts

section Result

variable {lineage : LogLineage}
  {records : List (DurableTransactionRestartObservation width)}
  {base store : RecoveryStore width} {baseline : RestartCheckpointCompletenessBaseline}
  {checkpointFrontier : Option U64}

end Result

end Ntsql.Transaction
