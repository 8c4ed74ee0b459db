import Ntsql.Transaction.RepairRetry
import Ntsql.Transaction.RestorationExact

/-! # Completing a restart

Before a repaired storage is released, the log is analyzed again, the restored
coordinator is compared with what restoration found, and every repaired page is
observed once more. -/

namespace Ntsql.Transaction

open SortedTable

variable {width : Nat}

/-! ## Transactions -/

section Pages

variable {StoreError : Type}

end Pages

/-! ## Outcomes match resolutions -/

section Outcomes

variable {World ObservationError WriteError : Type}
  {ports : RepairPorts World ObservationError WriteError width}
  {replayLineage : LogLineage}

end Outcomes

/-! ## What completion accepts

The restored coordinator always passes. A page passes when it holds its last
image, whether its repair was decided on the old image or on none. -/

section Accepts

variable {lineage : LogLineage}
  {records : List (DurableTransactionRestartObservation width)}
  {store later : RecoveryStore width} {baseline : RestartCheckpointCompletenessBaseline}
  {planned : MaterializedRestartCheckpointReplay width}
  {repairs : List (PreparedRestartCheckpointPageRepair width)}
  {SourceError : Type} {allocate : AllocateRestartEpoch SourceError}
  {identity : CoordinatorIdentity} {attemptCount : Nat}
  {coordinator : TransactionCoordinator} {summary : TransactionRestartRestorationSummary}

end Accepts

/-! ## From the plan to completion -/

section Result

variable {lineage : LogLineage}
  {records : List (DurableTransactionRestartObservation width)}
  {base store : RecoveryStore width} {baseline : RestartCheckpointCompletenessBaseline}
  {checkpointFrontier : Option U64} {planned : MaterializedRestartCheckpointReplay width}
  {repairs : List (PreparedRestartCheckpointPageRepair width)}

theorem Repairs.selects (ready : Repairs lineage records store baseline planned repairs) :
    selectRestartCheckpointReplayWindow records baseline.replayStart =
      .ok planned.replayObservations := by
  have plans := ready.plans
  simp only [planSelectedRestartCheckpointReplayEvidence, Except.bind_ok_iff,
    Except.mapError_ok_iff, Except.pure_ok_iff] at plans
  rcases plans with ⟨_, _, _, _, analysis, _, window, selected, rfl⟩
  exact selected

end Result

section Example

end Example

end Ntsql.Transaction
