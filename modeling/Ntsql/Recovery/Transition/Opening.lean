import Ntsql.Recovery.Opening
import Ntsql.Recovery.Transition.Live

/-! # What a crash, a reopen and a selection can do -/

namespace Ntsql.Recovery

variable {model final : RecoveryModel}

open RecoveryModel Operation

theorem crashWithCompleteTail_ok_iff {preserve : Bool} {value : Unit} :
    crashWithCompleteTail preserve model = .ok value final ↔
      model.phase ≠ .crashed ∧ final = model.afterCrash preserve := by
  simp only [crashWithCompleteTail, get_bind, check_bind_ok_iff, set_apply, ok_iff,
    true_and, requirePhase_ok_iff, exists_const]
  cases phase : model.phase <;> simp [crashablePhases]

theorem validateRecords_ok_iff {previous : Option WalPosition} {records : List WalRecord}
    {value : Unit} :
    validateRecords model.logId model.lineageId previous records = .ok value ↔
      (∀ record ∈ records, model.Accepts record) ∧
        DurableLog.Ordered WalRecord.position records ∧
        ∀ position ∈ previous, ∀ record ∈ records, position < record.position := by
  induction records generalizing previous with
  | nil => simp [validateRecords, DurableLog.Ordered]
  | cons record records induction =>
      simp only [validateRecords, Except.bind_ok_iff, rejectIf_ok_iff, not_or, not_not,
        validateRecordShape_ok_iff, induction, DurableLog.Ordered, List.pairwise_cons,
        List.forall_mem_cons, not_exists, not_and, not_le]
      constructor
      · intro accepted
        rcases accepted with
          ⟨_, ⟨logEqual, lineageEqual⟩, _, shape, _, above, rest, ordered, later⟩
        have following := later record.position rfl
        refine ⟨⟨⟨logEqual, lineageEqual, shape⟩, rest⟩, ⟨following, ordered⟩, ?_⟩
        intro position member
        have below := above position member
        exact ⟨below, fun other present => below.trans (following other present)⟩
      · intro valid
        rcases valid with ⟨⟨accepts, rest⟩, ⟨following, ordered⟩, above⟩
        refine ⟨(), ⟨accepts.logId_eq, accepts.lineageId_eq⟩, (), accepts.shape,
          (), ?_, rest, ordered, ?_⟩
        · exact fun position member => (above position member).1
        · intro position member
          cases member
          exact following

theorem validateSelectedOnOpen_records (valid : model.validateSelectedOnOpen = .ok ()) :
    (∀ record ∈ model.walRecords, model.Accepts record) ∧
      DurableLog.Ordered WalRecord.position model.walRecords := by
  simp only [validateSelectedOnOpen, Except.bind_ok_iff] at valid
  rcases valid with ⟨_, _, _, _, _, records, _⟩
  rcases validateRecords_ok_iff.mp records with ⟨accepted, ordered, _⟩
  exact ⟨accepted, ordered⟩

theorem reopen_ok_iff {lineage : LineageId} :
    reopen model = .ok lineage final ↔
      model.phase = .crashed ∧ model.lineageId.checkedNext = some lineage ∧
        model.validateSelectedOnOpen = .ok () ∧ model.rejectAlias = .ok () ∧
        final = model.afterReopen lineage := by
  simp only [reopen, get_bind, check_bind_ok_iff, set_bind, okOr_ok_iff, pure_apply,
    ok_iff, requirePhase_ok_iff, List.mem_singleton]
  constructor
  · intro succeeds
    rcases succeeds with ⟨_, crashed, _, next, _, valid, _, noAlias, rfl, rfl⟩
    exact ⟨crashed, next, valid, noAlias, rfl⟩
  · intro succeeds
    rcases succeeds with ⟨crashed, next, valid, noAlias, rfl⟩
    exact ⟨(), crashed, lineage, next, (), valid, (), noAlias, rfl, rfl⟩

theorem selectObserved_ok_iff {minimal : MinimalMetadata} {full : Option FullMetadata}
    {value : Unit} :
    selectObserved minimal full model = .ok value final ↔
      model.phase = .unrecovered ∧ model.checkSelection minimal full = .ok () ∧
        final = { model with
          selectedCheckpoint := model.checkpointSlot
          phase := .selected } := by
  simp only [selectObserved, get_bind, check_bind_ok_iff, set_apply, ok_iff, true_and,
    requirePhase_ok_iff, List.mem_singleton]
  constructor
  · intro succeeds
    rcases succeeds with ⟨_, unrecovered, _, accepted, rfl⟩
    exact ⟨unrecovered, accepted, rfl⟩
  · intro succeeds
    rcases succeeds with ⟨unrecovered, accepted, rfl⟩
    exact ⟨(), unrecovered, (), accepted, rfl⟩

theorem select_ok_iff {value : Unit} :
    select model = .ok value final ↔
      model.phase = .unrecovered ∧
        model.checkSelection model.observeMinimalMetadata model.observeFullMetadata =
          .ok () ∧
        final = { model with
          selectedCheckpoint := model.checkpointSlot
          phase := .selected } := by
  rw [select, get_bind]
  exact selectObserved_ok_iff

end Ntsql.Recovery
