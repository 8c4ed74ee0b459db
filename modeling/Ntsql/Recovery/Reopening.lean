import Ntsql.Recovery.Invariant.CompletePrefix

/-! # When recovery succeeds

Of everything a reopen and a selection check, a run can only upset the fit of
the checkpoint slot to the WAL's generation. Once that holds, and while lineages
and epochs last, every step of the recovery sequence succeeds, and the model it
ends in is known. -/

namespace Ntsql.Recovery

variable {model final : RecoveryModel}

open RecoveryModel Operation

/-- The operations that repair pages, with or without reporting a fault. -/
def RunOperation.IsRepair (operation : RunOperation) : Prop :=
  operation = .repairPages ∨ operation = .repairPagesAppliedFault

/-- Recovery through restoration, by the given repair. -/
def restorationWith (repair : RunOperation) : List RunOperation :=
  [.reopen, .select, .planReplay, repair, .restoreTransactions]

def recoveryWith (repair : RunOperation) : List RunOperation :=
  restorationWith repair ++ [.complete]

namespace RecoveryModel

/-- The model after an operation that succeeds. An applied fault succeeds when
it has applied the repair it reports. -/
def perform (model : RecoveryModel) (operation : RunOperation) : Option RecoveryModel :=
  match operation.apply model with
  | .ok (.applied (.unapplied _)) _ => none
  | .ok _ final => some final
  | .error _ _ => none

/-- The model after operations that all succeed. -/
def performAll (model : RecoveryModel) (operations : List RunOperation) :
    Option RecoveryModel :=
  operations.foldlM perform model

/-- The checkpoint slot fits the generation: a complete prefix admits it, a
pruned WAL names it. -/
def SlotFits (model : RecoveryModel) : Prop :=
  if model.walGeneration.isZero then
    ∀ checkpoint ∈ model.checkpointSlot, checkpoint.Admitted
  else ∃ checkpoint ∈ model.checkpointSlot,
    model.generationAnchor = some checkpoint.anchor

instance (model : RecoveryModel) : Decidable model.SlotFits := by
  unfold SlotFits
  infer_instance

/-! ## The checks of a reopen and of a selection -/

namespace Openable

theorem generationMetadata (openable : model.Openable) :
    model.validateGenerationMetadata = .ok () := by
  unfold validateGenerationMetadata
  cases zero : model.walGeneration.isZero with
  | true =>
      have header := openable.header.initial zero
      simp only [GenerationHeader.mk.injEq, RecoveryModel.header] at header
      rcases header with ⟨_, format, anchor, first, highWater, epoch⟩
      simp [format, anchor, first, highWater, epoch]
  | false =>
      have header := openable.header.pruned zero
      rw [if_neg (by simp), rejectIf_ok_iff, not_or, not_not, Option.isNone_iff_eq_none]
      exact ⟨header.1, Option.isSome_iff_ne_none.mp header.2⟩

theorem replacementHeader (openable : model.Openable) :
    model.validateReplacementHeader = .ok () := by
  have header := openable.header
  have log := openable.sound.log
  simp only [validateReplacementHeader, Except.bind_ok_iff, rejectIf_ok_iff]
  refine ⟨(), ?_, (), ?_, (), ?_, (), ?_, ?_⟩
  · intro mismatch
    rcases mismatch with ⟨_, present, differs⟩
    rcases Option.isSome_iff_exists.mp present with ⟨first, isFirst⟩
    rcases header.headRetained first isFirst with ⟨isHead, covered⟩
    apply differs
    rcases Option.map_eq_some_iff.mp isHead with ⟨head, isRecord, rfl⟩
    rcases List.head?_eq_some_iff.mp isRecord with ⟨tail, split⟩
    rw [isFirst, currentRetainedFirst, durableWalRecords, split, DurableLog.durablePrefix,
      List.takeWhile_cons_of_pos (by simpa using covered)]
    rfl
  · intro overlap
    rcases overlap with ⟨_, absent, current, isCurrent, limit, isLimit, bound⟩
    rcases Option.map_eq_some_iff.mp isCurrent with ⟨head, isHead, rfl⟩
    have member := mem_walRecords_of_mem_durable (List.mem_of_head? isHead)
    have above :=
      header.emptied (Option.isNone_iff_eq_none.mp absent) limit isLimit head member
    exact absurd bound (not_le.mpr above)
  · intro precedes
    apply not_precedes_iff.mpr header.baseline
    rw [← log.highWater]
    exact precedes.2
  · exact fun precedes => not_precedes_iff.mpr header.epochBaseline precedes.2
  · rw [not_not]
    exact log.highWater.symm

theorem slotOwned (openable : model.Openable) {checkpoint : CheckpointSnapshot}
    (isSlot : model.checkpointSlot = some checkpoint) :
    (checkpoint.logId = model.logId ∧ checkpoint.lineageId = model.lineageId) ∧
      ∀ entry ∈ checkpoint.pages.toList,
        entry.2.BelongsTo model.logId model.lineageId entry.1 := by
  have valid := openable.sound.slot checkpoint isSlot
  refine ⟨⟨valid.logId_eq, valid.lineageId_eq⟩, ?_⟩
  exact fun entry member => valid.pagesOwned entry.1 entry.2 (mem_toList_iff.mp member)

theorem completePrefix_ok_iff (openable : model.Openable)
    {checkpoint : CheckpointSnapshot} (isSlot : model.checkpointSlot = some checkpoint)
    (zero : model.walGeneration.isZero = true) :
    model.validateCompletePrefixCheckpoint checkpoint = .ok () ↔ checkpoint.Admitted :=
  validateCompletePrefixCheckpoint_ok_iff openable.sound.log
    (openable.sound.slot checkpoint isSlot)
    ((openable.starts zero).checkpointed checkpoint isSlot)

theorem validateSlotOnOpen_ok_iff (openable : model.Openable) :
    model.validateSlotOnOpen = .ok () ↔ model.SlotFits := by
  simp only [validateSlotOnOpen, SlotFits]
  cases slot : model.checkpointSlot with
  | none =>
      cases zero : model.walGeneration.isZero with
      | true => simp [openable.undisturbed.checkpointEntry, Except.bind_ok_iff]
      | false => simp [Except.bind_ok_iff]
  | some checkpoint =>
      rcases openable.slotOwned slot with ⟨owned, pages⟩
      simp only [Except.bind_ok_iff, rejectIf_ok_iff, Except.forM_ok_iff, not_or, not_not,
        owned, openable.undisturbed.checkpointEntry, true_and, exists_const, and_self,
        ne_eq, not_true_eq_false, not_false_eq_true]
      cases zero : model.walGeneration.isZero with
      | true =>
          simp only [if_true, openable.completePrefix_ok_iff slot zero,
            Option.mem_some_iff, forall_eq']
          exact and_iff_right pages
      | false =>
          simp only [Bool.false_eq_true, if_false, okOr, Except.bind_ok_iff,
            rejectIf_ok_iff, Option.mem_some_iff]
          constructor
          · intro accepted
            rcases accepted with ⟨_, _, same, anchored⟩
            cases same
            exact ⟨checkpoint, rfl, (not_not.mp anchored).symm⟩
          · intro fits
            rcases fits with ⟨_, rfl, anchored⟩
            exact ⟨pages, checkpoint, rfl, not_not.mpr anchored.symm⟩

theorem validateSelectedOnOpen_ok_iff (openable : model.Openable) :
    model.validateSelectedOnOpen = .ok () ↔ model.SlotFits := by
  have records :
      validateRecords model.logId model.lineageId none model.walRecords = .ok () :=
    validateRecords_ok_iff.mpr
      ⟨openable.sound.log.accepted, openable.sound.log.ordered, by simp⟩
  have store : ∀ entry ∈ model.pageStore.toList,
      entry.2.BelongsTo model.logId model.lineageId entry.1 :=
    fun entry member =>
      openable.sound.pages.owned entry.1 entry.2 (mem_toList_iff.mp member)
  simp only [validateSelectedOnOpen, Except.bind_ok_iff, rejectIf_ok_iff,
    Except.forM_ok_iff, not_not, openable.validateSlotOnOpen_ok_iff,
    openable.generationMetadata, openable.replacementHeader, records,
    openable.undisturbed.walEntry]
  simpa using fun _ : model.SlotFits => store

theorem rejectAlias (openable : model.Openable) : model.rejectAlias = .ok () := by
  simp only [RecoveryModel.rejectAlias, candidateAliasContext,
    openable.undisturbed.checkpointCandidate, openable.undisturbed.walCandidate]

/-- A selection from the model's own observations checks nothing that a reopen
has not. -/
theorem checkSelection_ok_iff (openable : model.Openable) :
    model.checkSelection model.observeMinimalMetadata model.observeFullMetadata = .ok () ↔
      model.SlotFits := by
  simp only [checkSelection, SlotFits]
  cases zero : model.walGeneration.isZero with
  | true =>
      have header := openable.header.initial zero
      have anchor : model.generationAnchor = none :=
        congrArg GenerationHeader.anchor header
      cases slot : model.checkpointSlot with
      | none =>
          simp [observeMinimalMetadata, observeFullMetadata, anchor, Except.bind_ok_iff]
      | some checkpoint =>
          rcases openable.slotOwned slot with ⟨owned, _⟩
          simp [observeMinimalMetadata, observeFullMetadata, anchor, Except.bind_ok_iff,
            owned, openable.completePrefix_ok_iff slot zero]
  | false =>
      have header := openable.header.pruned zero
      rcases Option.isSome_iff_exists.mp header.2 with ⟨anchor, isAnchor⟩
      cases slot : model.checkpointSlot with
      | none =>
          simp [observeMinimalMetadata, observeFullMetadata, isAnchor, Except.bind_ok_iff,
            checkPrunedSelection, slot]
      | some checkpoint =>
          rcases openable.slotOwned slot with ⟨owned, _⟩
          simp [observeMinimalMetadata, observeFullMetadata, isAnchor, Except.bind_ok_iff,
            checkPrunedSelection, slot, owned, header.1]
          exact eq_comm

end Openable

/-! ## The steps of recovery -/

/-- A success is an effect; `perform` only leaves out applied faults that found
nothing to apply. -/
theorem perform_eq_some_iff (sound : model.Sound) {operation : RunOperation} :
    model.perform operation = some final ↔
      ∃ response, operation.apply model = .ok response final ∧
        Effect model operation response final := by
  unfold perform
  constructor
  · intro performed
    split at performed
    · cases performed
    · rename_i response result notUnapplied succeeds
      cases performed
      rcases sound.effect_of_ok succeeds with effect | ⟨_, error, unapplied⟩
      · exact ⟨response, succeeds, effect⟩
      · exact (notUnapplied error unapplied).elim
    · cases performed
  · intro performed
    rcases performed with ⟨response, succeeds, effect⟩
    rw [succeeds]
    cases effect <;> rfl

def afterSelect (model : RecoveryModel) : RecoveryModel :=
  { model with
    selectedCheckpoint := model.checkpointSlot
    phase := .selected }

def afterPlan (model : RecoveryModel) : RecoveryModel :=
  { model with
    replayPlan := some model.replayWindow
    phase := .replayPlanned }

def afterRepair (model : RecoveryModel) : RecoveryModel :=
  { model.withStore (model.repairedStore model.replayWindow) with
    phase := .pagesRepaired }

def afterComplete (model : RecoveryModel) : RecoveryModel :=
  { model with
    completionEvidence := some model.completedEvidence
    locks := .allLive
    phase := .completeLive }

theorem perform_crash_iff (sound : model.Sound) :
    model.perform .crash = some final ↔
      model.phase ≠ .crashed ∧ final = model.afterCrash false := by
  rw [perform_eq_some_iff sound]
  constructor
  · intro performed
    rcases performed with ⟨_, _, effect⟩
    cases effect with
    | crash running => exact ⟨running, rfl⟩
  · intro performed
    rcases performed with ⟨running, rfl⟩
    have succeeds : crash model = .ok () (model.afterCrash false) :=
      crashWithCompleteTail_ok_iff.mpr ⟨running, rfl⟩
    exact ⟨.unit, map_ok_iff.mpr ⟨(), succeeds, rfl⟩, .crash running⟩

theorem perform_crashPreserving_iff (sound : model.Sound) :
    model.perform .crashPreservingCompleteWalTail = some final ↔
      model.phase ≠ .crashed ∧ final = model.afterCrash true := by
  rw [perform_eq_some_iff sound]
  constructor
  · intro performed
    rcases performed with ⟨_, _, effect⟩
    cases effect with
    | crashPreservingCompleteWalTail running => exact ⟨running, rfl⟩
  · intro performed
    rcases performed with ⟨running, rfl⟩
    have succeeds :
        crashPreservingCompleteWalTail model = .ok () (model.afterCrash true) :=
      crashWithCompleteTail_ok_iff.mpr ⟨running, rfl⟩
    exact ⟨.unit, map_ok_iff.mpr ⟨(), succeeds, rfl⟩,
      .crashPreservingCompleteWalTail running⟩

theorem perform_reopen_iff (openable : model.Openable) :
    model.perform .reopen = some final ↔
      model.phase = .crashed ∧ model.SlotFits ∧
        ∃ lineage, model.lineageId.checkedNext = some lineage ∧
          final = model.afterReopen lineage := by
  rw [perform_eq_some_iff openable.sound]
  constructor
  · intro performed
    rcases performed with ⟨_, _, effect⟩
    cases effect with
    | reopen crashed next valid =>
        exact ⟨crashed, openable.validateSelectedOnOpen_ok_iff.mp valid, _, next, rfl⟩
  · intro performed
    rcases performed with ⟨crashed, fits, lineage, next, rfl⟩
    have valid := openable.validateSelectedOnOpen_ok_iff.mpr fits
    have succeeds := reopen_ok_iff.mpr ⟨crashed, next, valid, openable.rejectAlias, rfl⟩
    exact ⟨.lineage lineage, map_ok_iff.mpr ⟨lineage, succeeds, rfl⟩,
      .reopen crashed next valid⟩

theorem perform_select_iff (openable : model.Openable) :
    model.perform .select = some final ↔
      model.phase = .unrecovered ∧ model.SlotFits ∧ final = model.afterSelect := by
  rw [perform_eq_some_iff openable.sound]
  constructor
  · intro performed
    rcases performed with ⟨_, _, effect⟩
    cases effect with
    | select unrecovered accepted =>
        exact ⟨unrecovered, openable.checkSelection_ok_iff.mp accepted, rfl⟩
  · intro performed
    rcases performed with ⟨unrecovered, fits, rfl⟩
    have accepted := openable.checkSelection_ok_iff.mpr fits
    have succeeds : Recovery.select model = .ok () model.afterSelect :=
      select_ok_iff.mpr ⟨unrecovered, accepted, rfl⟩
    exact ⟨.unit, map_ok_iff.mpr ⟨(), succeeds, rfl⟩, .select unrecovered accepted⟩

theorem perform_planReplay_iff (sound : model.Sound) :
    model.perform .planReplay = some final ↔
      model.phase = .selected ∧ final = model.afterPlan := by
  rw [perform_eq_some_iff sound]
  constructor
  · intro performed
    rcases performed with ⟨_, _, effect⟩
    cases effect with
    | planReplay selected => exact ⟨selected, rfl⟩
  · intro performed
    rcases performed with ⟨selected, rfl⟩
    have succeeds := planReplay_ok_iff.mpr ⟨selected, rfl, rfl⟩
    exact ⟨_, map_ok_iff.mpr ⟨_, succeeds, rfl⟩, .planReplay selected⟩

theorem perform_repair_iff (sound : model.Sound) {repair : RunOperation}
    (isRepair : repair.IsRepair) :
    model.perform repair = some final ↔
      model.phase = .replayPlanned ∧ final = model.afterRepair := by
  rw [perform_eq_some_iff sound]
  constructor
  · intro performed
    rcases performed with ⟨_, _, effect⟩
    rcases isRepair with rfl | rfl
    · cases effect with
      | repairPages planned found =>
          rw [sound.phases.planned (.inl planned)] at found
          cases found
          exact ⟨planned, rfl⟩
    · cases effect with
      | repairPagesAppliedFault planned found =>
          rw [sound.phases.planned (.inl planned)] at found
          cases found
          exact ⟨planned, rfl⟩
  · intro performed
    rcases performed with ⟨planned, rfl⟩
    have found := sound.phases.planned (.inl planned)
    rcases sound.repairPagesInner planned with ⟨count, repaired⟩
    rcases isRepair with rfl | rfl
    · have succeeds := repairPages_of_inner planned repaired
      exact ⟨.count count, map_ok_iff.mpr ⟨count, succeeds, rfl⟩,
        .repairPages planned found⟩
    · have succeeds := repairPagesAppliedFault_of_inner planned repaired
      exact ⟨.applied (.appliedThenError count .repairFault),
        map_ok_iff.mpr ⟨_, succeeds, rfl⟩, .repairPagesAppliedFault planned found⟩

theorem perform_restoreTransactions_iff (sound : model.Sound) :
    model.perform .restoreTransactions = some final ↔
      model.phase = .pagesRepaired ∧ ∃ epoch,
        epochAfter model.epochHighWater = some epoch ∧
        final = model.afterRestore epoch model.replayWindow := by
  rw [perform_eq_some_iff sound]
  constructor
  · intro performed
    rcases performed with ⟨_, _, effect⟩
    cases effect with
    | restoreTransactions repaired fresh found =>
        rw [sound.phases.planned (.inr repaired)] at found
        cases found
        exact ⟨repaired, _, sound.epochAfter_of_fresh repaired fresh, rfl⟩
  · intro performed
    rcases performed with ⟨repaired, epoch, next, rfl⟩
    have fresh : model.freshEpoch = .ok epoch := by
      rw [sound.freshEpoch_eq repaired, okOr_ok_iff]
      exact next
    have found := sound.phases.planned (.inr repaired)
    have accepted : ∀ record ∈ model.replayWindow, model.Accepts record :=
      fun record member => sound.log.accepted record
        (mem_walRecords_of_mem_durable (mem_durable_of_mem_window member))
    have succeeds := restoreTransactions_ok_iff.mpr
      ⟨epoch, model.replayWindow, repaired, fresh, found, accepted, rfl, rfl⟩
    exact ⟨_, map_ok_iff.mpr ⟨_, succeeds, rfl⟩,
      .restoreTransactions repaired fresh found⟩

theorem perform_complete_iff (sound : model.Sound) :
    model.perform .complete = some final ↔
      model.phase = .transactionsRestored ∧ final = model.afterComplete := by
  rw [perform_eq_some_iff sound]
  constructor
  · intro performed
    rcases performed with ⟨_, _, effect⟩
    cases effect with
    | complete restored => exact ⟨restored, rfl⟩
  · intro performed
    rcases performed with ⟨restored, rfl⟩
    have succeeds : Recovery.complete model = .ok () model.afterComplete :=
      complete_ok_iff.mpr ⟨restored, rfl⟩
    exact ⟨.unit, map_ok_iff.mpr ⟨(), succeeds, rfl⟩, .complete restored⟩

theorem Openable.perform (openable : model.Openable) {operation : RunOperation}
    (performed : model.perform operation = some final) : final.Openable := by
  rcases (perform_eq_some_iff openable.sound).mp performed with ⟨_, _, effect⟩
  exact openable.effect effect

theorem Openable.performAll (openable : model.Openable) {operations : List RunOperation}
    (performed : model.performAll operations = some final) : final.Openable := by
  induction operations generalizing model with
  | nil =>
      cases performed
      exact openable
  | cons operation operations induction =>
      change ((model.perform operation).bind fun next => next.performAll operations) =
        some final at performed
      rcases Option.bind_eq_some_iff.mp performed with ⟨next, first, rest⟩
      exact induction (openable.perform first) rest

theorem slotFits_afterReopen (lineage : LineageId) :
    (model.afterReopen lineage).SlotFits ↔ model.SlotFits := by
  unfold SlotFits
  simp only [afterReopen]
  cases model.checkpointSlot with
  | none => rfl
  | some checkpoint =>
      have admitted : (checkpoint.rebrand lineage).Admitted ↔ checkpoint.Admitted :=
        Iff.rfl
      have anchored : (checkpoint.rebrand lineage).anchor = checkpoint.anchor := rfl
      simp only [Option.map_some, Option.mem_some_iff, forall_eq', exists_eq_left',
        admitted, anchored]

/-! ## The recovery sequence -/

/-- The model that restoration ends in, from a crash. -/
def restored (model : RecoveryModel) (lineage : LineageId) (epoch : U64) :
    RecoveryModel :=
  let repaired := (model.afterReopen lineage).afterSelect.afterPlan.afterRepair
  repaired.afterRestore epoch repaired.replayWindow

theorem performAll_cons (operation : RunOperation) (operations : List RunOperation) :
    model.performAll (operation :: operations) =
      (model.perform operation).bind fun next => next.performAll operations :=
  List.foldlM_cons

theorem performAll_append (front back : List RunOperation) :
    model.performAll (front ++ back) =
      (model.performAll front).bind fun next => next.performAll back :=
  List.foldlM_append

/-- From a crash, reopening through restoration succeeds exactly when the slot
fits and a lineage and an epoch are left. -/
theorem performAll_restorationWith_iff (openable : model.Openable) {repair : RunOperation}
    (isRepair : repair.IsRepair) :
    model.performAll (restorationWith repair) = some final ↔
      model.phase = .crashed ∧ model.SlotFits ∧ ∃ lineage epoch,
        model.lineageId.checkedNext = some lineage ∧
          epochAfter model.epochHighWater = some epoch ∧
            final = model.restored lineage epoch := by
  simp only [restorationWith, performAll_cons, Option.bind_eq_some_iff]
  constructor
  · intro performed
    rcases performed with
      ⟨opened, reopens, selected, selects, planned, plans, repaired, repairs,
      last, restores, done⟩
    have opening := openable.perform reopens
    have selecting := opening.perform selects
    have planning := selecting.perform plans
    have repairing := planning.perform repairs
    rcases (perform_reopen_iff openable).mp reopens with
      ⟨crashed, fits, lineage, next, rfl⟩
    rcases (perform_select_iff opening).mp selects with ⟨_, _, rfl⟩
    rcases (perform_planReplay_iff selecting.sound).mp plans with ⟨_, rfl⟩
    rcases (perform_repair_iff planning.sound isRepair).mp repairs with ⟨_, rfl⟩
    rcases (perform_restoreTransactions_iff repairing.sound).mp restores with
      ⟨_, epoch, fresh, rfl⟩
    cases done
    exact ⟨crashed, fits, lineage, epoch, next, fresh, rfl⟩
  · intro possible
    rcases possible with ⟨crashed, fits, lineage, epoch, next, fresh, rfl⟩
    have reopens := (perform_reopen_iff openable).mpr ⟨crashed, fits, lineage, next, rfl⟩
    have opening := openable.perform reopens
    have selects := (perform_select_iff opening).mpr
      ⟨rfl, (slotFits_afterReopen lineage).mpr fits, rfl⟩
    have selecting := opening.perform selects
    have plans := (perform_planReplay_iff selecting.sound).mpr ⟨rfl, rfl⟩
    have planning := selecting.perform plans
    have repairs := (perform_repair_iff planning.sound isRepair).mpr ⟨rfl, rfl⟩
    have repairing := planning.perform repairs
    have restores :=
      (perform_restoreTransactions_iff repairing.sound).mpr ⟨rfl, epoch, fresh, rfl⟩
    exact ⟨_, reopens, _, selects, _, plans, _, repairs, _, restores, rfl⟩

theorem restored_sound (openable : model.Openable) (crashed : model.phase = .crashed)
    (fits : model.SlotFits) {lineage : LineageId} {epoch : U64}
    (next : model.lineageId.checkedNext = some lineage)
    (fresh : epochAfter model.epochHighWater = some epoch) :
    (model.restored lineage epoch).Sound :=
  (openable.performAll ((performAll_restorationWith_iff openable (.inl rfl)).mpr
    ⟨crashed, fits, lineage, epoch, next, fresh, rfl⟩)).sound

theorem performAll_recoveryWith_iff (openable : model.Openable) {repair : RunOperation}
    (isRepair : repair.IsRepair) :
    model.performAll (recoveryWith repair) = some final ↔
      model.phase = .crashed ∧ model.SlotFits ∧ ∃ lineage epoch,
        model.lineageId.checkedNext = some lineage ∧
          epochAfter model.epochHighWater = some epoch ∧
            final = (model.restored lineage epoch).afterComplete := by
  rw [recoveryWith, performAll_append, Option.bind_eq_some_iff]
  constructor
  · intro performed
    rcases performed with ⟨middle, restores, completes⟩
    rcases (performAll_restorationWith_iff openable isRepair).mp restores with
      ⟨crashed, fits, lineage, epoch, next, fresh, rfl⟩
    have restoring := openable.performAll restores
    rw [performAll_cons, Option.bind_eq_some_iff] at completes
    rcases completes with ⟨last, completed, done⟩
    rcases (perform_complete_iff restoring.sound).mp completed with ⟨_, rfl⟩
    cases done
    exact ⟨crashed, fits, lineage, epoch, next, fresh, rfl⟩
  · intro possible
    rcases possible with ⟨crashed, fits, lineage, epoch, next, fresh, rfl⟩
    have restores := (performAll_restorationWith_iff openable isRepair).mpr
      ⟨crashed, fits, lineage, epoch, next, fresh, rfl⟩
    have restoring := openable.performAll restores
    refine ⟨_, restores, ?_⟩
    have completed := (perform_complete_iff restoring.sound).mpr ⟨rfl, rfl⟩
    rw [performAll_cons, completed]
    rfl

end RecoveryModel

end Ntsql.Recovery
