import Ntsql.Recovery.Invariant.Checkpoint

/-! # Phases along a run

Recovery selects the published checkpoint, replays its window and restores from
it; nothing moves in between. After completion only operations that mark the
evidence stale, and a flush, change what recovery established. -/

namespace Ntsql.Recovery

variable {model final : RecoveryModel}

open RecoveryModel

namespace RecoveryModel

theorem not_fresh_of_stale {reason : String} {evidence : CompletionEvidence} :
    ¬(model.markCompletionStale reason).HasFresh evidence := by
  intro fresh
  have recorded := fresh.recorded
  unfold markCompletionStale at recorded
  rcases Option.map_eq_some_iff.mp recorded with ⟨earlier, _, rfl⟩
  cases fresh.fresh

theorem outside_of_not_mem_window {record : WalRecord}
    (durable : record ∈ model.durableWalRecords) (skipped : record ∉ model.replayWindow) :
    ∃ checkpoint, model.selectedCheckpoint = some checkpoint ∧
      ¬checkpoint.InWindow record.position := by
  unfold replayWindow at skipped
  split at skipped
  · rename_i checkpoint selected
    refine ⟨checkpoint, selected, fun inside => skipped ?_⟩
    exact List.mem_filter.mpr ⟨durable, decide_eq_true inside⟩
  · exact absurd durable skipped

/-- Repair leaves nothing that took effect out of the store: what the window
leaves out was already there. -/
theorem repairedThrough_repairedStore (log : model.LogInvariant)
    (slot : model.SlotInvariant)
    (selected : model.selectedCheckpoint = model.checkpointSlot) :
    (model.withStore (model.repairedStore model.replayWindow)).RepairedThrough
      model.flushPosition := by
  intro record effective page isTarget
  change StoreHolds (model.repairedStore model.replayWindow) page record.position
  rcases (takesEffect_iff log).mp effective with ⟨durable, applies⟩
  by_cases inside : record ∈ model.replayWindow
  · have shape := (log.accepted record effective.member).shape
    rcases imageOf_of_applicable shape applies with
      ⟨target, value, version, carries, _, image⟩
    have sameTarget := carries.page_eq.symm.trans isTarget
    cases sameTarget
    have applied := mem_appliedImages.mpr ⟨record, inside, applies, image⟩
    exact LatestImage.holds_replay model.pageStore (List.mem_append_right _ applied)
  · rcases outside_of_not_mem_window durable inside with ⟨checkpoint, isSelected, outside⟩
    rw [selected] at isSelected
    have isPage : record.kind = .transactionPage ∨ record.kind = .rawPage := by
      rcases effective.decided with raw | ⟨_, isPage, _⟩
      · exact .inr raw
      · exact .inl isPage.1
    have held :=
      (slot checkpoint isSelected).represented record effective.member isPage outside
      page isTarget
    exact (storeAdvances_repairedStore _).holds held

namespace PhaseInvariant

theorem of_live (live : model.IsLive)
    (settled : model.phase = .completeLive →
      ∀ evidence, model.HasFresh evidence → model.Settled evidence.frontier) :
    model.PhaseInvariant where
  quiet := fun dead => absurd live dead
  selectedSlot := by rcases live with live | live <;> simp [live]
  planned := by rcases live with live | live <;> simp [live]
  repaired := by rcases live with live | live <;> simp [live]
  restored := by rcases live with live | live <;> simp [live]
  settled := by
    intro finished
    rcases finished with completed | analyzed
    · exact settled completed
    · rcases live with live | live <;> simp [live] at analyzed
  analyzed := by rcases live with live | live <;> simp [live]

theorem of_stale {reason : String} (live : model.IsLive) :
    (model.markCompletionStale reason).PhaseInvariant :=
  of_live live fun _ _ fresh => absurd fresh not_fresh_of_stale

theorem new (logId : LogId) : (RecoveryModel.new logId).PhaseInvariant :=
  of_live (.inl rfl) fun completed => by cases completed

theorem flush (phases : model.PhaseInvariant) (log : model.LogInvariant)
    (live : model.IsLive) :
    model.afterFlush.PhaseInvariant := by
  have reaches := log.reaches_afterFlush
  unfold afterFlush at reaches ⊢
  split at reaches
  · refine of_live ?_ ?_
    · exact live
    · intro completed evidence fresh
      have settled := phases.settled (.inl completed) evidence ⟨fresh.1, fresh.2⟩
      exact { settled with frontierFlushed := settled.frontierFlushed.trans reaches }
  · exact phases

theorem crash (preserve : Bool) : (model.afterCrash preserve).PhaseInvariant where
  quiet := fun _ => rfl
  selectedSlot := by simp [afterCrash]
  planned := by simp [afterCrash]
  repaired := by simp [afterCrash]
  restored := by simp [afterCrash]
  settled := by simp [afterCrash]
  analyzed := by simp [afterCrash]

theorem reopen (phases : model.PhaseInvariant) (crashed : model.phase = .crashed)
    (lineage : LineageId) : (model.afterReopen lineage).PhaseInvariant where
  quiet := fun _ => phases.quiet (by simp [IsLive, crashed])
  selectedSlot := by simp [afterReopen]
  planned := by simp [afterReopen]
  repaired := by simp [afterReopen]
  restored := by simp [afterReopen]
  settled := by simp [afterReopen]
  analyzed := by simp [afterReopen]

theorem select (phases : model.PhaseInvariant)
    (unrecovered : model.phase = .unrecovered) :
    { model with
      selectedCheckpoint := model.checkpointSlot
      phase := .selected }.PhaseInvariant where
  quiet := fun _ => phases.quiet (by simp [IsLive, unrecovered])
  selectedSlot := fun _ => rfl
  planned := by simp
  repaired := by simp
  restored := by simp
  settled := by simp
  analyzed := by simp

theorem planReplay (phases : model.PhaseInvariant) (selected : model.phase = .selected) :
    { model with
      replayPlan := some model.replayWindow
      phase := .replayPlanned }.PhaseInvariant where
  quiet := fun _ => phases.quiet (by simp [IsLive, selected])
  selectedSlot := fun _ => phases.selectedSlot (.inl selected)
  planned := fun _ => rfl
  repaired := by simp
  restored := by simp
  settled := by simp
  analyzed := by simp

theorem repair (sound : model.Sound) (planned : model.phase = .replayPlanned) :
    { model.withStore (model.repairedStore model.replayWindow) with
      phase := .pagesRepaired }.PhaseInvariant where
  quiet := fun _ => sound.phases.quiet (by simp [IsLive, planned])
  selectedSlot := fun _ => sound.phases.selectedSlot (.inr (.inl planned))
  planned := fun _ => sound.phases.planned (.inl planned)
  repaired := fun _ => repairedThrough_repairedStore sound.log sound.slot
    (sound.phases.selectedSlot (.inr (.inl planned)))
  restored := by simp
  settled := by simp
  analyzed := by simp

theorem restore (phases : model.PhaseInvariant) (repaired : model.phase = .pagesRepaired)
    (epoch : U64) : (model.afterRestore epoch model.replayWindow).PhaseInvariant where
  quiet := fun _ => rfl
  selectedSlot := fun _ => phases.selectedSlot (.inr (.inr (.inl repaired)))
  planned := by simp [afterRestore]
  repaired := fun _ => phases.repaired (.inl repaired)
  restored := fun _ => rfl
  settled := by simp [afterRestore]
  analyzed := by simp [afterRestore]

theorem complete (sound : model.Sound) (restored : model.phase = .transactionsRestored) :
    { model with
      completionEvidence := some model.completedEvidence
      locks := .allLive
      phase := .completeLive }.PhaseInvariant := by
  refine of_live (.inr rfl) ?_
  intro _ evidence fresh
  have recorded := fresh.recorded
  cases recorded
  exact
    { selectedSlot := sound.phases.selectedSlot (.inr (.inr (.inr restored)))
      quiet := sound.phases.quiet (by simp [IsLive, restored])
      repaired := sound.phases.repaired (.inr restored)
      restored := sound.phases.restored restored
      frontierFlushed := Reaches.refl model.flushPosition
      storeWithin := fun page snapshot found => by
        rcases sound.pages.backed page snapshot found with
          ⟨record, effective, position, _⟩
        rw [← position]
        exact effective.durable }

theorem analyze (phases : model.PhaseInvariant) {checkpoint : CheckpointSnapshot}
    {floor : Option WalPosition} {evidence : CompletionEvidence}
    (completed : model.phase = .completeLive) (fresh : model.HasFresh evidence)
    (selected : model.selectedCheckpoint = some checkpoint)
    (floorOk : model.retentionFloor checkpoint = .ok floor) :
    (model.afterAnalysis checkpoint floor).PhaseInvariant := by
  have settled := phases.settled (.inl completed)
  refine
    { quiet := fun _ => (settled evidence fresh).quiet
      selectedSlot := by simp [afterAnalysis]
      planned := by simp [afterAnalysis]
      repaired := by simp [afterAnalysis]
      restored := by simp [afterAnalysis]
      settled := ?_
      analyzed := ?_ }
  · intro _ other otherFresh
    exact { settled other ⟨otherFresh.1, otherFresh.2⟩ with }
  · intro _
    exact ⟨evidence, _, checkpoint, ⟨fresh.1, fresh.2⟩, rfl, selected, floorOk, rfl⟩

theorem reclaim (phases : model.PhaseInvariant)
    (analyzed : model.phase = .retentionAnalyzed)
    (replacement : WalReplacement) : (model.afterReclaim replacement).PhaseInvariant where
  quiet := fun _ => phases.quiet (by simp [IsLive, analyzed])
  selectedSlot := by simp [afterReclaim]
  planned := by simp [afterReclaim]
  repaired := by simp [afterReclaim]
  restored := by simp [afterReclaim]
  settled := by simp [afterReclaim]
  analyzed := by simp [afterReclaim]

theorem effect (sound : model.Sound) {operation : RunOperation} {response : Response}
    (effect : Effect model operation response final) : final.PhaseInvariant := by
  have phases := sound.phases
  cases effect with
  | allocateCoordinatorEpoch live | beginTransaction live | appendTransactionPage live
  | appendTransactionCommit live | appendRawPage live | writePageStore live
  | publishCheckpoint live =>
      exact of_stale live
  | flushWal live => exact phases.flush sound.log live
  | crash running => exact crash false
  | crashPreservingCompleteWalTail running => exact crash true
  | reopen crashed next valid => exact phases.reopen crashed _
  | select unrecovered accepted => exact phases.select unrecovered
  | planReplay selected => exact phases.planReplay selected
  | repairPages planned found | repairPagesAppliedFault planned found =>
      rw [phases.planned (.inl planned)] at found
      cases found
      exact repair sound planned
  | restoreTransactions repaired fresh found =>
      rw [phases.planned (.inr repaired)] at found
      cases found
      exact phases.restore repaired _
  | complete restored => exact complete sound restored
  | analyzeRetention completed fresh selected analyzed =>
      exact phases.analyze completed fresh selected analyzed
  | reclaim analyzed builds => exact phases.reclaim analyzed _

end PhaseInvariant

end RecoveryModel

end Ntsql.Recovery
