import Ntsql.Recovery.Atomicity
import Ntsql.Recovery.Invariant.Phases

/-! # Every reachable state is sound

One step either changes nothing or has its operation's effect, and every effect
keeps the invariants; so does every run. -/

namespace Ntsql.Recovery

variable {model final : RecoveryModel}

open RecoveryModel Operation

theorem length_le_of_ordered {records : List WalRecord}
    (ordered : DurableLog.Ordered WalRecord.position records) :
      records.length ≤ u64Max := by
  let positions := records.map fun record => record.position.get
  have distinct : positions.Nodup := by
    apply List.Pairwise.imp (fun below => ne_of_lt below)
    exact List.pairwise_map.mpr ordered
  have nonzero : (0 : U64) ∉ positions := by
    intro member
    rcases List.mem_map.mp member with ⟨record, _, zero⟩
    exact record.position.nonzero zero
  have bound := (List.nodup_cons.mpr ⟨nonzero, distinct⟩).length_le_card
  simp only [List.length_cons, positions, List.length_map, Fintype.card_fin] at bound
  unfold u64Max
  omega

namespace RecoveryModel

theorem ordered_replayWindow (log : model.LogInvariant) :
    DurableLog.Ordered WalRecord.position model.replayWindow := by
  have durable : DurableLog.Ordered WalRecord.position model.durableWalRecords :=
    log.ordered.sublist (List.takeWhile_sublist _)
  unfold replayWindow
  split
  · exact durable.filter _
  · exact durable

namespace Sound

theorem new (logId : LogId) : (RecoveryModel.new logId).Sound where
  guarded := guarded_new logId
  log := LogInvariant.new logId
  transactions := TransactionInvariant.new logId
  pages := PageInvariant.new logId
  slot := fun checkpoint member => by cases member
  phases := PhaseInvariant.new logId

theorem repairPagesInner (sound : model.Sound) (planned : model.phase = .replayPlanned) :
    ∃ count, Recovery.repairPagesInner model =
      .ok count (model.withStore (model.repairedStore model.replayWindow)) := by
  have selected := sound.phases.selectedSlot (.inr (.inl planned))
  have held := sound.slot.selectedHeld selected
  have installed :
      repairSelectedPages model.selectedCheckpoint model = .ok 0 (model.withStore
      (LatestImage.replay PageSnapshot.writtenAt model.pageStore
        model.checkpointImages)) := by
    rw [LatestImage.replay_of_holds (storeHolds_checkpointImages held)]
    cases isSelected : model.selectedCheckpoint with
    | none => rfl
    | some checkpoint =>
        exact repairCheckpointPages_held fun entry member =>
          held checkpoint isSelected entry.1 entry.2 (mem_toList_iff.mp member)
  refine repairPagesInner_of_selected (sound.phases.planned (.inl planned)) ?_
    installed ?_
  · intro record member
    exact sound.log.accepted record
      (mem_walRecords_of_mem_durable (mem_durable_of_mem_window member))
  · rw [Nat.zero_add]
    exact length_le_of_ordered (ordered_replayWindow sound.log)

theorem repairsInfallibly (sound : model.Sound) : model.RepairsInfallibly := by
  intro planned
  rcases sound.repairPagesInner planned with ⟨count, succeeds⟩
  exact ⟨count, _, succeeds⟩

theorem effect (sound : model.Sound) {operation : RunOperation} {response : Response}
    (effect : Effect model operation response final) : final.Sound where
  guarded := sound.guarded.effect effect
  log := sound.log.effect effect
  transactions := TransactionInvariant.effect sound effect
  pages := PageInvariant.effect sound effect
  slot := SlotInvariant.effect sound effect
  phases := PhaseInvariant.effect sound effect

/-- A success has its operation's effect, or is an applied fault that found
nothing to apply and changed nothing. -/
theorem effect_of_ok (sound : model.Sound) {operation : RunOperation}
    {response : Response} (succeeds : operation.apply model = .ok response final) :
    Effect model operation response final ∨
      final = model ∧ ∃ error, response = .applied (.unapplied error) := by
  rcases Recovery.effect_of_ok succeeds with
    effect | ⟨error, rfl, unchanged | ⟨planned, failed⟩⟩
  · exact .inl effect
  · exact .inr ⟨unchanged, error, rfl⟩
  · rcases sound.repairPagesInner planned with ⟨count, repaired⟩
    rw [repaired] at failed
    cases failed

theorem unchanged_of_error (sound : model.Sound) {operation : RunOperation}
    {error : ModelError}
    (fails : operation.apply model = .error error final) : final = model :=
  atomic_run_operation sound.guarded operation (fun _ => sound.repairsInfallibly)
    error final fails

theorem after_cases (sound : model.Sound) (operation : RunOperation) :
    model.after operation = model ∨
      ∃ response, operation.apply model = .ok response (model.after operation) ∧
        Effect model operation response (model.after operation) := by
  unfold RecoveryModel.after
  cases outcome : operation.apply model with
  | error error final => exact .inl (sound.unchanged_of_error outcome)
  | ok response final =>
      rcases sound.effect_of_ok outcome with effect | ⟨unchanged, _⟩
      · exact .inr ⟨response, rfl, effect⟩
      · exact .inl unchanged

theorem after (sound : model.Sound) (operation : RunOperation) :
    (model.after operation).Sound := by
  rcases sound.after_cases operation with unchanged | ⟨response, _, effect⟩
  · rw [unchanged]
    exact sound
  · exact sound.effect effect

theorem run (sound : model.Sound) (operations : List RunOperation) :
    (Execution.run RecoveryModel.after model operations).Sound :=
  Execution.invariant_run (fun _ operation sound _ => sound.after operation) operations
    (Execution.respects_true _ operations) sound

theorem analyzed_settled (sound : model.Sound)
    (analyzed : model.phase = .retentionAnalyzed) :
    ∃ evidence analysis checkpoint, model.Analyzed evidence analysis checkpoint ∧
      model.Settled evidence.frontier := by
  rcases sound.phases.analyzed analyzed with ⟨evidence, analysis, checkpoint, isAnalyzed⟩
  exact ⟨evidence, analysis, checkpoint, isAnalyzed,
    sound.phases.settled (.inr analyzed) evidence isAnalyzed.fresh⟩

end Sound

theorem sound_reached (logId : LogId) (operations : List RunOperation) :
    (reached logId operations).Sound :=
  (Sound.new logId).run operations

end RecoveryModel

end Ntsql.Recovery
