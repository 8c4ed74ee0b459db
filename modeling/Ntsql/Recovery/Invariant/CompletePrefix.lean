import Ntsql.Recovery.Invariant.Generation

/-! # The complete prefix of generation zero

Before the first reclamation nothing durable has left the log, so what a
checkpoint names at or below its frontier is still recorded. Opening such a log
succeeds exactly when the checkpoint lists no transaction position past its
frontier. -/

namespace Ntsql.Recovery

variable {model final : RecoveryModel}

open RecoveryModel

/-- Every position listed for a transaction lies at or below the frontier. -/
def CheckpointSnapshot.Admitted (checkpoint : CheckpointSnapshot) : Prop :=
  ∀ entry ∈ checkpoint.transactionSummary.active.toList, ∀ position ∈ entry.2,
    Covers checkpoint.frontier.position position

instance (checkpoint : CheckpointSnapshot) : Decidable checkpoint.Admitted :=
  inferInstanceAs (Decidable (∀ entry ∈ checkpoint.transactionSummary.active.toList, _))

namespace RecoveryModel

/-- What `checkpoint` names at or below its frontier is recorded. -/
structure PrefixCheckpoint (model : RecoveryModel)
    (checkpoint : CheckpointSnapshot) : Prop where
  replayStartRecorded : ∀ replayStart ∈ checkpoint.replayStart,
    ∃ record ∈ model.walRecords, record.position = replayStart
  pagesBacked : ∀ (page : PageId) (snapshot : PageSnapshot),
    checkpoint.pages[page]? = some snapshot →
    Backed model.walRecords checkpoint.frontier.position page snapshot
  listedRecorded : ∀ entry ∈ checkpoint.transactionSummary.active.toList,
    ∀ position ∈ entry.2, Covers checkpoint.frontier.position position →
    position ∈ pagePositions entry.1 model.walRecords

/-- The durable log of generation zero holds what is named in it. -/
structure CompletePrefix (model : RecoveryModel) : Prop where
  checkpointed : ∀ checkpoint ∈ model.checkpointSlot, model.PrefixCheckpoint checkpoint
  admitted : model.phase = .selected ∨ model.phase = .replayPlanned ∨
      model.phase = .pagesRepaired →
    ∀ checkpoint ∈ model.selectedCheckpoint, checkpoint.Admitted
  restored : ∀ (txn : TransactionId) (positions : List WalPosition),
    model.persistedTransactions[txn]? = some positions → ∀ position ∈ positions,
    position ∈ pagePositions txn model.walRecords ∧ Covers model.flushPosition position

/-! ## Validating the checkpoint of a complete prefix -/

theorem recordAt_eq_some_iff (log : model.LogInvariant) {position : WalPosition}
    {record : WalRecord} :
    model.recordAt position = some record ↔
      record ∈ model.walRecords ∧ record.position = position := by
  rw [← DurableLog.find?_eq_some_iff log.ordered, recordAt]
  congr!

theorem validateActivePosition_ok_iff (log : model.LogInvariant)
    {frontier : Option WalPosition} {txn : TransactionId} {position : WalPosition} :
    model.validateActivePosition frontier txn position = .ok () ↔
      position ∈ pagePositions txn model.walRecords ∧ Covers frontier position := by
  simp only [validateActivePosition, Except.bind_ok_iff, okOr_ok_iff, rejectIf_ok_iff,
    not_or, not_not, precedes_some, recordAt_eq_some_iff log, mem_pagePositions]
  constructor
  · intro accepted
    rcases accepted with ⟨record, ⟨member, rfl⟩, kind, owner, covered⟩
    exact ⟨⟨record, member, ⟨kind, owner⟩, rfl⟩, covered⟩
  · intro recorded
    rcases recorded with ⟨⟨record, member, isPage, rfl⟩, covered⟩
    exact ⟨record, ⟨member, rfl⟩, isPage.1, isPage.2, covered⟩

theorem validateCheckpointPage_ok (log : model.LogInvariant)
    {frontier : Option WalPosition} {page : PageId} {snapshot : PageSnapshot}
    (owned : snapshot.BelongsTo model.logId model.lineageId page)
    (backed : Backed model.walRecords frontier page snapshot) :
    model.validateCheckpointPage frontier (page, snapshot) = .ok () := by
  rcases backed with ⟨record, effective, position, carries⟩
  have durable := effective.durable
  rw [position] at durable
  simp only [validateCheckpointPage, Except.bind_ok_iff, okOr_ok_iff, rejectIf_ok_iff,
    not_or, not_not, precedes_some, recordAt_eq_some_iff log, validateRecordShape_ok_iff]
  refine ⟨(), ⟨owned, durable⟩, record, ⟨effective.member, position⟩, (),
    (log.accepted record effective.member).shape, (),
    ⟨carries.page_eq, carries.value_eq, carries.version_eq⟩, ?_⟩
  split
  · rename_i kind
    rcases effective.decided with raw | ⟨txn, isPage, committed⟩
    · cases kind.symm.trans raw
    · simp only [Except.bind_ok_iff, okOr_ok_iff, rejectIf_ok_iff, not_not]
      exact ⟨txn, isPage.2, hasCommit_iff.mpr committed⟩
  · rfl

theorem validateCompletePrefixCheckpoint_ok_iff (log : model.LogInvariant)
    {checkpoint : CheckpointSnapshot} (valid : model.CheckpointInvariant checkpoint)
    (complete : model.PrefixCheckpoint checkpoint) :
    model.validateCompletePrefixCheckpoint checkpoint = .ok () ↔ checkpoint.Admitted := by
  have frontier : ¬Precedes model.logicalHighWater checkpoint.frontier.position := by
    rw [log.highWater]
    exact not_precedes_iff.mpr valid.frontierFlushed
  have epochs :
      ¬Precedes model.epochHighWater checkpoint.transactionSummary.epochHighWater :=
    not_precedes_iff.mpr valid.epochBelow
  have pages : ∀ entry ∈ checkpoint.pages.toList,
      model.validateCheckpointPage checkpoint.frontier.position entry = .ok () := by
    intro entry member
    have found := mem_toList_iff.mp member
    exact validateCheckpointPage_ok log (valid.pagesOwned entry.1 entry.2 found)
      (complete.pagesBacked entry.1 entry.2 found)
  have named : (do
      forM checkpoint.pages.toList
        (model.validateCheckpointPage checkpoint.frontier.position)
      forM checkpoint.transactionSummary.active.toList fun entry =>
        forM entry.2 (model.validateActivePosition checkpoint.frontier.position entry.1)
      rejectIf
        (Precedes model.epochHighWater checkpoint.transactionSummary.epochHighWater)
        (ModelError.metadataMismatch "checkpoint_epoch_high_water")) = Except.ok () ↔
      checkpoint.Admitted := by
    simp only [Except.bind_ok_iff, rejectIf_ok_iff, Except.forM_ok_iff,
      validateActivePosition_ok_iff log]
    constructor
    · intro accepted entry member position listed
      rcases accepted with ⟨_, _, _, transactions, _⟩
      exact (transactions entry member position listed).2
    · intro admitted
      refine ⟨(), pages, (), ?_, epochs⟩
      intro entry member position listed
      have covered := admitted entry member position listed
      exact ⟨complete.listedRecorded entry member position listed covered, covered⟩
  rw [← named]
  simp only [validateCompletePrefixCheckpoint]
  rw [(rejectIf_ok_iff _ _ ()).mpr frontier]
  cases starts : checkpoint.replayStart with
  | none => rfl
  | some replayStart =>
      have recorded : ¬(Precedes checkpoint.frontier.position (some replayStart) ∨
          ¬∃ record ∈ model.walRecords, record.position = replayStart) := by
        rw [not_or, precedes_some, not_not, not_not]
        exact ⟨valid.replayStartCovered replayStart starts,
          complete.replayStartRecorded replayStart starts⟩
      simp only [(rejectIf_ok_iff _ _ ()).mpr recorded]
      rfl

/-! ## Along a run -/

theorem PrefixCheckpoint.mono {checkpoint : CheckpointSnapshot}
    (complete : model.PrefixCheckpoint checkpoint)
    (valid : model.CheckpointInvariant checkpoint)
    (kept : ∀ record ∈ model.walRecords, Covers model.flushPosition record.position →
      record ∈ final.walRecords) : final.PrefixCheckpoint checkpoint where
  replayStartRecorded := by
    intro replayStart starts
    rcases complete.replayStartRecorded replayStart starts with ⟨record, member, rfl⟩
    have durable := valid.frontierFlushed.covers (valid.replayStartCovered _ starts)
    exact ⟨record, kept record member durable, rfl⟩
  pagesBacked := by
    intro page snapshot found
    refine (complete.pagesBacked page snapshot found).mono ?_ (Reaches.refl _)
    exact fun record member covered =>
      kept record member (valid.frontierFlushed.covers covered)
  listedRecorded := by
    intro entry member position listed covered
    rcases mem_pagePositions.mp
      (complete.listedRecorded entry member position listed covered) with
      ⟨record, present, isPage, rfl⟩
    have durable := valid.frontierFlushed.covers covered
    exact mem_pagePositions.mpr ⟨record, kept record present durable, isPage, rfl⟩

theorem PrefixCheckpoint.reopen {checkpoint : CheckpointSnapshot}
    (complete : model.PrefixCheckpoint checkpoint) (lineage : LineageId) :
    (model.afterReopen lineage).PrefixCheckpoint (checkpoint.rebrand lineage) where
  replayStartRecorded := by
    intro replayStart starts
    rcases complete.replayStartRecorded replayStart starts with ⟨record, member, rfl⟩
    exact ⟨record.rebrand lineage, List.mem_map_of_mem member, rfl⟩
  pagesBacked := by
    intro page snapshot found
    change (PageStore.rebrand lineage checkpoint.pages)[page]? = some snapshot at found
    rw [PageStore.getElem?_rebrand] at found
    rcases Option.map_eq_some_iff.mp found with ⟨stored, isStored, rfl⟩
    exact (complete.pagesBacked page stored isStored).rebrand lineage
  listedRecorded := by
    intro entry member position listed covered
    rcases mem_pagePositions.mp
      (complete.listedRecorded entry member position listed covered) with
      ⟨record, present, isPage, rfl⟩
    exact mem_pagePositions.mpr
      ⟨record.rebrand lineage, List.mem_map_of_mem present, isPage, rfl⟩

theorem PrefixCheckpoint.publish (sound : model.Sound) (complete : model.CompletePrefix)
    (anchor : CheckpointAnchor) :
    model.PrefixCheckpoint (model.checkpointSnapshot anchor) where
  replayStartRecorded := by
    intro replayStart starts
    change model.computeReplayStart = some replayStart at starts
    cases flushed : model.flushPosition with
    | none =>
        rw [computeReplayStart, flushed] at starts
        cases starts
    | some frontier =>
        have isFloor := computeReplayStart_isFloor flushed
        rw [starts] at isFloor
        rcases isFloor.mem with ⟨record, member, _, equal⟩
        exact ⟨record, member, equal⟩
  pagesBacked := by
    rw [checkpointSnapshot_frontier]
    exact sound.pages.backed
  listedRecorded := by
    intro entry member position listed _
    have found := mem_toList_iff.mp member
    change model.checkpointTransactions[entry.1]? = some entry.2 at found
    rw [checkpointTransactions_getElem?] at found
    rcases Option.or_eq_some_iff.mp found with active | ⟨_, persisted⟩
    · rw [sound.transactions.listed entry.1 entry.2 active] at listed
      exact listed
    · exact (complete.restored entry.1 entry.2 persisted position listed).1

namespace CompletePrefix

theorem new (logId : LogId) : (RecoveryModel.new logId).CompletePrefix where
  checkpointed := by simp [RecoveryModel.new]
  admitted := by simp [RecoveryModel.new]
  restored := by simp [RecoveryModel.new]

/-- A live operation that keeps the durable log, the slot and the restored
transactions. -/
theorem keep (complete : model.CompletePrefix) (sound : model.Sound)
    (slots : final.checkpointSlot = model.checkpointSlot)
    (admitted : final.phase = .selected ∨ final.phase = .replayPlanned ∨
        final.phase = .pagesRepaired →
      ∀ checkpoint ∈ final.selectedCheckpoint, checkpoint.Admitted)
    (persisted : final.persistedTransactions = model.persistedTransactions ∨
      final.persistedTransactions = ∅)
    (kept : ∀ record ∈ model.walRecords, Covers model.flushPosition record.position →
      record ∈ final.walRecords)
    (reaches : Reaches model.flushPosition final.flushPosition) :
      final.CompletePrefix where
  checkpointed := by
    rw [slots]
    exact fun checkpoint member =>
      (complete.checkpointed checkpoint member).mono (sound.slot checkpoint member) kept
  admitted := admitted
  restored := by
    intro txn positions found position listed
    rcases persisted with same | empty
    · rw [same] at found
      rcases complete.restored txn positions found position listed with
        ⟨recorded, durable⟩
      rcases mem_pagePositions.mp recorded with ⟨record, member, isPage, rfl⟩
      exact ⟨mem_pagePositions.mpr ⟨record, kept record member durable, isPage, rfl⟩,
        reaches.covers durable⟩
    · rw [empty] at found
      cases found

theorem live (complete : model.CompletePrefix) (sound : model.Sound)
    (isLive : final.IsLive) (slots : final.checkpointSlot = model.checkpointSlot)
    (persisted : final.persistedTransactions = model.persistedTransactions)
    (kept : ∀ record ∈ model.walRecords, Covers model.flushPosition record.position →
      record ∈ final.walRecords)
    (reaches : Reaches model.flushPosition final.flushPosition) :
      final.CompletePrefix := by
  refine complete.keep sound slots ?_ (.inl persisted) kept reaches
  rcases isLive with phase | phase <;> simp [phase]

/-- Restoration lists seeded positions, which selection admitted, and positions
of the replayed window. -/
theorem restore (complete : model.CompletePrefix) (sound : model.Sound)
    (repaired : model.phase = .pagesRepaired) (epoch : U64) :
    (model.afterRestore epoch model.replayWindow).CompletePrefix where
  checkpointed := fun checkpoint member =>
    (complete.checkpointed checkpoint member).mono (sound.slot checkpoint member)
      fun _ member _ => member
  admitted := by simp [afterRestore]
  restored := by
    intro txn positions found position listed
    change (model.restoredFrom model.replayWindow).active[txn]? = some positions at found
    rw [restoredFrom_getElem?] at found
    rcases mem_observedThrough found listed with seeded | replayed
    · cases isSeed : model.restorationSeed[txn]? with
      | none =>
          rw [isSeed] at seeded
          cases seeded
      | some seed =>
          rw [isSeed] at seeded
          cases selected : model.selectedCheckpoint with
          | none =>
              rw [restorationSeed, selected] at isSeed
              cases isSeed
          | some checkpoint =>
              rw [restorationSeed, selected] at isSeed
              have entry := mem_toList_iff.mpr (show _ = some (txn, seed).2 from isSeed)
              have covered := complete.admitted (.inr (.inr repaired)) checkpoint selected
                (txn, seed) entry position seeded
              have isSlot :=
                (sound.phases.selectedSlot (.inr (.inr (.inl repaired)))).symm.trans
                selected
              exact ⟨(complete.checkpointed checkpoint isSlot).listedRecorded
                (txn, seed) entry position seeded covered,
                (sound.slot checkpoint isSlot).frontierFlushed.covers covered⟩
    · rcases mem_pagePositions.mp replayed with ⟨record, member, isPage, rfl⟩
      have durable :=
        (mem_durableWalRecords sound.log).mp (mem_durable_of_mem_window member)
      exact ⟨mem_pagePositions.mpr ⟨record, durable.1, isPage, rfl⟩, durable.2⟩

theorem reopen (complete : model.CompletePrefix) (lineage : LineageId) :
    (model.afterReopen lineage).CompletePrefix where
  checkpointed := by
    intro checkpoint member
    rcases Option.map_eq_some_iff.mp member with ⟨original, isSlot, rfl⟩
    exact (complete.checkpointed original isSlot).reopen lineage
  admitted := by simp [afterReopen]
  restored := by
    intro txn positions found position listed
    rcases complete.restored txn positions found position listed with ⟨recorded, durable⟩
    rcases mem_pagePositions.mp recorded with ⟨record, member, isPage, rfl⟩
    exact ⟨mem_pagePositions.mpr
      ⟨record.rebrand lineage, List.mem_map_of_mem member, isPage, rfl⟩, durable⟩

end CompletePrefix

theorem admitted_of_checkSelection (sound : model.Sound) (complete : model.CompletePrefix)
    (zero : model.walGeneration.isZero = true) {minimal : MinimalMetadata}
    {full : Option FullMetadata} (accepted : model.checkSelection minimal full = .ok ()) :
    ∀ checkpoint ∈ model.checkpointSlot, checkpoint.Admitted := by
  intro checkpoint isSlot
  simp only [checkSelection, Except.bind_ok_iff, zero, if_true, Option.mem_def.mp isSlot]
    at accepted
  rcases accepted with ⟨_, _, _, _, _, _, _, validated, _⟩
  exact (validateCompletePrefixCheckpoint_ok_iff sound.log (sound.slot checkpoint isSlot)
    (complete.checkpointed checkpoint isSlot)).mp validated

/-- In generation zero the durable log is a complete prefix. -/
def StartsComplete (model : RecoveryModel) : Prop :=
  model.walGeneration.isZero = true → model.CompletePrefix

theorem StartsComplete.effect (sound : model.Sound) (starts : model.StartsComplete)
    {operation : RunOperation} {response : Response}
    (effect : Effect model operation response final) : final.StartsComplete := by
  have all : ∀ record ∈ model.walRecords, Covers model.flushPosition record.position →
      record ∈ model.walRecords := fun _ member _ => member
  cases effect with
  | allocateCoordinatorEpoch live | beginTransaction live | writePageStore live =>
      exact fun zero => (starts zero).live sound live rfl rfl all (Reaches.refl _)
  | appendTransactionPage live | appendTransactionCommit live | appendRawPage live =>
      exact fun zero => (starts zero).live sound live rfl rfl
        (fun _ member _ => List.mem_append_left _ member) (Reaches.refl _)
  | flushWal live =>
      have reaches := sound.log.reaches_afterFlush
      unfold afterFlush at reaches ⊢
      split at reaches
      · exact fun zero => (starts zero).live sound live rfl rfl all reaches
      · exact starts
  | publishCheckpoint live =>
      intro zero
      have complete := starts zero
      refine { complete with checkpointed := ?_, admitted := ?_ }
      · intro checkpoint member
        cases member
        exact { PrefixCheckpoint.publish sound complete _ with }
      · intro phase
        rcases live with isLive | isLive <;> simp [markCompletionStale, isLive] at phase
  | crash running | crashPreservingCompleteWalTail running =>
      exact fun zero => (starts zero).keep sound rfl (by simp [afterCrash]) (.inr rfl)
        (fun _ member durable => LogInvariant.mem_afterCrash.mpr ⟨member, .inr durable⟩)
        (Reaches.refl _)
  | reopen crashed next valid => exact fun zero => (starts zero).reopen _
  | select unrecovered accepted =>
      intro zero
      have admitted := admitted_of_checkSelection sound (starts zero) zero accepted
      exact (starts zero).keep sound rfl (fun _ => admitted) (.inl rfl) all
        (Reaches.refl _)
  | planReplay selected =>
      intro zero
      have admitted := (starts zero).admitted (.inl selected)
      exact (starts zero).keep sound rfl (fun _ => admitted) (.inl rfl) all
        (Reaches.refl _)
  | repairPages planned found | repairPagesAppliedFault planned found =>
      intro zero
      have admitted := (starts zero).admitted (.inr (.inl planned))
      exact (starts zero).keep sound rfl (fun _ => admitted) (.inl rfl) all
        (Reaches.refl _)
  | restoreTransactions repaired fresh found =>
      rw [sound.phases.planned (.inr repaired)] at found
      cases found
      exact fun zero => (starts zero).restore sound repaired _
  | complete restored | analyzeRetention completed fresh selected analyzed =>
      exact fun zero =>
        (starts zero).keep sound rfl (by simp [afterAnalysis]) (.inl rfl) all
        (Reaches.refl _)
  | reclaim analyzed builds =>
      intro zero
      cases zero.symm.trans (Generation.checkedNext_nonzero builds.generation)

/-- Everything a reopen relies on, in every state of a run. -/
structure Openable (model : RecoveryModel) : Prop where
  sound : model.Sound
  undisturbed : model.Undisturbed
  header : model.HeaderInvariant
  starts : model.StartsComplete

namespace Openable

theorem new (logId : LogId) : (RecoveryModel.new logId).Openable where
  sound := Sound.new logId
  undisturbed := Undisturbed.new logId
  header := HeaderInvariant.new logId
  starts := fun _ => CompletePrefix.new logId

theorem effect (openable : model.Openable) {operation : RunOperation}
    {response : Response}
    (effect : Effect model operation response final) : final.Openable where
  sound := openable.sound.effect effect
  undisturbed := openable.undisturbed.effect effect
  header := HeaderInvariant.effect openable.sound openable.header effect
  starts := StartsComplete.effect openable.sound openable.starts effect

theorem after (openable : model.Openable) (operation : RunOperation) :
    (model.after operation).Openable := by
  rcases openable.sound.after_cases operation with unchanged | ⟨response, _, effect⟩
  · rw [unchanged]
    exact openable
  · exact openable.effect effect

theorem run (openable : model.Openable) (operations : List RunOperation) :
    (Execution.run RecoveryModel.after model operations).Openable :=
  Execution.invariant_run (fun _ operation openable _ => openable.after operation)
    operations (Execution.respects_true _ operations) openable

end Openable

theorem openable_reached (logId : LogId) (operations : List RunOperation) :
    (reached logId operations).Openable :=
  (Openable.new logId).run operations

end RecoveryModel

end Ntsql.Recovery
