import Ntsql.Recovery.Reopening

/-! # Recovering from any reachable state

With one anchor for every checkpoint, recovery gets through from any crash
unless generation zero has published a transaction's unflushed positions:
`publish_checkpoint` takes the active table as it is, and a reopen demands that
each listed position lie at or below the frontier. -/

namespace Ntsql.Recovery

variable {model final : RecoveryModel} {anchor : CheckpointAnchor}

open RecoveryModel Operation

/-- The two kinds of crash. -/
def RunOperation.IsCrash (operation : RunOperation) : Prop :=
  operation = .crash ∨ operation = .crashPreservingCompleteWalTail

/-- Every checkpoint of the run is published under `anchor`. -/
def OneAnchor (anchor : CheckpointAnchor) (operations : List RunOperation) : Prop :=
  ∀ other, .publishCheckpoint other ∈ operations → other = anchor

namespace RecoveryModel

/-- A lineage and an epoch are left to recover with. -/
def HasRoom (model : RecoveryModel) : Prop :=
  model.lineageId.checkedNext.isSome ∧ model.nextEpoch.isSome

/-- The published checkpoint of generation zero lists no position past its
frontier. -/
def ListsFlushed (model : RecoveryModel) : Prop :=
  model.walGeneration.isZero = true → ∀ checkpoint ∈ model.checkpointSlot,
    checkpoint.Admitted

/-- Generation zero publishes only while active transactions are flushed. -/
def PublishesFlushed (model : RecoveryModel) (operation : RunOperation) : Prop :=
  ∀ anchor, operation = .publishCheckpoint anchor → model.walGeneration.isZero = true →
    ∀ entry ∈ model.activeTransactions.toList, ∀ position ∈ entry.2,
      Covers model.flushPosition position

def crashAndRecover (model : RecoveryModel) (crashes : RunOperation) :
    Option RecoveryModel :=
  if model.phase = .crashed then model.performAll recoverySteps
  else model.performAll (crashes :: recoverySteps)

/-! ## One anchor -/

structure Anchored (anchor : CheckpointAnchor) (model : RecoveryModel) : Prop where
  slot : ∀ checkpoint ∈ model.checkpointSlot, checkpoint.anchor = anchor
  pruned : model.walGeneration.isZero = false →
    model.checkpointSlot.isSome ∧ model.generationAnchor = some anchor

namespace Anchored

theorem new (logId : LogId) : (RecoveryModel.new logId).Anchored anchor where
  slot := by simp [RecoveryModel.new]
  pruned := fun pruned => by cases pruned

theorem effect (sound : model.Sound) (anchored : model.Anchored anchor)
    {operation : RunOperation} {response : Response}
    (effect : Effect model operation response final)
    (same : ∀ other, operation = .publishCheckpoint other → other = anchor) :
    final.Anchored anchor := by
  cases effect with
  | flushWal live =>
      unfold afterFlush
      split
      · exact { anchored with }
      · exact anchored
  | publishCheckpoint live =>
      refine ⟨?_, ?_⟩
      · intro checkpoint member
        cases member
        exact same _ rfl
      · exact fun pruned => ⟨rfl, (anchored.pruned pruned).2⟩
  | reopen crashed next valid =>
      refine ⟨?_, ?_⟩
      · intro checkpoint member
        rcases Option.map_eq_some_iff.mp member with ⟨original, isSlot, rfl⟩
        exact anchored.slot original isSlot
      · intro pruned
        refine ⟨?_, (anchored.pruned pruned).2⟩
        change (model.checkpointSlot.map (CheckpointSnapshot.rebrand _)).isSome = true
        rw [Option.isSome_map]
        exact (anchored.pruned pruned).1
  | reclaim analyzed builds =>
      -- the replacement names the selected checkpoint, which is still the slot's
      rcases sound.analyzed_settled analyzed with ⟨_, _, _, isAnalyzed, settled⟩
      have isSlot := settled.selectedSlot.symm.trans builds.selected
      refine ⟨anchored.slot, fun _ => ⟨?_, ?_⟩⟩
      · change model.checkpointSlot.isSome = true
        rw [isSlot]
        rfl
      · refine congrArg some (builds.anchor_eq.trans ?_)
        exact builds.anchored.symm.trans (anchored.slot _ isSlot)
  | allocateCoordinatorEpoch | beginTransaction | appendTransactionPage
  | appendTransactionCommit | appendRawPage | writePageStore | crash
  | crashPreservingCompleteWalTail | select | planReplay | repairPages
  | repairPagesAppliedFault | restoreTransactions | complete | analyzeRetention =>
      exact { anchored with }

theorem slotFits_iff (anchored : model.Anchored anchor) :
    model.SlotFits ↔ model.ListsFlushed := by
  unfold SlotFits ListsFlushed
  cases zero : model.walGeneration.isZero with
  | true => simp
  | false =>
      rcases anchored.pruned zero with ⟨present, isAnchor⟩
      rcases Option.isSome_iff_exists.mp present with ⟨checkpoint, isSlot⟩
      have named := anchored.slot checkpoint isSlot
      simp [isSlot, isAnchor, named]

end Anchored

/-! ## What generation zero lists -/

theorem admitted_checkpointSnapshot_iff (openable : model.Openable)
    (zero : model.walGeneration.isZero = true) :
    (model.checkpointSnapshot anchor).Admitted ↔
      ∀ entry ∈ model.activeTransactions.toList, ∀ position ∈ entry.2,
        Covers model.flushPosition position := by
  unfold CheckpointSnapshot.Admitted
  rw [checkpointSnapshot_frontier]
  constructor
  · intro admitted entry member position listed
    have listing : model.checkpointTransactions[entry.1]? = some entry.2 := by
      rw [checkpointTransactions_getElem?, mem_toList_iff.mp member]
      rfl
    exact admitted entry (mem_toList_iff.mpr listing) position listed
  · intro flushed entry member position listed
    have listing : model.checkpointTransactions[entry.1]? = some entry.2 :=
      mem_toList_iff.mp member
    rw [checkpointTransactions_getElem?] at listing
    rcases Option.or_eq_some_iff.mp listing with active | ⟨_, persisted⟩
    · exact flushed entry (mem_toList_iff.mpr active) position listed
    · exact ((openable.starts zero).restored entry.1 entry.2 persisted position listed).2

theorem ListsFlushed.effect (openable : model.Openable) (lists : model.ListsFlushed)
    {operation : RunOperation} {response : Response}
    (effect : Effect model operation response final)
    (flushed : model.PublishesFlushed operation) :
    final.ListsFlushed := by
  cases effect with
  | flushWal live =>
      unfold afterFlush
      split
      · exact lists
      · exact lists
  | publishCheckpoint live =>
      intro zero checkpoint member
      cases member
      exact (admitted_checkpointSnapshot_iff openable zero).mpr (flushed _ rfl zero)
  | reopen crashed next valid =>
      intro zero checkpoint member
      rcases Option.map_eq_some_iff.mp member with ⟨original, isSlot, rfl⟩
      exact lists zero original isSlot
  | reclaim analyzed builds =>
      intro zero
      cases zero.symm.trans (Generation.checkedNext_nonzero builds.generation)
  | allocateCoordinatorEpoch | beginTransaction | appendTransactionPage
  | appendTransactionCommit | appendRawPage | writePageStore | crash
  | crashPreservingCompleteWalTail | select | planReplay | repairPages
  | repairPagesAppliedFault | restoreTransactions | complete | analyzeRetention =>
      exact lists

theorem anchored_reached {logId : LogId} {operations : List RunOperation}
    (oneAnchor : OneAnchor anchor operations) :
      (reached logId operations).Anchored anchor := by
  have step (state : RecoveryModel) (operation : RunOperation)
      (holds : state.Sound ∧ state.Anchored anchor)
      (allowed : ∀ other, operation = .publishCheckpoint other → other = anchor) :
      (state.after operation).Sound ∧ (state.after operation).Anchored anchor := by
    refine ⟨holds.1.after operation, ?_⟩
    rcases holds.1.after_cases operation with unchanged | ⟨response, _, effect⟩
    · rw [unchanged]
      exact holds.2
    · exact holds.2.effect holds.1 effect allowed
  have allowed : Execution.Respects RecoveryModel.after
      (fun _ operation => ∀ other, operation = .publishCheckpoint other → other = anchor)
      (new logId) operations :=
    Execution.respects_of_forall fun operation member _ other isPublish =>
      oneAnchor other (isPublish ▸ member)
  exact (Execution.invariant_run step operations allowed
    ⟨Sound.new logId, Anchored.new logId⟩).2

theorem listsFlushed_reached {logId : LogId} {operations : List RunOperation}
    (flushed : Execution.Respects RecoveryModel.after PublishesFlushed
      (new logId) operations) :
    (reached logId operations).ListsFlushed := by
  have step (state : RecoveryModel) (operation : RunOperation)
      (holds : state.Openable ∧ state.ListsFlushed)
      (allowed : state.PublishesFlushed operation) :
      (state.after operation).Openable ∧ (state.after operation).ListsFlushed := by
    refine ⟨holds.1.after operation, ?_⟩
    rcases holds.1.sound.after_cases operation with unchanged | ⟨response, _, effect⟩
    · rw [unchanged]
      exact holds.2
    · exact holds.2.effect holds.1 effect allowed
  have initial : (new logId).ListsFlushed := by
    intro _ checkpoint member
    cases member
  exact (Execution.invariant_run step operations flushed ⟨Openable.new logId, initial⟩).2

/-! ## Recovery -/

theorem HasRoom.exists (room : model.HasRoom) (sound : model.Sound) :
    (∃ lineage, model.lineageId.checkedNext = some lineage) ∧
      ∃ epoch, epochAfter model.epochHighWater = some epoch := by
  refine ⟨Option.isSome_iff_exists.mp room.1, ?_⟩
  rw [← sound.transactions.epochNext]
  exact Option.isSome_iff_exists.mp room.2

theorem performAll_recoverySteps_iff (openable : model.Openable) (room : model.HasRoom) :
    (∃ final, model.performAll recoverySteps = some final) ↔
      model.phase = .crashed ∧ model.SlotFits := by
  change (∃ final, model.performAll (recoveryWith .repairPages) = some final) ↔ _
  simp only [performAll_recoveryWith_iff openable (.inl rfl)]
  constructor
  · intro performed
    rcases performed with ⟨_, crashed, fits, _⟩
    exact ⟨crashed, fits⟩
  · intro possible
    rcases room.exists openable.sound with ⟨⟨lineage, next⟩, epoch, fresh⟩
    exact ⟨_, possible.1, possible.2, lineage, epoch, next, fresh, rfl⟩

theorem perform_isCrash (sound : model.Sound) {crashes : RunOperation}
    (isCrash : crashes.IsCrash) (running : model.phase ≠ .crashed) :
    ∃ preserve, model.perform crashes = some (model.afterCrash preserve) := by
  rcases isCrash with rfl | rfl
  · exact ⟨false, (perform_crash_iff sound).mpr ⟨running, rfl⟩⟩
  · exact ⟨true, (perform_crashPreserving_iff sound).mpr ⟨running, rfl⟩⟩

theorem perform_isCrash_crashed (sound : model.Sound) {crashes : RunOperation}
    (isCrash : crashes.IsCrash) (crashed : model.phase = .crashed) :
    model.perform crashes = none := by
  apply Option.eq_none_iff_forall_ne_some.mpr
  intro final performed
  rcases isCrash with rfl | rfl
  · exact ((perform_crash_iff sound).mp performed).1 crashed
  · exact ((perform_crashPreserving_iff sound).mp performed).1 crashed

theorem performAll_crash_iff (openable : model.Openable) (room : model.HasRoom)
    {crashes : RunOperation} (isCrash : crashes.IsCrash) :
    (∃ final, model.performAll (crashes :: recoverySteps) = some final) ↔
      model.phase ≠ .crashed ∧ model.SlotFits := by
  by_cases crashed : model.phase = .crashed
  · simp [performAll_cons, perform_isCrash_crashed openable.sound isCrash crashed,
      crashed]
  · rcases perform_isCrash openable.sound isCrash crashed with ⟨preserve, crash⟩
    have crashedRoom : (model.afterCrash preserve).HasRoom := room
    rw [performAll_cons, crash, Option.bind_some,
      performAll_recoverySteps_iff (openable.perform crash) crashedRoom]
    exact and_congr_left fun _ => iff_of_true rfl crashed

/-- Whatever the crash, recovery succeeds exactly when the slot fits. -/
theorem crashAndRecover_iff (openable : model.Openable) (room : model.HasRoom)
    {crashes : RunOperation} (isCrash : crashes.IsCrash) :
    (∃ final, model.crashAndRecover crashes = some final) ↔ model.SlotFits := by
  unfold crashAndRecover
  split
  · rename_i crashed
    rw [performAll_recoverySteps_iff openable room, and_iff_right crashed]
  · rename_i running
    rw [performAll_crash_iff openable room isCrash, and_iff_right running]

end RecoveryModel

/-- A transaction's page is published before it is flushed. -/
def unflushedPublication : List RunOperation :=
  [.allocateCoordinatorEpoch, .beginTransaction,
    .appendTransactionPage Sample.transaction Sample.page 1 Sample.version,
    .publishCheckpoint Sample.anchor]

theorem unflushed_publication_unrecoverable :
    ¬∀ (logId : LogId) (anchor : CheckpointAnchor) (operations : List RunOperation),
      OneAnchor anchor operations → (reached logId operations).HasRoom →
        ∃ final, (reached logId operations).crashAndRecover .crash = some final := by
  intro recovers
  have oneAnchor : OneAnchor Sample.anchor unflushedPublication := by
    intro other member
    simpa [unflushedPublication] using member
  have room : (reached Sample.log unflushedPublication).HasRoom :=
    ⟨by decide +kernel, by decide +kernel⟩
  rcases recovers Sample.log Sample.anchor unflushedPublication oneAnchor room with
    ⟨final, done⟩
  have fails : ((reached Sample.log unflushedPublication).crashAndRecover .crash).isSome =
      false := by
    decide +kernel
  rw [done] at fails
  cases fails

theorem recovers_iff_lists_flushed (logId : LogId) (anchor : CheckpointAnchor)
    (operations : List RunOperation) (oneAnchor : OneAnchor anchor operations)
    (room : (reached logId operations).HasRoom) {crashes : RunOperation}
    (isCrash : crashes.IsCrash) :
    (Execution.Respects RecoveryModel.after PublishesFlushed
      (RecoveryModel.new logId) operations →
      ∃ final, (reached logId operations).crashAndRecover crashes = some final) ∧
    ((∃ final, (reached logId operations).crashAndRecover crashes = some final) ↔
      (reached logId operations).ListsFlushed) ∧
    ((∃ final, (reached logId operations).performAll (crashes :: recoverySteps) =
      some final) ↔
      (reached logId operations).phase ≠ .crashed ∧
        (reached logId operations).ListsFlushed) := by
  have openable := openable_reached logId operations
  have fits :=
    (anchored_reached oneAnchor : (reached logId operations).Anchored anchor).slotFits_iff
  rw [crashAndRecover_iff openable room isCrash,
    performAll_crash_iff openable room isCrash, fits]
  exact ⟨listsFlushed_reached, Iff.rfl, Iff.rfl⟩

/-- The page is flushed when the checkpoint lists it, and another one after. -/
def flushedPublication : List RunOperation :=
  [.allocateCoordinatorEpoch, .beginTransaction,
    .appendTransactionPage Sample.transaction Sample.page 1 Sample.version, .flushWal,
    .publishCheckpoint Sample.anchor,
    .appendTransactionPage Sample.transaction Sample.page 2 Sample.version]

theorem flushed_publication_recovers :
    ∃ final, (reached Sample.log flushedPublication).crashAndRecover .crash =
      some final := by
  have oneAnchor : OneAnchor Sample.anchor flushedPublication := by
    intro other member
    simpa [flushedPublication] using member
  have room : (reached Sample.log flushedPublication).HasRoom :=
    ⟨by decide +kernel, by decide +kernel⟩
  refine (recovers_iff_lists_flushed Sample.log Sample.anchor flushedPublication
    oneAnchor room (.inl rfl)).1 ⟨nofun, nofun, nofun, nofun, ?_, nofun, trivial⟩
  intro other isPublish _
  decide +kernel

end Ntsql.Recovery
