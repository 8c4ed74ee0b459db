import Ntsql.Recovery.Operations
import Ntsql.Recovery.Transition.Retention

/-! # Effects of run operations

What a run operation did, as one case for each operation that changes
something. Invariants are proved over these cases. -/

namespace Ntsql.Recovery

variable {model final : RecoveryModel}

open RecoveryModel Operation

/-- `operation` answered `response` and moved `model` to the last argument. -/
inductive Effect (model : RecoveryModel) : RunOperation → Response → RecoveryModel → Prop
  | allocateCoordinatorEpoch {epoch : U64} (live : model.IsLive)
      (next : model.nextEpoch = some epoch) :
      Effect model .allocateCoordinatorEpoch (.epoch epoch)
        ({ model with
          nextEpoch := checkedSucc epoch
          currentEpoch := some epoch
          nextSequence := some 1
          epochHighWater :=
            raiseHighWater model.epochHighWater epoch }.markCompletionStale
            "epoch allocated")
  | beginTransaction {id : TransactionId} (live : model.IsLive)
      (current : model.currentEpoch = some id.epoch)
      (next : model.nextSequence = some id.sequence)
      (fresh : id ∉ model.activeTransactions) :
      Effect model .beginTransaction (.transaction id)
        ({ model with
          nextSequence := checkedSucc id.sequence
          activeTransactions :=
            model.activeTransactions.insert id [] }.markCompletionStale
            "transaction begun")
  | appendTransactionPage {txn : TransactionId} {page : PageId} {value : U64}
      {version : PageVersion} {position : WalPosition} {positions : List WalPosition}
      (live : model.IsLive) (active : model.activeTransactions[txn]? = some positions)
      (next : model.nextPosition = some position.get) :
      Effect model (.appendTransactionPage txn page value version) (.position position)
        ({ model with
          nextPosition := checkedSucc position.get
          walRecords := model.walRecords ++
            [model.transactionPageRecord position txn page value version]
          activeTransactions :=
            model.activeTransactions.insert txn (positions ++ [position])
            }.markCompletionStale "page appended")
  | appendTransactionCommit {txn : TransactionId} {position : WalPosition}
      (live : model.IsLive) (active : txn ∈ model.activeTransactions)
      (undecided : txn ∉ model.committedTransactions)
      (next : model.nextPosition = some position.get) :
      Effect model (.appendTransactionCommit txn) (.position position)
        ({ model with
          nextPosition := checkedSucc position.get
          walRecords := model.walRecords ++ [model.transactionCommitRecord position txn]
          committedTransactions := model.committedTransactions.insert txn position
          activeTransactions := model.activeTransactions.erase txn }.markCompletionStale
            "commit appended")
  | appendRawPage {page : PageId} {value : U64} {version : PageVersion}
      {position : WalPosition} (live : model.IsLive)
      (next : model.nextPosition = some position.get) :
      Effect model (.appendRawPage page value version) (.position position)
        ({ model with
          nextPosition := checkedSucc position.get
          walRecords :=
            model.walRecords ++ [model.rawPageRecord position page value version]
            }.markCompletionStale "raw page appended")
  | flushWal (live : model.IsLive) :
      Effect model .flushWal (.flushed model.afterFlush.flushPosition) model.afterFlush
  | writePageStore {position : WalPosition} {snapshot : PageSnapshot}
      (live : model.IsLive) (accepted : model.checkPageWrite position = .ok snapshot) :
      Effect model (.writePageStore position) (.page snapshot.pageId)
        ({ model with
          pageStore :=
            model.pageStore.insert snapshot.pageId snapshot }.markCompletionStale
            "page store written")
  | publishCheckpoint {anchor : CheckpointAnchor} (live : model.IsLive) :
      Effect model (.publishCheckpoint anchor) .unit
        ({ model with
          checkpointSlot := some (model.checkpointSnapshot anchor) }.markCompletionStale
            "checkpoint published")
  | crash (running : model.phase ≠ .crashed) :
      Effect model .crash .unit (model.afterCrash false)
  | crashPreservingCompleteWalTail (running : model.phase ≠ .crashed) :
      Effect model .crashPreservingCompleteWalTail .unit (model.afterCrash true)
  | reopen {lineage : LineageId} (crashed : model.phase = .crashed)
      (next : model.lineageId.checkedNext = some lineage)
      (valid : model.validateSelectedOnOpen = .ok ()) :
      Effect model .reopen (.lineage lineage) (model.afterReopen lineage)
  | select (unrecovered : model.phase = .unrecovered)
      (accepted : model.checkSelection model.observeMinimalMetadata
        model.observeFullMetadata = .ok ()) :
      Effect model .select .unit
        { model with
          selectedCheckpoint := model.checkpointSlot
          phase := .selected }
  | planReplay (selected : model.phase = .selected) :
      Effect model .planReplay (.count model.replayWindow.length)
        { model with
          replayPlan := some model.replayWindow
          phase := .replayPlanned }
  | repairPages {count : Nat} {plan : List WalRecord}
      (planned : model.phase = .replayPlanned) (found : model.replayPlan = some plan) :
      Effect model .repairPages (.count count)
        { model.withStore (model.repairedStore plan) with phase := .pagesRepaired }
  | repairPagesAppliedFault {count : Nat} {plan : List WalRecord}
      (planned : model.phase = .replayPlanned) (found : model.replayPlan = some plan) :
      Effect model .repairPagesAppliedFault
        (.applied (.appliedThenError count .repairFault))
        { model.withStore (model.repairedStore plan) with phase := .pagesRepaired }
  | restoreTransactions {epoch : U64} {plan : List WalRecord}
      (repaired : model.phase = .pagesRepaired) (fresh : model.freshEpoch = .ok epoch)
      (found : model.replayPlan = some plan) :
      Effect model .restoreTransactions
        (.restoration ⟨epoch, (model.restoredFrom plan).active⟩)
        (model.afterRestore epoch plan)
  | complete (restored : model.phase = .transactionsRestored) :
      Effect model .complete .unit
        { model with
          completionEvidence := some model.completedEvidence
          locks := .allLive
          phase := .completeLive }
  | analyzeRetention {checkpoint : CheckpointSnapshot} {floor : Option WalPosition}
      {evidence : CompletionEvidence} (completed : model.phase = .completeLive)
      (fresh : model.HasFresh evidence)
      (selected : model.selectedCheckpoint = some checkpoint)
      (analyzed : model.retentionFloor checkpoint = .ok floor) :
      Effect model .analyzeRetention .unit (model.afterAnalysis checkpoint floor)
  | reclaim {analysis : RetentionAnalysis} {checkpoint : CheckpointSnapshot}
      {replacement : WalReplacement} (analyzed : model.phase = .retentionAnalyzed)
      (builds : model.Builds analysis checkpoint replacement) :
      Effect model .reclaim (.generation replacement.targetGeneration)
        (model.afterReclaim replacement)

/-! ## Repair touches the page store only -/

namespace RecoveryModel

def SameButStore (model final : RecoveryModel) : Prop :=
  ∃ store, final = model.withStore store

theorem SameButStore.refl (model : RecoveryModel) : model.SameButStore model :=
  ⟨model.pageStore, rfl⟩

theorem SameButStore.trans (first second third : RecoveryModel) :
    first.SameButStore second → second.SameButStore third → first.SameButStore third := by
  intro toSecond toThird
  rcases toSecond with ⟨_, rfl⟩
  rcases toThird with ⟨store, rfl⟩
  exact ⟨store, rfl⟩

end RecoveryModel

theorem installLagging_relates (repaired : Nat) (page : PageId)
    (snapshot : PageSnapshot) :
    Relates SameButStore (installLagging repaired page snapshot) := by
  intro model
  rw [installLagging, get_bind]
  split
  · rw [set_bind]
    cases checkedCount repaired with
    | none => exact ⟨_, rfl⟩
    | some count => exact ⟨_, rfl⟩
  · exact SameButStore.refl model

theorem repairCheckpointPages_relates (repaired : Nat)
    (entries : List (PageId × PageSnapshot)) :
    Relates SameButStore (repairCheckpointPages repaired entries) := by
  induction entries generalizing repaired with
  | nil => exact SameButStore.refl
  | cons entry entries induction =>
      intro model
      rw [repairCheckpointPages, get_bind]
      exact (installLagging_relates _ _ _).bind SameButStore.trans induction model

theorem repairPlannedRecords_relates (repaired : Nat) (plan : List WalRecord) :
    Relates SameButStore (repairPlannedRecords repaired plan) := by
  induction plan generalizing repaired with
  | nil => exact SameButStore.refl
  | cons record plan induction =>
      intro model
      rw [repairPlannedRecords, get_bind]
      refine (Relates.check SameButStore.refl _).bind SameButStore.trans ?_ model
      intro _
      split
      · apply (Relates.check SameButStore.refl _).bind SameButStore.trans
        intro snapshot
        exact (installLagging_relates _ _ _).bind SameButStore.trans induction
      · exact induction repaired

theorem repairPagesInner_relates : Relates SameButStore repairPagesInner := by
  intro model
  rw [repairPagesInner, get_bind]
  refine (Relates.check SameButStore.refl _).bind SameButStore.trans ?_ model
  intro plan
  apply Relates.bind SameButStore.trans
  · cases model.selectedCheckpoint with
    | none => exact SameButStore.refl
    | some checkpoint => exact repairCheckpointPages_relates 0 _
  · intro repaired
    exact repairPlannedRecords_relates repaired plan

theorem repairPages_error {error : ModelError}
    (fails : repairPages model = .error error final) :
    model.SameButStore final := by
  rw [repairPages, get_bind] at fails
  rcases bind_error_iff.mp fails with refused | ⟨_, middle, legal, failed⟩
  · rw [(check_error_iff.mp refused).2]
    exact SameButStore.refl final
  · rw [(check_ok_iff.mp legal).2]
    rcases bind_error_iff.mp failed with inner | ⟨_, _, _, done⟩
    · have relates := repairPagesInner_relates middle
      rw [inner] at relates
      exact relates
    · cases done

/-- A success either has its operation's effect or, when an applied fault
reports that nothing was applied, is a failed repair. -/
theorem effect_of_ok {operation : RunOperation} {response : Response}
    (succeeds : operation.apply model = .ok response final) :
    Effect model operation response final ∨
      ∃ error, response = .applied (.unapplied error) ∧
        (final = model ∨ model.phase = .replayPlanned ∧
          repairPagesInner model = .error error final) := by
  cases operation with
  | allocateCoordinatorEpoch =>
      rcases map_ok_iff.mp succeeds with ⟨epoch, applied, rfl⟩
      rcases allocateCoordinatorEpoch_ok_iff.mp applied with ⟨live, next, rfl⟩
      exact .inl (.allocateCoordinatorEpoch live next)
  | beginTransaction =>
      rcases map_ok_iff.mp succeeds with ⟨id, applied, rfl⟩
      rcases beginTransaction_ok_iff.mp applied with ⟨live, current, next, fresh, rfl⟩
      exact .inl (.beginTransaction live current next fresh)
  | appendTransactionPage txn page value version =>
      rcases map_ok_iff.mp succeeds with ⟨position, applied, rfl⟩
      rcases appendTransactionPage_ok_iff.mp applied with
        ⟨positions, live, active, next, rfl⟩
      exact .inl (.appendTransactionPage live active next)
  | appendTransactionCommit txn =>
      rcases map_ok_iff.mp succeeds with ⟨position, applied, rfl⟩
      rcases appendTransactionCommit_ok_iff.mp applied with
        ⟨live, active, undecided, next, rfl⟩
      exact .inl (.appendTransactionCommit live active undecided next)
  | appendRawPage page value version =>
      rcases map_ok_iff.mp succeeds with ⟨position, applied, rfl⟩
      rcases appendRawPage_ok_iff.mp applied with ⟨live, next, rfl⟩
      exact .inl (.appendRawPage live next)
  | flushWal =>
      rcases map_ok_iff.mp succeeds with ⟨flushed, applied, rfl⟩
      rcases flushWal_ok_iff.mp applied with ⟨live, rfl, rfl⟩
      exact .inl (.flushWal live)
  | writePageStore position =>
      rcases map_ok_iff.mp succeeds with ⟨page, applied, rfl⟩
      rcases writePageStore_ok_iff.mp applied with ⟨snapshot, live, accepted, rfl, rfl⟩
      exact .inl (.writePageStore live accepted)
  | publishCheckpoint anchor =>
      rcases map_ok_iff.mp succeeds with ⟨_, applied, rfl⟩
      rcases publishCheckpoint_ok_iff.mp applied with ⟨live, rfl⟩
      exact .inl (.publishCheckpoint live)
  | crash =>
      rcases map_ok_iff.mp succeeds with ⟨_, applied, rfl⟩
      rcases crashWithCompleteTail_ok_iff.mp applied with ⟨running, rfl⟩
      exact .inl (.crash running)
  | crashPreservingCompleteWalTail =>
      rcases map_ok_iff.mp succeeds with ⟨_, applied, rfl⟩
      rcases crashWithCompleteTail_ok_iff.mp applied with ⟨running, rfl⟩
      exact .inl (.crashPreservingCompleteWalTail running)
  | reopen =>
      rcases map_ok_iff.mp succeeds with ⟨lineage, applied, rfl⟩
      rcases reopen_ok_iff.mp applied with ⟨crashed, next, valid, _, rfl⟩
      exact .inl (.reopen crashed next valid)
  | select =>
      rcases map_ok_iff.mp succeeds with ⟨_, applied, rfl⟩
      rcases select_ok_iff.mp applied with ⟨unrecovered, accepted, rfl⟩
      exact .inl (.select unrecovered accepted)
  | planReplay =>
      rcases map_ok_iff.mp succeeds with ⟨count, applied, rfl⟩
      rcases planReplay_ok_iff.mp applied with ⟨selected, rfl, rfl⟩
      exact .inl (.planReplay selected)
  | repairPages =>
      rcases map_ok_iff.mp succeeds with ⟨count, applied, rfl⟩
      rcases repairPages_ok applied with ⟨planned, plan, found, _, rfl⟩
      exact .inl (.repairPages planned found)
  | repairPagesFault =>
      rcases map_ok_iff.mp succeeds with ⟨_, applied, _⟩
      exact absurd applied repairPagesFault_fails
  | repairPagesAppliedFault =>
      rcases map_ok_iff.mp succeeds with ⟨result, applied, rfl⟩
      rcases repairPagesAppliedFault_ok applied with
        ⟨error, rfl, failed⟩ | ⟨count, plan, rfl, planned, found, _, rfl⟩
      · exact .inr ⟨error, rfl, failed.imp And.right id⟩
      · exact .inl (.repairPagesAppliedFault planned found)
  | restoreTransactions =>
      rcases map_ok_iff.mp succeeds with ⟨summary, applied, rfl⟩
      rcases restoreTransactions_ok_iff.mp applied with
        ⟨epoch, plan, repaired, fresh, found, _, rfl, rfl⟩
      exact .inl (.restoreTransactions repaired fresh found)
  | complete =>
      rcases map_ok_iff.mp succeeds with ⟨_, applied, rfl⟩
      rcases complete_ok_iff.mp applied with ⟨restored, rfl⟩
      exact .inl (.complete restored)
  | analyzeRetention =>
      rcases map_ok_iff.mp succeeds with ⟨_, applied, rfl⟩
      rcases analyzeRetention_ok_iff.mp applied with
        ⟨checkpoint, floor, completed, ⟨evidence, fresh⟩, selected, _, _, analyzed, rfl⟩
      exact .inl (.analyzeRetention completed fresh selected analyzed)
  | reclaim =>
      rcases map_ok_iff.mp succeeds with ⟨generation, applied, rfl⟩
      rcases reclaim_ok applied with ⟨replacement, analyzed, built, _, rfl, rfl⟩
      rcases buildReplacement_ok built with ⟨analysis, checkpoint, builds⟩
      exact .inl (.reclaim analyzed builds)

end Ntsql.Recovery
