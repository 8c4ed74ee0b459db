import Ntsql.Recovery.Identities
import Ntsql.Recovery.Outcome
import Ntsql.Recovery.Recoverability

/-! # Interrupted recovery converges

No step of a recovery and no crash changes what recovery reads, so whatever was
interrupted, a recovery that runs to its end yields what the first one would
have, under a lineage and an epoch above all that came before. -/

namespace Ntsql.Recovery

variable {model final : RecoveryModel}

open RecoveryModel

/-- The steps of a recovery, and the crashes that cut it off. -/
def RunOperation.IsRecovery : RunOperation → Prop
  | .reopen | .select | .planReplay | .repairPages | .repairPagesFault
  | .repairPagesAppliedFault | .restoreTransactions | .complete | .crash
  | .crashPreservingCompleteWalTail => True
  | .allocateCoordinatorEpoch | .beginTransaction | .appendTransactionPage ..
  | .appendTransactionCommit _ | .appendRawPage .. | .flushWal | .writePageStore _
  | .publishCheckpoint _ | .analyzeRetention | .reclaim => False

def Response.handedLineage : Response → Option U64
  | .lineage handed => some handed.get
  | _ => none

namespace RecoveryModel

structure RecoversLike (model final : RecoveryModel) : Prop where
  durableLog : final.durableLog = model.durableLog
  recoverable : final.recoverable = model.recoverable
  slotFits : final.SlotFits ↔ model.SlotFits

theorem RecoversLike.refl (model : RecoveryModel) : model.RecoversLike model :=
  ⟨rfl, rfl, Iff.rfl⟩

theorem RecoversLike.trans {first middle last : RecoveryModel}
    (earlier : first.RecoversLike middle) (later : middle.RecoversLike last) :
    first.RecoversLike last :=
  ⟨later.durableLog.trans earlier.durableLog, later.recoverable.trans earlier.recoverable,
    later.slotFits.trans earlier.slotFits⟩

theorem RecoversLike.crash (log : model.LogInvariant) (preserve : Bool) :
    model.RecoversLike (model.afterCrash preserve) :=
  ⟨durableLog_afterCrash log preserve, recoverable_afterCrash log preserve, Iff.rfl⟩

theorem RecoversLike.reopen (lineage : LineageId) :
    model.RecoversLike (model.afterReopen lineage) :=
  ⟨durableLog_afterReopen lineage, recoverable_afterReopen lineage,
    slotFits_afterReopen lineage⟩

theorem recoversLike_of_effect (sound : model.Sound) {operation : RunOperation}
    {response : Response} (isRecovery : operation.IsRecovery)
    (effect : Effect model operation response final) : model.RecoversLike final := by
  cases effect with
  | crash running => exact .crash sound.log false
  | crashPreservingCompleteWalTail running => exact .crash sound.log true
  | reopen crashed next valid => exact .reopen _
  | select | planReplay | repairPages | repairPagesAppliedFault | restoreTransactions
  | complete => exact ⟨rfl, rfl, Iff.rfl⟩
  | allocateCoordinatorEpoch | beginTransaction | appendTransactionPage
  | appendTransactionCommit | appendRawPage | flushWal | writePageStore |
      publishCheckpoint
  | analyzeRetention | reclaim => exact isRecovery.elim

theorem recoversLike_run (sound : model.Sound) {operations : List RunOperation}
    (areRecovery : ∀ operation ∈ operations, operation.IsRecovery) :
    model.RecoversLike (Execution.run RecoveryModel.after model operations) := by
  have step (state : RecoveryModel) (operation : RunOperation) (sound : state.Sound)
      (isRecovery : operation.IsRecovery) :
        state.RecoversLike (state.after operation) := by
    rcases sound.after_cases operation with unchanged | ⟨response, _, effect⟩
    · rw [unchanged]
      exact .refl state
    · exact recoversLike_of_effect sound isRecovery effect
  exact Execution.relation_run Sound RecoversLike .refl (fun _ _ _ => .trans)
    (fun _ operation sound _ => sound.after operation) step operations
    (Execution.respects_of_forall fun operation member _ => areRecovery operation member)
      sound

/-! ## Lineages -/

/-- A lineage number above the model's own. -/
def LineageAhead (model : RecoveryModel) (lineage : U64) : Prop :=
  model.lineageId.get < lineage

theorem lineage_advances {operation : RunOperation} {response : Response}
    (effect : Effect model operation response final) :
    (∀ later, final.LineageAhead later → model.LineageAhead later) ∧
      ∀ lineage, response.handedLineage = some lineage →
        model.LineageAhead lineage ∧ ∀ later, final.LineageAhead later →
          lineage < later := by
  cases effect with
  | reopen crashed next valid =>
      rcases Option.map_eq_some_iff.mp next with ⟨value, advances, rfl⟩
      have above := lt_of_checkedSucc advances
      refine ⟨fun later ahead => above.trans ahead, ?_⟩
      intro lineage handed
      cases handed
      exact ⟨above, fun later ahead => ahead⟩
  | flushWal live =>
      refine ⟨?_, nofun⟩
      unfold afterFlush
      split <;> exact fun later ahead => ahead
  | allocateCoordinatorEpoch | beginTransaction | appendTransactionPage
  | appendTransactionCommit | appendRawPage | writePageStore | publishCheckpoint | crash
  | crashPreservingCompleteWalTail | select | planReplay | repairPages
  | repairPagesAppliedFault | restoreTransactions | complete |
      analyzeRetention | reclaim =>
      exact ⟨fun later ahead => ahead, nofun⟩

end RecoveryModel

/-- The pages of two models agree in value, position and version. -/
def SamePages (left right : RecoveryModel) : Prop :=
  ∀ page : PageId, left.pageStore[page]?.map PageSnapshot.content =
    right.pageStore[page]?.map PageSnapshot.content

theorem interrupted_recovery_converges (logId : LogId)
    (operations interrupted : List RunOperation)
    (areRecovery : ∀ operation ∈ interrupted, operation.IsRecovery)
    (repair lastRepair : RunOperation) (isRepair : repair.IsRepair)
    (isLastRepair : lastRepair.IsRepair) (uninterrupted : RecoveryModel)
    (recovers : (reached logId operations).performAll (recoveryWith repair) =
      some uninterrupted)
    (crashed : (reached logId (operations ++ interrupted)).phase = .crashed)
    (room : (reached logId (operations ++ interrupted)).HasRoom) :
    ∃ final, (reached logId (operations ++ interrupted)).performAll
        (recoveryWith lastRepair) = some final ∧
      SamePages final uninterrupted ∧
      final.persistedTransactions = uninterrupted.persistedTransactions ∧
      (∀ lineage ∈ handedOut Response.handedLineage logId (operations ++ interrupted),
        lineage < final.lineageId.get) ∧
      ∃ fresh, final.currentEpoch = some fresh ∧
        ∀ epoch ∈ handedOut Response.handedEpoch logId (operations ++ interrupted),
          epoch < fresh := by
  have openable := openable_reached logId operations
  have reopenable := openable_reached logId (operations ++ interrupted)
  have alike : (reached logId operations).RecoversLike
      (reached logId (operations ++ interrupted)) := by
    rw [reached, reached, Execution.run_append]
    exact recoversLike_run openable.sound areRecovery
  rcases (performAll_recoveryWith_iff openable isRepair).mp recovers with
    ⟨firstCrashed, fits, firstLineage, firstEpoch, firstNext, firstFresh, rfl⟩
  rcases room.exists reopenable.sound with ⟨⟨lineage, next⟩, epoch, fresh⟩
  have lastFits := alike.slotFits.mpr fits
  have performed := (performAll_recoveryWith_iff reopenable isLastRepair).mpr
    ⟨crashed, lastFits, lineage, epoch, next, fresh, rfl⟩
  have first := restored_sound openable firstCrashed fits firstNext firstFresh
  have last := restored_sound reopenable crashed lastFits next fresh
  refine ⟨_, performed, ?_, ?_, ?_, epoch, rfl, ?_⟩
  · intro page
    refine content_congr last first (last.phases.repaired (.inr rfl))
      (first.phases.repaired (.inr rfl)) page fun content => ?_
    rw [durableLog_restored, durableLog_restored, alike.durableLog]
  · change (restored _ lineage epoch).persistedTransactions =
      (restored _ firstLineage firstEpoch).persistedTransactions
    rw [restored_persistedTransactions, restored_persistedTransactions, alike.recoverable]
  · apply handedOut_lt_of_ahead (fun _ => rfl) (fun _ effect => lineage_advances effect)
    rcases Option.map_eq_some_iff.mp next with ⟨value, advances, rfl⟩
    exact lt_of_checkedSucc advances
  · exact handedOut_lt_of_ahead (fun _ => rfl)
      (fun sound effect => epoch_advances sound effect)
      logId (operations ++ interrupted) (lt_of_epochAfter fresh)

/-- The first recovery is cut off after an applied repair, the second after its
restoration. -/
def interruptedRecovery : List RunOperation :=
  [.reopen, .select, .planReplay, .repairPagesAppliedFault, .crash, .reopen, .select,
    .planReplay, .repairPages, .restoreTransactions, .crashPreservingCompleteWalTail]

/-- The model lost its volatile state with a transaction open. -/
def crashedPublication : List RunOperation := flushedPublication ++ [.crash]

theorem interrupted_recovery_converges_with_open_transaction :
    ∃ uninterrupted,
      (reached Sample.log crashedPublication).performAll
        (recoveryWith .repairPages) = some uninterrupted ∧
      ∃ final, (reached Sample.log (crashedPublication ++ interruptedRecovery)).performAll
        (recoveryWith .repairPages) = some final ∧
        SamePages final uninterrupted ∧
        final.persistedTransactions = uninterrupted.persistedTransactions ∧
        (∀ lineage ∈ handedOut Response.handedLineage Sample.log
            (crashedPublication ++ interruptedRecovery),
          lineage < final.lineageId.get) ∧
        ∃ fresh, final.currentEpoch = some fresh ∧
          ∀ epoch ∈ handedOut Response.handedEpoch Sample.log
              (crashedPublication ++ interruptedRecovery),
            epoch < fresh := by
  have recovers : ((reached Sample.log crashedPublication).performAll
      (recoveryWith .repairPages)).isSome = true := by
    decide +kernel
  have crashed : (reached Sample.log (crashedPublication ++ interruptedRecovery)).phase =
      .crashed := by
    decide +kernel
  have room : (reached Sample.log (crashedPublication ++ interruptedRecovery)).HasRoom :=
    ⟨by decide +kernel, by decide +kernel⟩
  have areRecovery : ∀ operation ∈ interruptedRecovery, operation.IsRecovery := by
    simp [interruptedRecovery, RunOperation.IsRecovery]
  rcases Option.isSome_iff_exists.mp recovers with ⟨uninterrupted, recovered⟩
  exact ⟨uninterrupted, recovered, interrupted_recovery_converges Sample.log
    crashedPublication interruptedRecovery areRecovery .repairPages .repairPages
    (.inl rfl) (.inl rfl) uninterrupted recovered crashed room⟩

end Ntsql.Recovery
