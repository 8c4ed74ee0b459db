import Ntsql.Recovery.Invariant.Sound

/-! # Durable effects survive, when reclamation retains them

A durable effect is a durable page record whose transaction, if it has one, is
durably committed. Every operation keeps each effect in the log or in the page
store, with one exception: `flush_wal` may make effects durable after recovery
completed without marking the completion evidence stale, and a reclamation from
that evidence drops those that lie below every retention source. -/

namespace Ntsql.Recovery

variable {model final : RecoveryModel}

open RecoveryModel Operation

namespace RecoveryModel

/-- The effect is still in the log, in the current lineage, or the store holds
an image of its page at least as late. -/
def Preserves (model : RecoveryModel) (record : WalRecord) : Prop :=
  TakesEffect model.walRecords model.flushPosition (record.rebrand model.lineageId) ∨
    ∀ page ∈ record.page, StoreHolds model.pageStore page record.position

/-- Every effect that became durable only after recovery completed, and that
the store does not hold, has a retention source at or below its record. -/
def RetainsLateEffects (model : RecoveryModel) : Prop :=
  ∀ evidence ∈ model.completionEvidence, ∀ checkpoint ∈ model.selectedCheckpoint,
    ∀ record, TakesEffect model.walRecords model.flushPosition record →
      ¬TakesEffect model.walRecords evidence.frontier record →
      (∃ page ∈ record.page, StoreLags model.pageStore page record.position) →
      ∃ source ≤ record.position, model.RetentionSource checkpoint source

theorem retainsLateEffects_of_settled
    (settled : ∀ evidence ∈ model.completionEvidence,
      evidence.frontier = model.flushPosition) :
    model.RetainsLateEffects := by
  intro evidence isEvidence checkpoint _ record effective late
  rw [settled evidence isEvidence] at late
  exact absurd effective late

theorem Preserves.held {record : WalRecord}
    (held : ∀ page ∈ record.page, StoreHolds model.pageStore page record.position)
    (advances : StoreAdvances model.pageStore final.pageStore) : final.Preserves record :=
  .inr fun page isTarget => advances.holds (held page isTarget)

theorem Preserves.mono {record : WalRecord} (preserves : model.Preserves record)
    (lineages : final.lineageId = model.lineageId)
    (kept : ∀ record ∈ model.walRecords, Covers model.flushPosition record.position →
      record ∈ final.walRecords)
    (reaches : Reaches model.flushPosition final.flushPosition)
    (advances : StoreAdvances model.pageStore final.pageStore) :
      final.Preserves record := by
  rcases preserves with effective | held
  · rw [Preserves, lineages]
    exact .inl (effective.mono kept reaches)
  · exact .held held advances

theorem Preserves.reopen {record : WalRecord} (preserves : model.Preserves record)
    (lineage : LineageId) : (model.afterReopen lineage).Preserves record := by
  rcases preserves with effective | held
  · exact .inl (effective.rebrand lineage)
  · exact .held held (storeAdvances_rebrand model.pageStore lineage)

theorem rebrand_of_accepted {record : WalRecord} (accepts : model.Accepts record) :
    record.rebrand model.lineageId = record := by
  rw [← accepts.lineageId_eq]
  rfl

theorem Analyzed.takesEffect_suffix {evidence : CompletionEvidence}
    {analysis built : RetentionAnalysis} {checkpoint selected : CheckpointSnapshot}
    {replacement : WalReplacement}
    (analyzed : model.Analyzed evidence analysis checkpoint) (sound : model.Sound)
    (builds : model.Builds built selected replacement) {source : WalPosition}
    (isSource : model.RetentionSource checkpoint source) {record : WalRecord}
    (above : source ≤ record.position)
    (effective : TakesEffect model.walRecords model.flushPosition record) :
    TakesEffect replacement.retainedSuffix model.flushPosition record where
  member := analyzed.mem_suffix builds isSource effective.member above
  durable := effective.durable
  decided := effective.decided.imp_right fun decided => by
    rcases decided with ⟨txn, isPage, commit, member, isCommit, durable⟩
    have later := sound.transactions.pagesFirst txn record effective.member commit member
      isPage isCommit
    exact ⟨txn, isPage, commit,
      analyzed.mem_suffix builds isSource member (above.trans later.le),
        isCommit, durable⟩

theorem Sound.reclaim_preserves_iff (sound : model.Sound)
    (analyzed : model.phase = .retentionAnalyzed) {built : RetentionAnalysis}
    {selected : CheckpointSnapshot} {replacement : WalReplacement}
    (builds : model.Builds built selected replacement) :
    (∀ record, TakesEffect model.walRecords model.flushPosition record →
      (model.afterReclaim replacement).Preserves record) ↔ model.RetainsLateEffects := by
  rcases sound.analyzed_settled analyzed with
    ⟨evidence, analysis, checkpoint, isAnalyzed, settled⟩
  have frontier : (model.afterReclaim replacement).flushPosition = model.flushPosition :=
    builds.logicalHighWater_eq.trans sound.log.highWater
  have same : ∀ record ∈ model.walRecords, record.rebrand model.lineageId = record :=
    fun record member => rebrand_of_accepted (sound.log.accepted record member)
  constructor
  · intro preserved other isOther chosen isChosen record effective late lags
    cases isAnalyzed.fresh.recorded.symm.trans isOther
    cases isAnalyzed.selected.symm.trans isChosen
    rcases preserved record effective with kept | held
    · change TakesEffect replacement.retainedSuffix _ (record.rebrand model.lineageId)
        at kept
      rw [same record effective.member] at kept
      rcases (builds.mem_suffix.mp kept.member).2 with ⟨floor, isFloor, below⟩
      have built_eq := Option.some.inj (builds.analyzed.symm.trans isAnalyzed.recorded)
      rw [built_eq] at isFloor
      have least := retentionFloor_ok isAnalyzed.floor
      rw [Option.mem_def.mp isFloor] at least
      exact ⟨floor, below, least.mem⟩
    · rcases lags with ⟨page, isTarget, lags⟩
      exact absurd lags (LatestImage.not_lags_iff.mpr (held page isTarget))
  · intro retains record effective
    by_cases early : TakesEffect model.walRecords evidence.frontier record
    · exact .inr (settled.repaired record early)
    · by_cases lags : ∃ page ∈ record.page, StoreLags model.pageStore page record.position
      · rcases retains evidence isAnalyzed.fresh.recorded checkpoint
          isAnalyzed.selected record effective early lags with ⟨source, below, isSource⟩
        have kept := isAnalyzed.takesEffect_suffix sound builds isSource below effective
        refine .inl ?_
        rw [frontier]
        change TakesEffect replacement.retainedSuffix _ (record.rebrand model.lineageId)
        rwa [same record effective.member]
      · refine .inr fun page isTarget => LatestImage.not_lags_iff.mp ?_
        exact fun lagsHere => lags ⟨page, isTarget, lagsHere⟩

/-- Every effect of an operation preserves what was preserved, a reclamation
when it retains late effects. -/
theorem Preserves.effect (sound : model.Sound) {operation : RunOperation}
    {response : Response} (effect : Effect model operation response final)
    (retains : operation = .reclaim → model.RetainsLateEffects) {record : WalRecord}
    (preserves : model.Preserves record) : final.Preserves record := by
  have advances := effect.storeAdvances
  cases effect with
  | allocateCoordinatorEpoch | beginTransaction | writePageStore |
      publishCheckpoint | select
  | planReplay | repairPages | repairPagesAppliedFault | restoreTransactions | complete
  | analyzeRetention =>
      exact preserves.mono rfl (fun _ member _ => member) (Reaches.refl _) advances
  | appendTransactionPage | appendTransactionCommit | appendRawPage =>
      exact preserves.mono rfl (fun _ member _ => List.mem_append_left _ member)
        (Reaches.refl _) advances
  | flushWal live =>
      refine preserves.mono ?_ ?_ sound.log.reaches_afterFlush advances
      · unfold afterFlush
        split <;> rfl
      · rw [LogInvariant.afterFlush_walRecords]
        exact fun _ member _ => member
  | crash | crashPreservingCompleteWalTail =>
      exact preserves.mono rfl
        (fun _ member durable => LogInvariant.mem_afterCrash.mpr ⟨member, .inr durable⟩)
        (Reaches.refl _) advances
  | reopen => exact preserves.reopen _
  | reclaim analyzed builds =>
      rcases preserves with effective | held
      · have kept :=
          (sound.reclaim_preserves_iff analyzed builds).mpr (retains rfl) _ effective
        exact kept
      · exact .held held advances

theorem Preserves.after (sound : model.Sound) {operation : RunOperation}
    (retains : operation = .reclaim → model.RetainsLateEffects) {record : WalRecord}
    (preserves : model.Preserves record) : (model.after operation).Preserves record := by
  rcases sound.after_cases operation with unchanged | ⟨response, _, effect⟩
  · rwa [unchanged]
  · exact preserves.effect sound effect retains

def ReclaimsRetaining (model : RecoveryModel) (operation : RunOperation) : Prop :=
  operation = .reclaim → model.RetainsLateEffects

theorem Preserves.run (sound : model.Sound) {operations : List RunOperation}
    (retains : Execution.Respects RecoveryModel.after ReclaimsRetaining model operations)
    {record : WalRecord} (preserves : model.Preserves record) :
    (Execution.run RecoveryModel.after model operations).Preserves record := by
  have step (state : RecoveryModel) (operation : RunOperation)
      (holds : state.Sound ∧ state.Preserves record)
      (allowed : ReclaimsRetaining state operation) :
      (state.after operation).Sound ∧ (state.after operation).Preserves record :=
    ⟨holds.1.after operation, Preserves.after holds.1 allowed holds.2⟩
  exact (Execution.invariant_run step operations retains ⟨sound, preserves⟩).2

end RecoveryModel

/-- Recovery completes with a record beyond its frontier, which a later flush
makes durable; the reclamation finds no retention source and drops it. -/
def unmarkedFlushRun : List RunOperation :=
  [.publishCheckpoint Sample.anchor, .appendRawPage Sample.page 42 Sample.version,
    .crashPreservingCompleteWalTail] ++ recoverySteps ++ [.flushWal]

theorem unmarked_flush_loses_effect :
    ¬∀ (logId : LogId) (operations later : List RunOperation) (record : WalRecord),
      TakesEffect (reached logId operations).walRecords
        (reached logId operations).flushPosition
        record → (reached logId (operations ++ later)).Preserves record := by
  intro preserved
  let record : WalRecord :=
    ⟨Sample.log, ⟨1⟩, Sample.first, .rawPage, none, some Sample.page, some 42,
      some Sample.version⟩
  have effective : TakesEffect (reached Sample.log unmarkedFlushRun).walRecords
      (reached Sample.log unmarkedFlushRun).flushPosition record :=
    ⟨by decide +kernel, by decide +kernel, .inl rfl⟩
  have emptied : (reached Sample.log
      (unmarkedFlushRun ++ [.analyzeRetention, .reclaim])).walRecords = [] := by
    decide +kernel
  have unstored : (reached Sample.log
      (unmarkedFlushRun ++ [.analyzeRetention, .reclaim])).pageStore[Sample.page]? =
        none := by
    decide +kernel
  rcases preserved Sample.log unmarkedFlushRun [.analyzeRetention, .reclaim] record
    effective with
    kept | held
  · have member := kept.member
    rw [emptied] at member
    cases member
  · rcases held Sample.page rfl with ⟨snapshot, found, _⟩
    rw [unstored] at found
    cases found

theorem durable_effects_survive_iff_retained (logId : LogId) :
    (∀ operations later : List RunOperation,
      Execution.Respects RecoveryModel.after ReclaimsRetaining (RecoveryModel.new logId)
        (operations ++ later) →
      ∀ record, TakesEffect (reached logId operations).walRecords
        (reached logId operations).flushPosition record →
        (reached logId (operations ++ later)).Preserves record) ∧
    ∀ (operations : List RunOperation) (generation : Generation) (final : RecoveryModel),
      reclaim (reached logId operations) = .ok generation final →
      ((∀ record, TakesEffect (reached logId operations).walRecords
        (reached logId operations).flushPosition record → final.Preserves record) ↔
        (reached logId operations).RetainsLateEffects) := by
  refine ⟨?_, ?_⟩
  · intro operations later retains record effective
    have sound := sound_reached logId operations
    have rest := (Execution.respects_append.mp retains).2
    have preserves : (reached logId operations).Preserves record := by
      refine .inl ?_
      rwa [rebrand_of_accepted (sound.log.accepted record effective.member)]
    rw [reached, Execution.run_append]
    exact preserves.run sound rest
  · intro operations generation final reclaimed
    have sound := sound_reached logId operations
    rcases reclaim_ok reclaimed with ⟨replacement, analyzed, built, _, _, rfl⟩
    rcases buildReplacement_ok built with ⟨analysis, checkpoint, builds⟩
    exact sound.reclaim_preserves_iff analyzed builds

/-- The record is durable before recovery completes, so the reclamation that
follows may drop it: the store has its image. -/
theorem flushed_effect_survives_reclamation :
    (reached Sample.log (([.publishCheckpoint Sample.anchor,
      .appendRawPage Sample.page 42 Sample.version, .flushWal, .crash] ++
        recoverySteps) ++
      [.analyzeRetention, .reclaim])).Preserves
      ⟨Sample.log, ⟨1⟩, Sample.first, .rawPage, none, some Sample.page, some 42,
        some Sample.version⟩ := by
  refine (durable_effects_survive_iff_retained Sample.log).1 _
    [.analyzeRetention, .reclaim] ?_ _ ⟨by decide +kernel, by decide +kernel, .inl rfl⟩
  refine Execution.respects_append.mpr
    ⟨Execution.respects_of_forall ?_, nofun, ?_, trivial⟩
  · intro operation member state isReclaim
    rw [isReclaim] at member
    exact absurd member (by decide)
  · intro _
    exact retainsLateEffects_of_settled (by decide +kernel)

end Ntsql.Recovery
