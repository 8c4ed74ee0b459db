import Ntsql.Recovery.Retention
import Ntsql.Recovery.Transition.Replay

/-! # What retention analysis and reclamation can do

The analyzed floor is the least retention source, and a reclamation installs
the records at or above it. -/

namespace Ntsql.Recovery

variable {model final : RecoveryModel}

open RecoveryModel Operation

namespace RecoveryModel

/-- `evidence` was recorded at completion and nothing has made it stale. -/
structure HasFresh (model : RecoveryModel) (evidence : CompletionEvidence) : Prop where
  recorded : model.completionEvidence = some evidence
  fresh : evidence.stale = false

/-- A position the retained suffix may not start above. -/
def RetentionSource (model : RecoveryModel) (checkpoint : CheckpointSnapshot)
    (position : WalPosition) : Prop :=
  checkpoint.frontier.position = some position ∨
    checkpoint.replayStart = some position ∨
    (∃ txn : TransactionId, ∃ positions : List WalPosition,
      model.persistedTransactions[txn]? = some positions ∧
        positions.head? = some position) ∨
    (∃ page : PageId, ∃ snapshot, model.pageStore[page]? = some snapshot ∧
      position = snapshot.writtenAt) ∨
    model.retainedFirst = some position

end RecoveryModel

theorem retainBoundary_ok {sources : Set WalPosition}
    {earliest boundary next : Option WalPosition} (isFloor : IsFloor sources earliest)
    (succeeds : model.retainBoundary earliest boundary = .ok next) :
    IsFloor (sources ∪ {source | boundary = some source}) next := by
  cases boundary with
  | none =>
      cases succeeds
      simpa using isFloor
  | some position =>
      simp only [retainBoundary, Except.bind_ok_iff, Except.pure_ok_iff] at succeeds
      rcases succeeds with ⟨_, _, rfl⟩
      exact isFloor_lowerEarliest isFloor position

theorem retainTransaction_ok {sources : Set WalPosition}
    {earliest next : Option WalPosition} {entry : TransactionId × List WalPosition}
    (isFloor : IsFloor sources earliest)
    (succeeds : model.retainTransaction earliest entry = .ok next) :
    IsFloor (sources ∪ {source | entry.2.head? = some source}) next := by
  unfold retainTransaction at succeeds
  cases first : entry.2.head? with
  | none =>
      rw [first] at succeeds
      cases succeeds
      simpa using isFloor
  | some position =>
      rw [first] at succeeds
      simp only [Except.bind_ok_iff, Except.pure_ok_iff] at succeeds
      rcases succeeds with ⟨_, _, _, _, rfl⟩
      exact isFloor_lowerEarliest isFloor position

theorem retainStoredPage_ok {sources : Set WalPosition}
    {earliest next : Option WalPosition} {checkpoint : CheckpointSnapshot}
    {snapshot : PageSnapshot} (isFloor : IsFloor sources earliest)
    (succeeds : model.retainStoredPage checkpoint earliest snapshot = .ok next) :
    IsFloor (sources ∪ {source | some snapshot.writtenAt = some source}) next := by
  have lowered : next = lowerEarliest earliest snapshot.writtenAt := by
    simp only [retainStoredPage, Except.bind_ok_iff] at succeeds
    rcases succeeds with ⟨_, _, record, _, _, _, rest⟩
    split at rest
    · rcases Except.bind_ok_iff.mp rest with ⟨_, _, tail⟩
      rcases Except.bind_ok_iff.mp tail with ⟨_, _, last⟩
      exact (Except.pure_ok_iff.mp last).symm
    · rcases Except.bind_ok_iff.mp rest with ⟨_, _, last⟩
      exact (Except.pure_ok_iff.mp last).symm
  rw [lowered]
  exact isFloor_lowerEarliest isFloor snapshot.writtenAt

/-- Visiting items one by one adds what each contributes to the sources. -/
theorem isFloor_foldlM {contributes : α → Set WalPosition}
    {step : Option WalPosition → α → Except ModelError (Option WalPosition)}
    (stepFloor : ∀ sources earliest item next, IsFloor sources earliest →
      step earliest item = .ok next → IsFloor (sources ∪ contributes item) next)
    {items : List α} {sources : Set WalPosition} {earliest next : Option WalPosition}
    (isFloor : IsFloor sources earliest)
    (succeeds : items.foldlM step earliest = .ok next) :
    IsFloor (sources ∪ {source | ∃ item ∈ items, source ∈ contributes item}) next := by
  induction items generalizing sources earliest with
  | nil =>
      cases succeeds
      simpa using isFloor
  | cons item items induction =>
      rw [List.foldlM_cons] at succeeds
      rcases Except.bind_ok_iff.mp succeeds with ⟨middle, stepped, rest⟩
      have collected :=
        induction (stepFloor sources earliest item middle isFloor stepped) rest
      have split :
          sources ∪ {source | ∃ other ∈ item :: items, source ∈ contributes other} =
          sources ∪ contributes item ∪
            {source | ∃ other ∈ items, source ∈ contributes other} := by
        ext source
        simp [or_assoc]
      rw [split]
      exact collected

theorem retentionFloor_ok {checkpoint : CheckpointSnapshot} {floor : Option WalPosition}
    (succeeds : model.retentionFloor checkpoint = .ok floor) :
    IsFloor {source | model.RetentionSource checkpoint source} floor := by
  simp only [retentionFloor, Except.bind_ok_iff] at succeeds
  rcases succeeds with
    ⟨_, atFrontier, _, atReplayStart, _, atTransactions, _, atPages, atHeader⟩
  have empty : IsFloor (∅ : Set WalPosition) none := rfl
  have frontier := retainBoundary_ok empty atFrontier
  have replayStart := retainBoundary_ok frontier atReplayStart
  have transactions := isFloor_foldlM
    (fun _ _ _ _ isFloor stepped => retainTransaction_ok isFloor stepped)
    replayStart atTransactions
  have pages := isFloor_foldlM
    (fun _ _ _ _ isFloor stepped => retainStoredPage_ok isFloor stepped)
      transactions atPages
  have header := retainBoundary_ok pages atHeader
  refine Eq.subst (motive := fun sources => IsFloor sources floor) ?_ header
  ext source
  simp only [RetentionSource, mem_toList_iff, Set.mem_union, Set.mem_ofPred_eq,
    Set.mem_empty_iff_false, false_or, List.mem_map, Prod.exists, Option.some.injEq]
  grind

theorem requireFreshEvidence_ok_iff {value : Unit} :
    model.requireFreshEvidence = .ok value ↔ ∃ evidence, model.HasFresh evidence := by
  simp only [requireFreshEvidence, Except.bind_ok_iff, okOr_ok_iff]
  constructor
  · intro succeeds
    rcases succeeds with ⟨evidence, recorded, rest⟩
    split at rest
    · rcases Except.bind_ok_iff.mp rest with ⟨_, _, stale⟩
      cases stale
    · rename_i fresh
      exact ⟨evidence, recorded, by simpa using fresh⟩
  · intro exists_fresh
    rcases exists_fresh with ⟨evidence, recorded, fresh⟩
    exact ⟨evidence, recorded, by simp [fresh]⟩

namespace RecoveryModel

def afterAnalysis (model : RecoveryModel) (checkpoint : CheckpointSnapshot)
    (floor : Option WalPosition) : RecoveryModel :=
  { model with
    retentionAnalysis := some
      { retainedFirst := floor
        checkpointAnchor := checkpoint.anchor
        checkpointLogId := checkpoint.logId }
    phase := .retentionAnalyzed }

end RecoveryModel

theorem analyzeRetention_ok_iff {value : Unit} :
    analyzeRetention model = .ok value final ↔
      ∃ checkpoint floor, model.phase = .completeLive ∧
        (∃ evidence, model.HasFresh evidence) ∧
        model.selectedCheckpoint = some checkpoint ∧
        checkpoint.logId = model.logId ∧ checkpoint.lineageId = model.lineageId ∧
        model.retentionFloor checkpoint = .ok floor ∧
        final = model.afterAnalysis checkpoint floor := by
  simp only [analyzeRetention, get_bind, check_bind_ok_iff, set_apply, ok_iff, true_and,
    requirePhase_ok_iff, List.mem_singleton, okOr_ok_iff, requireFreshEvidence_ok_iff,
    rejectIf_ok_iff, not_or, not_not]
  constructor
  · intro succeeds
    rcases succeeds with ⟨_, completed, _, fresh, checkpoint, selected, _,
      ⟨logEqual, lineageEqual⟩, floor, analyzed, rfl⟩
    exact ⟨checkpoint, floor, completed, fresh, selected, logEqual, lineageEqual,
      analyzed, rfl⟩
  · intro succeeds
    rcases succeeds with ⟨checkpoint, floor, completed, fresh, selected, logEqual,
      lineageEqual, analyzed, rfl⟩
    exact ⟨(), completed, (), fresh, checkpoint, selected, (),
      ⟨logEqual, lineageEqual⟩, floor, analyzed, rfl⟩

/-! ## Reclamation -/

theorem advanceWalCandidate_present {replacement : WalReplacement}
    {stage next : ReplacementStage} {entry : CandidateEntry}
    (candidate : model.walCandidate = .present replacement stage entry)
    (moves : stage.next = some next) :
    advanceWalCandidate model = .ok next (model.reachWalStage replacement next) := by
  rw [advanceWalCandidate, get_bind]
  simp only [candidate, moves]
  rfl

theorem advanceToCompletion_present {replacement : WalReplacement}
    {stage next : ReplacementStage} {entry : CandidateEntry} (steps : Nat)
    (candidate : model.walCandidate = .present replacement stage entry)
    (moves : stage.next = some next) :
    advanceToCompletion (steps + 1) model =
      if next = .afterDirectorySync then .ok () (model.reachWalStage replacement next)
      else advanceToCompletion steps (model.reachWalStage replacement next) := by
  simp only [advanceToCompletion, advanceWalCandidate_present candidate moves]

@[simp] theorem reachWalStage_candidate {replacement : WalReplacement}
    {next : ReplacementStage} (running : next ≠ .afterDirectorySync) :
    (model.reachWalStage replacement next).walCandidate =
      .present replacement next (walCandidateEntry next) := by
  simp [reachWalStage, running]

/-- A candidate that has just begun completes within the ten steps, through
all nine stage changes. -/
theorem advanceToCompletion_begun (model : RecoveryModel) {replacement : WalReplacement}
    {entry : CandidateEntry}
    (candidate : model.walCandidate = .present replacement .beforeCleanup entry) :
    advanceToCompletion 10 model =
      .ok () { model.installReplacement replacement with
        walCandidate := .absent
        locks := { model.locks with walOldInode := .free, walNewInode := .free } } := by
  rw [advanceToCompletion_present 9 candidate rfl, if_neg (by decide),
    advanceToCompletion_present 8 (reachWalStage_candidate (by decide)) rfl,
    if_neg (by decide),
    advanceToCompletion_present 7 (reachWalStage_candidate (by decide)) rfl,
    if_neg (by decide),
    advanceToCompletion_present 6 (reachWalStage_candidate (by decide)) rfl,
    if_neg (by decide),
    advanceToCompletion_present 5 (reachWalStage_candidate (by decide)) rfl,
    if_neg (by decide),
    advanceToCompletion_present 4 (reachWalStage_candidate (by decide)) rfl,
    if_neg (by decide),
    advanceToCompletion_present 3 (reachWalStage_candidate (by decide)) rfl,
    if_neg (by decide),
    advanceToCompletion_present 2 (reachWalStage_candidate (by decide)) rfl,
    if_neg (by decide),
    advanceToCompletion_present 1 (reachWalStage_candidate (by decide)) rfl, if_pos rfl]
  simp [reachWalStage, installReplacement]

namespace RecoveryModel

def withCandidate (model : RecoveryModel) (replacement : WalReplacement) :
    RecoveryModel :=
  { model with
    locks := { model.locks with walOldInode := .live, walNewInode := .live }
    walCandidate := .present replacement .beforeCleanup .absent }

/-- What a replacement must satisfy to become the candidate. -/
structure Replaceable (model : RecoveryModel) (replacement : WalReplacement) : Prop where
  generation : model.walGeneration.checkedNext = some replacement.targetGeneration
  format : replacement.formatVersion = generationFormatVersion
  owned : ∀ record ∈ replacement.retainedSuffix,
    record.logId = model.logId ∧ record.lineageId = model.lineageId

/-- The model once `replacement` is installed to the end of a reclamation. -/
def afterReclaim (model : RecoveryModel) (replacement : WalReplacement) : RecoveryModel :=
  { model.installReplacement replacement with
    retentionAnalysis := none
    walCandidate := .absent
    locks := { model.locks with walOldInode := .free, walNewInode := .free }
    phase := .reclaimed }

end RecoveryModel

theorem beginWalCandidate_ok_iff {replacement : WalReplacement} {value : Unit} :
    beginWalCandidate replacement model = .ok value final ↔
      model.phase = .retentionAnalyzed ∧ model.Replaceable replacement ∧
        final = model.withCandidate replacement := by
  simp only [beginWalCandidate, get_bind, check_bind_ok_iff, set_apply, ok_iff, true_and,
    requirePhase_ok_iff, List.mem_singleton, okOr_ok_iff, rejectIf_ok_iff, not_not]
  constructor
  · intro succeeds
    rcases succeeds with ⟨_, analyzed, _, next, _, rfl, _, format, _, owned, rfl⟩
    refine ⟨analyzed, ⟨next, format, ?_⟩, rfl⟩
    intro record member
    by_contra foreign
    exact owned ⟨record, member, by tauto⟩
  · intro succeeds
    rcases succeeds with ⟨analyzed, replaceable, rfl⟩
    refine ⟨(), analyzed, _, replaceable.generation, (), rfl, (), replaceable.format,
      (), ?_, rfl⟩
    intro foreign
    rcases foreign with ⟨record, member, differs⟩
    have owned := replaceable.owned record member
    tauto

/-- The replacement a reclamation builds keeps the high-waters and starts at
the analyzed floor. -/
structure RecoveryModel.Builds (model : RecoveryModel) (analysis : RetentionAnalysis)
    (checkpoint : CheckpointSnapshot) (replacement : WalReplacement) : Prop where
  noTail : model.walRecords ≠ [] →
    model.walRecords.getLast?.map WalRecord.position = model.flushPosition
  analyzed : model.retentionAnalysis = some analysis
  selected : model.selectedCheckpoint = some checkpoint
  owned : checkpoint.logId = model.logId ∧ checkpoint.logId = analysis.checkpointLogId
  anchored : checkpoint.anchor = analysis.checkpointAnchor
  generation : model.walGeneration.checkedNext = some replacement.targetGeneration
  recorded : ∀ position ∈ analysis.retainedFirst,
    replacement.retainedSuffix.head?.map WalRecord.position = some position
  noCandidate : model.walCandidate = .absent
  anchor_eq : replacement.anchor = analysis.checkpointAnchor
  suffix_eq : replacement.retainedSuffix = model.retainedSuffix analysis.retainedFirst
  retainedFirst_eq : replacement.retainedFirst = analysis.retainedFirst
  format_eq : replacement.formatVersion = generationFormatVersion
  logicalHighWater_eq : replacement.logicalHighWater = model.logicalHighWater
  epochHighWater_eq : replacement.epochHighWater = model.epochHighWater

theorem buildReplacement_ok {replacement : WalReplacement}
    (succeeds : model.buildReplacement = .ok replacement) :
    ∃ analysis checkpoint, model.Builds analysis checkpoint replacement := by
  simp only [buildReplacement, Except.bind_ok_iff, okOr_ok_iff, rejectIf_ok_iff, not_or,
    not_not, not_and] at succeeds
  rcases succeeds with
    ⟨_, noTail, analysis, analyzed, generation, next, checkpoint, selected,
    _, owned, _, anchored, rest⟩
  have built : (∀ position ∈ analysis.retainedFirst,
        (model.retainedSuffix analysis.retainedFirst).head?.map WalRecord.position =
          some position) ∧
      model.walCandidate = .absent ∧
      replacement =
        { targetGeneration := generation
          anchor := analysis.checkpointAnchor
          retainedSuffix := model.retainedSuffix analysis.retainedFirst
          retainedFirst := analysis.retainedFirst
          formatVersion := generationFormatVersion
          logicalHighWater := model.logicalHighWater
          epochHighWater := model.epochHighWater } := by
    cases floor : analysis.retainedFirst with
    | none =>
        cases candidate : model.walCandidate with
        | absent =>
            rw [floor, candidate] at rest
            exact ⟨by simp, rfl, (Except.pure_ok_iff.mp rest).symm⟩
        | present =>
            rw [floor, candidate] at rest
            cases rest
    | some position =>
        rw [floor] at rest
        rcases Except.bind_ok_iff.mp rest with ⟨_, recorded, tail⟩
        have recorded := (rejectIf_ok_iff _ _ _).mp recorded
        cases candidate : model.walCandidate with
        | absent =>
            rw [candidate] at tail
            refine ⟨?_, rfl, (Except.pure_ok_iff.mp tail).symm⟩
            intro other member
            cases member
            simpa using recorded
        | present =>
            rw [candidate] at tail
            cases tail
  rcases built with ⟨recorded, candidate, rfl⟩
  exact ⟨analysis, checkpoint, ⟨fun nonempty => not_imp_comm.mp noTail nonempty, analyzed,
    selected, owned, anchored, next, recorded, candidate, rfl, rfl, rfl, rfl, rfl, rfl⟩⟩

theorem reclaim_ok {generation : Generation}
    (succeeds : reclaim model = .ok generation final) :
    ∃ replacement, model.phase = .retentionAnalyzed ∧
      model.buildReplacement = .ok replacement ∧ model.Replaceable replacement ∧
      generation = replacement.targetGeneration ∧
        final = model.afterReclaim replacement := by
  rw [reclaim, get_bind] at succeeds
  rcases check_bind_ok_iff.mp succeeds with ⟨_, analyzed, afterPhase⟩
  rcases check_bind_ok_iff.mp afterPhase with ⟨replacement, built, afterBuild⟩
  rcases bind_ok_iff.mp afterBuild with ⟨_, begun, begins, afterBegin⟩
  rcases beginWalCandidate_ok_iff.mp begins with ⟨phase, replaceable, rfl⟩
  rw [modify_bind] at afterBegin
  have advanced := advanceToCompletion_begun
    { model.withCandidate replacement with retentionAnalysis := none } rfl
  rw [bind_of_ok advanced, modify_bind] at afterBegin
  rcases ok_iff.mp afterBegin with ⟨rfl, rfl⟩
  exact ⟨replacement, phase, built, replaceable, rfl, rfl⟩

end Ntsql.Recovery
