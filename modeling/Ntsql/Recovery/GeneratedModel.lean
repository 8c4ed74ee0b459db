import Ntsql.Recovery.Recoverability
import Ntsql.Recovery.Retainability

/-! # The model under a generated trace

What every state after the publication of a generated trace keeps: the
checkpoint stays retainable, what it leaves open is raw pages only, nothing is
restored and nothing is unflushed. The counters stay below the number of
operations. -/

namespace Ntsql.Recovery

variable {model final : RecoveryModel} {anchor : CheckpointAnchor}
  {checkpoint : CheckpointSnapshot}

open RecoveryModel Operation

/-- The operations a generated trace uses after its publication. -/
def RunOperation.keepsCheckpoint : RunOperation → Bool
  | .appendRawPage .. | .flushWal | .crash | .reopen | .select | .planReplay
  | .repairPages | .repairPagesAppliedFault
  | .restoreTransactions | .complete | .analyzeRetention | .reclaim => true
  | _ => false

def RunOperation.appends : RunOperation → Bool
  | .appendTransactionPage .. | .appendTransactionCommit _ | .appendRawPage .. => true
  | _ => false

namespace RecoveryModel

/-! ## Counters -/

/-- No counter has moved more than `operations` times. -/
structure Spent (operations : Nat) (model : RecoveryModel) : Prop where
  lineage : model.lineageId.get.val ≤ operations
  epoch : ∀ epoch ∈ model.epochHighWater, epoch.val ≤ operations
  generation : model.walGeneration.get.val ≤ operations
  position : ∃ next, model.nextPosition = some next ∧ next.val ≤ operations + 1

namespace Spent

variable {operations : Nat}

theorem mono {more : Nat} (spent : model.Spent operations) (le : operations ≤ more) :
    model.Spent more where
  lineage := spent.lineage.trans le
  epoch := fun epoch member => (spent.epoch epoch member).trans le
  generation := spent.generation.trans le
  position := by
    rcases spent.position with ⟨next, isNext, bound⟩
    exact ⟨next, isNext, bound.trans (Nat.succ_le_succ le)⟩

theorem checkedSucc_le {value next : U64} {bound : Nat}
    (advances : checkedSucc value = some next)
    (below : value.val ≤ bound) : next.val ≤ bound + 1 := by
  rw [checkedSucc_eq_some.mp advances]
  exact Nat.succ_le_succ below

theorem epochAfter_le (spent : model.Spent operations) {epoch : U64}
    (after : epochAfter model.epochHighWater = some epoch) :
      epoch.val ≤ operations + 1 := by
  cases highWater : model.epochHighWater with
  | none =>
      rw [highWater] at after
      cases after
      exact Nat.succ_le_succ (Nat.zero_le _)
  | some current =>
      rw [highWater] at after
      exact checkedSucc_le after (spent.epoch current highWater)

theorem checkedSucc_exists {value : U64} {bound : Nat} (below : value.val ≤ bound)
    (room : bound + 1 < 2 ^ 64) : ∃ next, checkedSucc value = some next := by
  refine ⟨⟨value.val + 1, by omega⟩, ?_⟩
  rw [checkedSucc_eq_some]

theorem append (spent : model.Spent operations) (room : operations + 2 < 2 ^ 64)
    {position : WalPosition} (next : model.nextPosition = some position.get) :
    ∃ following, checkedSucc position.get = some following ∧
      following.val ≤ operations + 1 + 1 := by
  rcases spent.position with ⟨value, isNext, bound⟩
  cases next.symm.trans isNext
  rcases checkedSucc_exists bound room with ⟨following, advances⟩
  exact ⟨following, advances, checkedSucc_le advances bound⟩

theorem effect (spent : model.Spent operations) (sound : model.Sound)
    (room : operations + 2 < 2 ^ 64) {operation : RunOperation} {response : Response}
    (effect : Effect model operation response final) : final.Spent (operations + 1) := by
  have later := spent.mono (Nat.le_succ operations)
  cases effect with
  | allocateCoordinatorEpoch live next =>
      rw [sound.transactions.epochNext] at next
      refine { later with epoch := ?_ }
      intro epoch member
      change raiseHighWater model.epochHighWater _ = some epoch at member
      rw [raiseHighWater_of_after next] at member
      cases member
      exact spent.epochAfter_le next
  | appendTransactionPage live active next =>
      exact { later with position := spent.append room next }
  | appendTransactionCommit live active undecided next =>
      exact { later with position := spent.append room next }
  | appendRawPage live next => exact { later with position := spent.append room next }
  | flushWal live =>
      unfold afterFlush
      split
      · exact { later with }
      · exact later
  | reopen crashed next valid =>
      rcases Option.map_eq_some_iff.mp next with ⟨lineage, advances, rfl⟩
      exact { later with lineage := checkedSucc_le advances spent.lineage }
  | restoreTransactions repaired fresh found =>
      refine { later with epoch := ?_ }
      intro epoch member
      cases member
      exact spent.epochAfter_le (sound.epochAfter_of_fresh repaired fresh)
  | @reclaim analysis checkpoint replacement analyzed builds =>
      rcases Option.map_eq_some_iff.mp builds.generation with
        ⟨generation, advances, isTarget⟩
      refine { later with epoch := ?_, generation := ?_ }
      · intro epoch member
        exact later.epoch epoch (builds.epochHighWater_eq ▸ member)
      · have moved := checkedSucc_le advances spent.generation
        change replacement.targetGeneration.get.val ≤ operations + 1
        rw [← isTarget]
        exact moved
  | beginTransaction | writePageStore | publishCheckpoint | crash |
      crashPreservingCompleteWalTail
  | select | planReplay | repairPages | repairPagesAppliedFault | complete |
      analyzeRetention =>
      exact { later with }

end Spent

/-! ## What is kept -/

/-- The model holds what a published checkpoint refers to, and only raw pages
past it. -/
structure Keeps (model : RecoveryModel) (checkpoint : CheckpointSnapshot) : Prop where
  frontier : ∀ position ∈ checkpoint.frontier.position, model.Recorded position
  replayStart : ∀ position ∈ checkpoint.replayStart, model.Recorded position
  undecided : checkpoint.transactionSummary.active = ∅
  rawWindow : ∀ record ∈ model.walRecords, checkpoint.InWindow record.position →
    record.kind = .rawPage
  agrees : model.Agrees checkpoint

structure Kept (anchor : CheckpointAnchor) (model : RecoveryModel) : Prop where
  openable : model.Openable
  anchored : model.Anchored anchor
  lists : model.ListsFlushed
  unrestored : model.persistedTransactions = ∅
  slot : ∃ checkpoint, model.checkpointSlot = some checkpoint ∧ model.Keeps checkpoint

namespace Kept

theorem fits (kept : model.Kept anchor) : model.SlotFits :=
  kept.anchored.slotFits_iff.mpr kept.lists

theorem retainable (kept : model.Kept anchor) (keeps : model.Keeps checkpoint) :
    model.Retainable checkpoint where
  frontier := keeps.frontier
  replayStart := keeps.replayStart
  header := by
    intro position isFirst
    rcases kept.openable.header.headRetained position isFirst with ⟨isHead, _⟩
    rcases Option.map_eq_some_iff.mp isHead with ⟨record, isRecord, isPosition⟩
    exact ⟨record, List.mem_of_head? isRecord, isPosition⟩
  transactions := by
    intro txn positions listed
    rw [kept.unrestored, Std.ExtTreeMap.getElem?_empty] at listed
    cases listed
  pages := keeps.agrees

end Kept

theorem Recorded.mono {position : WalPosition} (recorded : model.Recorded position)
    (subset : model.walRecords ⊆ final.walRecords) : final.Recorded position := by
  rcases recorded with ⟨record, member, isPosition⟩
  exact ⟨record, subset member, isPosition⟩

theorem Recorded.crashed {position : WalPosition} (recorded : model.Recorded position)
    (durable : Covers model.flushPosition position) (preserve : Bool) :
    (model.afterCrash preserve).Recorded position := by
  rcases recorded with ⟨record, member, rfl⟩
  exact ⟨record, LogInvariant.mem_afterCrash.mpr ⟨member, .inr durable⟩, rfl⟩

theorem Keeps.crashed (keeps : model.Keeps checkpoint)
    (valid : model.CheckpointInvariant checkpoint)
    (preserve : Bool) : (model.afterCrash preserve).Keeps checkpoint where
  frontier := fun position isFrontier => (keeps.frontier position isFrontier).crashed
    (valid.frontierFlushed position isFrontier) preserve
  replayStart := fun position isStart => (keeps.replayStart position isStart).crashed
    (valid.frontierFlushed.covers (valid.replayStartCovered position isStart)) preserve
  undecided := keeps.undecided
  rawWindow := fun record member =>
    keeps.rawWindow record (LogInvariant.mem_afterCrash.mp member).1
  agrees := keeps.agrees

theorem Recorded.reopened {position : WalPosition} (recorded : model.Recorded position)
    (lineage : LineageId) : (model.afterReopen lineage).Recorded position := by
  rcases recorded with ⟨record, member, rfl⟩
  exact ⟨record.rebrand lineage, List.mem_map_of_mem member, rfl⟩

theorem Keeps.reopened (keeps : model.Keeps checkpoint) (lineage : LineageId) :
    (model.afterReopen lineage).Keeps (checkpoint.rebrand lineage) where
  frontier :=
    fun position isFrontier => (keeps.frontier position isFrontier).reopened lineage
  replayStart :=
    fun position isStart => (keeps.replayStart position isStart).reopened lineage
  undecided := keeps.undecided
  rawWindow := by
    intro record member inWindow
    rcases List.mem_map.mp member with ⟨original, present, rfl⟩
    exact keeps.rawWindow original present inWindow
  agrees := by
    intro page checkpointed snapshot isCheckpointed stored
    change (PageStore.rebrand lineage checkpoint.pages)[page]? = _ at isCheckpointed
    change (PageStore.rebrand lineage model.pageStore)[page]? = _ at stored
    rw [PageStore.getElem?_rebrand] at isCheckpointed stored
    rcases Option.map_eq_some_iff.mp isCheckpointed with ⟨original, found, rfl⟩
    rcases Option.map_eq_some_iff.mp stored with ⟨current, present, rfl⟩
    exact (keeps.agrees page original current found present).imp_left (congrArg _)

theorem Keeps.repaired (keeps : model.Keeps checkpoint)
    (valid : model.CheckpointInvariant checkpoint) (plan : List WalRecord) :
      (model.withStore (model.repairedStore plan)).Keeps checkpoint where
  frontier := keeps.frontier
  replayStart := keeps.replayStart
  undecided := keeps.undecided
  rawWindow := keeps.rawWindow
  agrees := by
    intro page checkpointed snapshot isCheckpointed stored
    rcases valid.pagesHeld page checkpointed isCheckpointed with
      ⟨current, present, notOlder⟩
    rcases LatestImage.replay_current _ present stored with rfl | later
    · exact keeps.agrees page checkpointed current isCheckpointed present
    · exact .inr (notOlder.trans_lt later)

theorem Keeps.reclaimed (keeps : model.Keeps checkpoint) {analysis : RetentionAnalysis}
    {replacement : WalReplacement} {evidence : CompletionEvidence}
    (analyzed : model.Analyzed evidence analysis checkpoint)
    (builds : model.Builds analysis checkpoint replacement) :
    (model.afterReclaim replacement).Keeps checkpoint := by
  have kept {position : WalPosition} (recorded : model.Recorded position)
      (isSource : model.RetentionSource checkpoint position) :
      (model.afterReclaim replacement).Recorded position := by
    rcases recorded with ⟨record, member, rfl⟩
    exact ⟨record, analyzed.mem_suffix builds isSource member le_rfl, rfl⟩
  constructor
  · exact fun position isFrontier =>
      kept (keeps.frontier position isFrontier) (.inl isFrontier)
  · exact fun position isStart =>
      kept (keeps.replayStart position isStart) (.inr (.inl isStart))
  · exact keeps.undecided
  · exact fun record member => keeps.rawWindow record (builds.mem_suffix.mp member).1
  · exact keeps.agrees

/-! ## Every later operation keeps it -/

theorem Keeps.restored_empty (keeps : model.Keeps checkpoint)
    (selected : model.selectedCheckpoint = some checkpoint) :
    (model.restoredFrom model.replayWindow).active = ∅ := by
  apply Std.ExtTreeMap.ext_getElem?
  intro txn
  have seed : model.restorationSeed[txn]? = none := by
    rw [restorationSeed, selected]
    change checkpoint.transactionSummary.active[txn]? = none
    rw [keeps.undecided, Std.ExtTreeMap.getElem?_empty]
  have pageless : ∀ record ∈ model.replayWindow, ¬record.IsPageOf txn := by
    intro record member isPage
    have recorded := mem_walRecords_of_mem_durable (mem_durable_of_mem_window member)
    rw [replayWindow, selected, List.mem_filter] at member
    have raw := keeps.rawWindow record recorded (by simpa using member.2)
    cases raw.symm.trans isPage.1
  rw [restoredFrom_getElem?, seed, observedThrough_none pageless,
    Std.ExtTreeMap.getElem?_empty]

theorem Kept.effect (kept : model.Kept anchor) {operation : RunOperation}
    {response : Response} (keepsCheckpoint : operation.keepsCheckpoint = true)
    (effect : Effect model operation response final) : final.Kept anchor := by
  have openable := kept.openable.effect effect
  have anchored : final.Anchored anchor := kept.anchored.effect kept.openable.sound effect
    (by rintro other rfl; cases keepsCheckpoint)
  have lists : final.ListsFlushed := kept.lists.effect kept.openable effect
    (by rintro other rfl; cases keepsCheckpoint)
  rcases kept.slot with ⟨checkpoint, isSlot, keeps⟩
  have valid := kept.openable.sound.slot checkpoint isSlot
  cases effect with
  | appendRawPage live next =>
      refine ⟨openable, anchored, lists, kept.unrestored, checkpoint, isSlot, ?_⟩
      exact
        { keeps with
          frontier := fun position isFrontier =>
            (keeps.frontier position isFrontier).mono (List.subset_append_left _ _)
          replayStart := fun position isStart =>
            (keeps.replayStart position isStart).mono (List.subset_append_left _ _)
          rawWindow := by
            intro record member inWindow
            rcases List.mem_append.mp member with earlier | last
            · exact keeps.rawWindow record earlier inWindow
            · rw [List.mem_singleton.mp last]
              rfl }
  | flushWal live =>
      unfold afterFlush at openable anchored lists ⊢
      split
      · rename_i isLast
        rw [isLast] at openable anchored lists
        exact ⟨openable, anchored, lists, kept.unrestored, checkpoint, isSlot,
          { keeps with }⟩
      · exact kept
  | crash running =>
      exact ⟨openable, anchored, lists, rfl, checkpoint, isSlot,
        keeps.crashed valid false⟩
  | @reopen lineage crashed next accepted =>
      refine ⟨openable, anchored, lists, kept.unrestored, checkpoint.rebrand lineage, ?_,
        keeps.reopened lineage⟩
      change model.checkpointSlot.map _ = _
      rw [isSlot]
      rfl
  | repairPages planned found | repairPagesAppliedFault planned found =>
      exact ⟨openable, anchored, lists, kept.unrestored, checkpoint, isSlot,
        { keeps.repaired valid _ with }⟩
  | restoreTransactions repaired fresh found =>
      have selected :=
        (kept.openable.sound.phases.selectedSlot (.inr (.inr (.inl repaired)))).trans
          isSlot
      rw [kept.openable.sound.phases.planned (.inr repaired)] at found
      cases found
      exact ⟨openable, anchored, lists, keeps.restored_empty selected, checkpoint,
        isSlot, { keeps with }⟩
  | reclaim analyzed builds =>
      rcases kept.openable.sound.analyzed_settled analyzed with
        ⟨evidence, analysis, selected, isAnalyzed, settled⟩
      cases isAnalyzed.selected.symm.trans (settled.selectedSlot.trans isSlot)
      cases isAnalyzed.selected.symm.trans builds.selected
      cases isAnalyzed.recorded.symm.trans builds.analyzed
      exact ⟨openable, anchored, lists, kept.unrestored, _, isSlot,
        keeps.reclaimed isAnalyzed builds⟩
  | select | planReplay | complete | analyzeRetention =>
      exact ⟨openable, anchored, lists, kept.unrestored, checkpoint, isSlot,
        { keeps with }⟩
  | _ => cases keepsCheckpoint

theorem allFlushed_afterFlush (log : model.LogInvariant) :
    model.afterFlush.AllFlushed := by
  unfold afterFlush
  split
  · rename_i last isLast
    exact fun record member =>
      covers_some.mpr (log.ordered.position_le_getLast isLast member)
  · rename_i empty
    intro record member
    rw [List.getLast?_eq_none_iff.mp empty] at member
    cases member

theorem AllFlushed.effect (flushed : model.AllFlushed) (sound : model.Sound)
    {operation : RunOperation} {response : Response} (appends : operation.appends = false)
    (effect : Effect model operation response final) : final.AllFlushed := by
  cases effect with
  | appendTransactionPage | appendTransactionCommit | appendRawPage => cases appends
  | flushWal live => exact allFlushed_afterFlush sound.log
  | crash | crashPreservingCompleteWalTail =>
      exact fun record member => flushed record (LogInvariant.mem_afterCrash.mp member).1
  | reopen crashed next accepted =>
      intro record member
      rcases List.mem_map.mp member with ⟨original, present, rfl⟩
      exact flushed original present
  | reclaim analyzed builds =>
      intro record member
      have durable := flushed record (builds.mem_suffix.mp member).1
      rw [← sound.log.highWater, ← builds.logicalHighWater_eq] at durable
      exact durable
  | allocateCoordinatorEpoch | beginTransaction | writePageStore |
      publishCheckpoint | select
  | planReplay | repairPages | repairPagesAppliedFault | restoreTransactions | complete
  | analyzeRetention =>
      exact flushed

/-! ## A raw page and a flush -/

structure Mutation (model : RecoveryModel) (page : PageId) (value : U64)
    (version : PageVersion) (final : RecoveryModel) : Prop where
  steps : ∃ (position : WalPosition) (middle : RecoveryModel)
    (flushed : Option WalPosition),
    Recovery.appendRawPage page value version model = .ok position middle ∧
      Effect model (.appendRawPage page value version) (.position position) middle ∧
      flushWal middle = .ok flushed final ∧
        Effect middle .flushWal (.flushed flushed) final
  phase : final.phase = model.phase
  evidence : final.completionEvidence =
    (model.markCompletionStale "raw page appended").completionEvidence

/-- A raw page can be appended and flushed while live, as long as positions
last. -/
theorem exists_mutation {operations : Nat} (spent : model.Spent operations)
    (guarded : model.Guarded) (live : model.IsLive) (page : PageId) (value : U64)
    (version : PageVersion) : ∃ final, model.Mutation page value version final := by
  rcases spent.position with ⟨value', isNext, _⟩
  have nonzero : value' ≠ 0 := by
    rintro rfl
    exact guarded.positionNonzero isNext
  have next : model.nextPosition = some (WalPosition.mk value' nonzero).get := isNext
  refine ⟨_,
    ⟨_, _, _, appendRawPage_ok_iff.mpr ⟨live, next, rfl⟩, .appendRawPage live next,
    flushWal_ok_iff.mpr ⟨live, rfl, rfl⟩, .flushWal live⟩, ?_, ?_⟩
  · unfold afterFlush
    split <;> rfl
  · unfold afterFlush
    split <;> rfl

theorem Mutation.spent {operations : Nat} {page : PageId} {value : U64}
    {version : PageVersion} (mutation : model.Mutation page value version final)
    (spent : model.Spent operations) (sound : model.Sound)
    (room : operations + 3 < 2 ^ 64) :
      final.Spent (operations + 2) := by
  rcases mutation.steps with ⟨_, middle, _, _, append, _, flush⟩
  exact (spent.effect sound (by omega) append).effect (sound.effect append) room flush

theorem Mutation.allFlushed {page : PageId} {value : U64} {version : PageVersion}
    (mutation : model.Mutation page value version final) (sound : model.Sound) :
    final.AllFlushed := by
  rcases mutation.steps with ⟨_, middle, _, _, append, _, flush⟩
  cases flush
  exact allFlushed_afterFlush (sound.effect append).log

theorem Mutation.kept {page : PageId} {value : U64} {version : PageVersion}
    (mutation : model.Mutation page value version final) (kept : model.Kept anchor) :
    final.Kept anchor := by
  rcases mutation.steps with ⟨_, middle, _, _, append, _, flush⟩
  exact (kept.effect rfl append).effect rfl flush

end RecoveryModel

end Ntsql.Recovery
