import Ntsql.Recovery.Invariant.Pages

/-! # The published checkpoint along a run

The replay window of the published checkpoint leaves out only records the page
store holds. It is chosen once, at publication; afterwards the store only
advances and new records only land inside the window. -/

namespace Ntsql.Recovery

variable {model final : RecoveryModel}

open RecoveryModel

theorem CheckpointSnapshot.inWindow_of_beyond {checkpoint : CheckpointSnapshot}
    (covered : ∀ replayStart ∈ checkpoint.replayStart,
      Covers checkpoint.frontier.position replayStart) {position : WalPosition}
    (beyond : ∀ frontier ∈ checkpoint.frontier.position, frontier < position) :
    checkpoint.InWindow position := by
  unfold InWindow
  split
  · rename_i replayStart starts
    rcases covered replayStart starts with ⟨frontier, isFrontier, bound⟩
    exact (bound.trans_lt (beyond frontier isFrontier)).le
  · split
    · rename_i frontier isFrontier
      exact beyond frontier isFrontier
    · trivial

namespace RecoveryModel

theorem checkpointSnapshot_frontier (anchor : CheckpointAnchor) :
    (model.checkpointSnapshot anchor).frontier.position = model.flushPosition := by
  unfold checkpointSnapshot
  cases model.flushPosition <;> rfl

namespace CheckpointInvariant

/-- A checkpoint stays valid while the store advances and the log loses
records or gains ones past the flushed frontier. -/
theorem mono {checkpoint : CheckpointSnapshot}
    (valid : model.CheckpointInvariant checkpoint) (logIds : final.logId = model.logId)
    (lineages : final.lineageId = model.lineageId)
    (kept : ∀ record ∈ final.walRecords, record ∈ model.walRecords ∨
      ∀ flushed ∈ model.flushPosition, flushed < record.position)
    (reaches : Reaches model.flushPosition final.flushPosition)
    (advances : StoreAdvances model.pageStore final.pageStore)
    (raised : ∀ epoch ∈ model.epochHighWater, ∃ later ∈ final.epochHighWater,
      epoch ≤ later) :
    final.CheckpointInvariant checkpoint where
  logId_eq := valid.logId_eq.trans logIds.symm
  lineageId_eq := valid.lineageId_eq.trans lineages.symm
  pagesOwned := by
    rw [logIds, lineages]
    exact valid.pagesOwned
  frontierFlushed := valid.frontierFlushed.trans reaches
  replayStartCovered := valid.replayStartCovered
  represented := by
    intro record member isPage outside page isTarget
    rcases kept record member with present | beyond
    · exact advances.holds (valid.represented record present isPage outside page isTarget)
    · refine absurd (CheckpointSnapshot.inWindow_of_beyond valid.replayStartCovered ?_)
        outside
      intro frontier isFrontier
      rcases valid.frontierFlushed frontier isFrontier with ⟨flushed, isFlushed, bound⟩
      exact bound.trans_lt (beyond flushed isFlushed)
  pagesHeld :=
    fun page snapshot found => advances.holds (valid.pagesHeld page snapshot found)
  epochBelow := by
    intro epoch member
    rcases valid.epochBelow epoch member with ⟨highWater, isHighWater, bound⟩
    rcases raised highWater isHighWater with ⟨later, isLater, raise⟩
    exact ⟨later, isLater, bound.trans raise⟩

/-- At publication the store holds every durable page record outside the
window: the window starts at the first one it lags behind. -/
theorem publish (pages : model.PageInvariant)
    (anchor : CheckpointAnchor) :
    model.CheckpointInvariant (model.checkpointSnapshot anchor) where
  logId_eq := rfl
  lineageId_eq := rfl
  pagesOwned := pages.owned
  frontierFlushed := by
    rw [checkpointSnapshot_frontier]
    exact Reaches.refl model.flushPosition
  replayStartCovered := by
    rw [checkpointSnapshot_frontier]
    intro replayStart starts
    change model.computeReplayStart = some replayStart at starts
    cases flushed : model.flushPosition with
    | none =>
        rw [computeReplayStart, flushed] at starts
        cases starts
    | some frontier =>
        have isFloor := computeReplayStart_isFloor flushed
        rw [starts] at isFloor
        rcases isFloor.mem with ⟨record, _, needed, rfl⟩
        exact covers_some.mpr needed.1
  represented := by
    intro record member isPage outside page isTarget
    unfold CheckpointSnapshot.InWindow at outside
    rw [checkpointSnapshot_frontier] at outside
    cases flushed : model.flushPosition with
    | none =>
        have start : (model.checkpointSnapshot anchor).replayStart = none := by
          change model.computeReplayStart = none
          rw [computeReplayStart, flushed]
        rw [start, flushed] at outside
        exact absurd trivial outside
    | some frontier =>
        rw [flushed] at outside
        apply LatestImage.not_lags_iff.mp
        intro lags
        have isFloor := computeReplayStart_isFloor flushed
        change IsFloor _ (model.checkpointSnapshot anchor).replayStart at isFloor
        cases start : (model.checkpointSnapshot anchor).replayStart with
        | some replayStart =>
            rw [start] at outside isFloor
            have before : record.position < replayStart := not_le.mp outside
            have durable : record.position ≤ frontier := by
              rcases isFloor.mem with ⟨earliest, _, needed, equal⟩
              exact before.le.trans (equal ▸ needed.1)
            have needed : model.NeedsReplay frontier record :=
              ⟨durable, isPage, page, isTarget, lags⟩
            exact absurd (isFloor.2 ⟨record, member, needed, rfl⟩) (not_le.mpr before)
        | none =>
            rw [start] at outside isFloor
            have durable : record.position ≤ frontier := not_lt.mp outside
            have needed : model.NeedsReplay frontier record :=
              ⟨durable, isPage, page, isTarget, lags⟩
            rcases isFloor.exists_le ⟨record, member, needed, rfl⟩ with ⟨_, impossible, _⟩
            cases impossible
  pagesHeld := fun page snapshot found => ⟨snapshot, found, le_rfl⟩
  epochBelow := fun epoch member => ⟨epoch, member, le_rfl⟩

theorem reopen {checkpoint : CheckpointSnapshot}
    (valid : model.CheckpointInvariant checkpoint) (lineage : LineageId) :
    (model.afterReopen lineage).CheckpointInvariant (checkpoint.rebrand lineage) := by
  have original : ∀ (page : PageId) (snapshot : PageSnapshot),
      (checkpoint.rebrand lineage).pages[page]? = some snapshot →
      ∃ stored, checkpoint.pages[page]? = some stored ∧ stored.rebrand lineage =
        snapshot := by
    intro page snapshot found
    change (PageStore.rebrand lineage checkpoint.pages)[page]? = some snapshot at found
    rw [PageStore.getElem?_rebrand] at found
    exact Option.map_eq_some_iff.mp found
  have advances := storeAdvances_rebrand model.pageStore lineage
  refine
    { logId_eq := valid.logId_eq
      lineageId_eq := rfl
      pagesOwned := ?_
      frontierFlushed := valid.frontierFlushed
      replayStartCovered := valid.replayStartCovered
      represented := ?_
      pagesHeld := ?_
      epochBelow := valid.epochBelow }
  · intro page snapshot found
    rcases original page snapshot found with ⟨stored, isStored, rfl⟩
    have owned := valid.pagesOwned page stored isStored
    exact ⟨owned.1, rfl, owned.2.2⟩
  · intro record member isPage outside page isTarget
    rcases List.mem_map.mp member with ⟨earlier, present, rfl⟩
    exact advances.holds (valid.represented earlier present isPage outside page isTarget)
  · intro page snapshot found
    rcases original page snapshot found with ⟨stored, isStored, rfl⟩
    exact advances.holds (valid.pagesHeld page stored isStored)

end CheckpointInvariant

theorem SlotInvariant.effect (sound : model.Sound) {operation : RunOperation}
    {response : Response} (effect : Effect model operation response final) :
    final.SlotInvariant := by
  have slot := sound.slot
  have log := sound.log
  have same : ∀ epoch ∈ model.epochHighWater, ∃ later ∈ model.epochHighWater,
      epoch ≤ later :=
    fun epoch member => ⟨epoch, member, le_rfl⟩
  have appended : ∀ {record : WalRecord}, model.nextPosition = some record.position.get →
      ∀ other ∈ model.walRecords ++ [record], other ∈ model.walRecords ∨
        ∀ flushed ∈ model.flushPosition, flushed < other.position := by
    intro record next other member
    rcases List.mem_append.mp member with earlier | last
    · exact .inl earlier
    · rw [List.mem_singleton.mp last]
      exact .inr (log.flushedBelow _ next)
  cases effect with
  | allocateCoordinatorEpoch live next =>
      intro checkpoint member
      have after := sound.transactions.epochNext.symm.trans next
      refine (slot checkpoint member).mono rfl rfl (fun _ present => .inl present)
        (Reaches.refl _) (LatestImage.Advances.refl _) ?_
      intro issued isIssued
      exact ⟨_, raiseHighWater_of_after after,
        (lt_of_epochAfter after issued isIssued).le⟩
  | appendTransactionPage live active next
  | appendTransactionCommit live active undecided next
  | appendRawPage live next =>
      intro checkpoint member
      exact (slot checkpoint member).mono rfl rfl (appended next) (Reaches.refl _)
        (LatestImage.Advances.refl _) same
  | flushWal live =>
      have reaches := log.reaches_afterFlush
      unfold afterFlush at reaches ⊢
      split at reaches
      · intro checkpoint member
        exact (slot checkpoint member).mono rfl rfl
          (fun _ present => .inl present) reaches (LatestImage.Advances.refl _) same
      · exact slot
  | writePageStore live accepted =>
      intro checkpoint member
      exact (slot checkpoint member).mono rfl rfl (fun _ present => .inl present)
        (Reaches.refl _) (storeAdvances_write accepted) same
  | publishCheckpoint live =>
      intro checkpoint member
      cases member
      exact { CheckpointInvariant.publish sound.pages _ with }
  | crash running | crashPreservingCompleteWalTail running =>
      intro checkpoint member
      exact (slot checkpoint member).mono rfl rfl
        (fun _ present => .inl (LogInvariant.mem_afterCrash.mp present).1)
        (Reaches.refl _) (LatestImage.Advances.refl _) same
  | reopen crashed next valid =>
      intro checkpoint member
      rcases Option.map_eq_some_iff.mp member with ⟨original, isSlot, rfl⟩
      exact (slot original isSlot).reopen _
  | repairPages planned found | repairPagesAppliedFault planned found =>
      intro checkpoint member
      exact (slot checkpoint member).mono rfl rfl (fun _ present => .inl present)
        (Reaches.refl _) (storeAdvances_repairedStore _) same
  | restoreTransactions repaired fresh found =>
      intro checkpoint member
      have after := sound.epochAfter_of_fresh repaired fresh
      refine (slot checkpoint member).mono rfl rfl (fun _ present => .inl present)
        (Reaches.refl _) (LatestImage.Advances.refl _) ?_
      intro issued isIssued
      exact ⟨_, rfl, (lt_of_epochAfter after issued isIssued).le⟩
  | reclaim analyzed builds =>
      intro checkpoint member
      refine (slot checkpoint member).mono rfl rfl
        (fun _ present => .inl (builds.mem_suffix.mp present).1) ?_
        (LatestImage.Advances.refl _) ?_
      · rw [← log.highWater, ← builds.logicalHighWater_eq]
        exact Reaches.refl _
      · intro issued isIssued
        rw [← builds.epochHighWater_eq] at isIssued
        exact ⟨issued, isIssued, le_rfl⟩
  | beginTransaction | select | planReplay | complete | analyzeRetention =>
      intro checkpoint member
      exact { slot checkpoint member with }

end RecoveryModel

end Ntsql.Recovery
