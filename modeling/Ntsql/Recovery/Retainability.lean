import Ntsql.Recovery.Reopening

/-! # When retention analysis and reclamation succeed

A completed recovery analyzes its retention as long as every boundary is still
recorded and the checkpoint does not contradict the store; what was analyzed is
reclaimed as long as a generation is left. -/

namespace Ntsql.Recovery

variable {model final : RecoveryModel} {checkpoint : CheckpointSnapshot}

open RecoveryModel Operation

namespace RecoveryModel

def Recorded (model : RecoveryModel) (position : WalPosition) : Prop :=
  ∃ record ∈ model.walRecords, record.position = position

/-- No checkpointed page contradicts the stored one. -/
def Agrees (model : RecoveryModel) (checkpoint : CheckpointSnapshot) : Prop :=
  ∀ (page : PageId) (checkpointed snapshot : PageSnapshot),
    checkpoint.pages[page]? = some checkpointed → model.pageStore[page]? = some snapshot →
      checkpointed = snapshot ∨ checkpointed.writtenAt < snapshot.writtenAt

/-- A position listed first for a restored transaction is one of its pages. -/
def ListsPages (model : RecoveryModel) : Prop :=
  ∀ (txn : TransactionId) (positions : List WalPosition),
    model.persistedTransactions[txn]? = some positions → ∀ position ∈ positions.head?,
      position ∈ pagePositions txn model.walRecords

/-- Everything the analysis of `checkpoint` asks of a sound model. -/
structure Retainable (model : RecoveryModel)
    (checkpoint : CheckpointSnapshot) : Prop where
  frontier : ∀ position ∈ checkpoint.frontier.position, model.Recorded position
  replayStart : ∀ position ∈ checkpoint.replayStart, model.Recorded position
  header : ∀ position ∈ model.retainedFirst, model.Recorded position
  transactions : model.ListsPages
  pages : model.Agrees checkpoint

theorem retainBoundary_succeeds {boundary : Option WalPosition}
    (recorded : ∀ position ∈ boundary, model.Recorded position)
    (earliest : Option WalPosition) :
    ∃ next, model.retainBoundary earliest boundary = .ok next := by
  cases boundary with
  | none => exact ⟨earliest, rfl⟩
  | some position =>
      refine ⟨lowerEarliest earliest position, ?_⟩
      simp only [retainBoundary, Except.bind_ok_iff, rejectIf_ok_iff, not_not,
        Except.pure_ok_iff, exists_const, and_true]
      exact recorded position rfl

theorem retainTransaction_succeeds (log : model.LogInvariant) {txn : TransactionId}
    {positions : List WalPosition}
    (listed : ∀ position ∈ positions.head?, position ∈ pagePositions txn model.walRecords)
    (earliest : Option WalPosition) :
    ∃ next, model.retainTransaction earliest (txn, positions) = .ok next := by
  cases first : positions.head? with
  | none => exact ⟨earliest, by rw [retainTransaction, first]⟩
  | some position =>
      rcases mem_pagePositions.mp (listed position first) with
        ⟨record, member, isPage, isPosition⟩
      have accepted := log.accepted record member
      refine ⟨lowerEarliest earliest position, ?_⟩
      rw [retainTransaction, first]
      simp only [Except.bind_ok_iff, okOr_ok_iff, rejectIf_ok_iff, Except.pure_ok_iff,
        not_or, not_not, recordAt_eq_some_iff log, and_true]
      exact ⟨record, ⟨member, isPosition⟩, (), isPage.1, isPage.2, accepted.logId_eq,
        accepted.lineageId_eq⟩

/-- A stored page is backed by a record that took effect, which is what its
retention asks for. -/
theorem retainStoredPage_succeeds (sound : model.Sound) (agrees : model.Agrees checkpoint)
    {page : PageId} {snapshot : PageSnapshot}
    (stored : model.pageStore[page]? = some snapshot) (earliest : Option WalPosition) :
    ∃ next, model.retainStoredPage checkpoint earliest snapshot = .ok next := by
  rcases sound.pages.owned page snapshot stored with ⟨logId, lineageId, rfl⟩
  rcases sound.pages.backed _ snapshot stored with ⟨record, effective, position, carries⟩
  have accepted := sound.log.accepted record effective.member
  have consistent : ¬∃ checkpointed ∈ checkpoint.pages[snapshot.pageId]?,
      checkpointed ≠ snapshot ∧ checkpointed.writtenAt ≥ snapshot.writtenAt := by
    rintro ⟨checkpointed, found, differs, notOlder⟩
    rcases agrees _ checkpointed snapshot found stored with same | older
    · exact differs same
    · exact absurd notOlder (not_le.mpr older)
  have found : model.recordAt snapshot.writtenAt = some record :=
    (recordAt_eq_some_iff sound.log).mpr ⟨effective.member, position⟩
  have described :
      ¬(record.logId ≠ snapshot.logId ∨ record.lineageId ≠ snapshot.lineageId ∨
      record.page ≠ some snapshot.pageId ∨ record.pageValue ≠ some snapshot.value ∨
      record.pageVersion ≠ some snapshot.version) := by
    simp [accepted.logId_eq, accepted.lineageId_eq, logId, lineageId, carries.page_eq,
      carries.value_eq, carries.version_eq]
  refine ⟨lowerEarliest earliest snapshot.writtenAt, ?_⟩
  simp only [retainStoredPage, Except.bind_ok_iff, okOr_ok_iff, rejectIf_ok_iff]
  refine ⟨(), consistent, record, found, (), described, ?_⟩
  split
  · rename_i kind
    rcases effective.decided with raw | ⟨txn, isPage, committed⟩
    · cases kind.symm.trans raw
    · rw [← sound.log.highWater] at committed
      simp only [Except.bind_ok_iff, okOr_ok_iff, rejectIf_ok_iff, not_not,
        Except.pure_ok_iff, and_true]
      exact ⟨txn, isPage.2, (), hasCommit_iff.mpr committed⟩
  · rename_i other
    rcases effective.decided with raw | ⟨txn, isPage, _⟩
    · have shape := accepted.shape
      rw [WalRecord.HasShape, raw] at shape
      simp only [Except.bind_ok_iff, rejectIf_ok_iff, Except.pure_ok_iff, and_true,
        exists_const]
      rintro (notRaw | owned)
      · exact notRaw raw
      · rw [Option.isNone_iff_eq_none.mp shape.1] at owned
        cases owned
    · exact absurd isPage.1 other

theorem foldlM_succeeds
    {step : Option WalPosition → α → Except ModelError (Option WalPosition)}
    {items : List α}
    (succeeds : ∀ item ∈ items, ∀ earliest, ∃ next, step earliest item = .ok next)
    (earliest : Option WalPosition) :
      ∃ floor, items.foldlM step earliest = .ok floor := by
  induction items generalizing earliest with
  | nil => exact ⟨earliest, rfl⟩
  | cons item items induction =>
      rcases succeeds item List.mem_cons_self earliest with ⟨next, stepped⟩
      rcases induction
          (fun other member => succeeds other (List.mem_cons_of_mem item member)) next
          with
        ⟨floor, rest⟩
      refine ⟨floor, ?_⟩
      rw [List.foldlM_cons, stepped]
      exact rest

theorem retentionFloor_succeeds (sound : model.Sound)
    (retainable : model.Retainable checkpoint) :
    ∃ floor, model.retentionFloor checkpoint = .ok floor := by
  have transactions : ∀ entry ∈ model.persistedTransactions.toList, ∀ earliest,
      ∃ next, model.retainTransaction earliest entry = .ok next :=
    fun entry member => retainTransaction_succeeds sound.log
      (retainable.transactions entry.1 entry.2 (mem_toList_iff.mp member))
  have pages : ∀ snapshot ∈ model.pageStore.toList.map Prod.snd, ∀ earliest,
      ∃ next, model.retainStoredPage checkpoint earliest snapshot = .ok next := by
    intro snapshot member
    rcases List.mem_map.mp member with ⟨entry, stored, rfl⟩
    exact retainStoredPage_succeeds sound retainable.pages (mem_toList_iff.mp stored)
  rcases retainBoundary_succeeds retainable.frontier none with ⟨atFrontier, first⟩
  rcases retainBoundary_succeeds retainable.replayStart atFrontier with
    ⟨atReplayStart, second⟩
  rcases foldlM_succeeds transactions atReplayStart with ⟨atTransactions, third⟩
  rcases foldlM_succeeds pages atTransactions with ⟨atPages, fourth⟩
  rcases retainBoundary_succeeds retainable.header atPages with ⟨floor, last⟩
  refine ⟨floor, ?_⟩
  simp only [retentionFloor, Except.bind_ok_iff]
  exact ⟨_, first, _, second, _, third, _, fourth, last⟩

theorem perform_analyzeRetention (sound : model.Sound)
    (completed : model.phase = .completeLive) {evidence : CompletionEvidence}
    (fresh : model.HasFresh evidence) (isSlot : model.checkpointSlot = some checkpoint)
    (retainable : model.Retainable checkpoint) :
    ∃ floor, model.retentionFloor checkpoint = .ok floor ∧
      model.perform .analyzeRetention = some (model.afterAnalysis checkpoint floor) := by
  have settled := sound.phases.settled (.inl completed) evidence fresh
  have selected : model.selectedCheckpoint = some checkpoint :=
    settled.selectedSlot.trans isSlot
  have valid := sound.slot checkpoint isSlot
  rcases retentionFloor_succeeds sound retainable with ⟨floor, analyzed⟩
  have succeeds :
      analyzeRetention model = .ok () (model.afterAnalysis checkpoint floor) :=
    analyzeRetention_ok_iff.mpr
      ⟨checkpoint, floor, completed, ⟨evidence, fresh⟩, selected,
      valid.logId_eq, valid.lineageId_eq, analyzed, rfl⟩
  exact ⟨floor, analyzed, (perform_eq_some_iff sound).mpr
    ⟨.unit, map_ok_iff.mpr ⟨(), succeeds, rfl⟩,
      .analyzeRetention completed fresh selected analyzed⟩⟩

/-! ## Reclamation -/

theorem Retainable.recorded (retainable : model.Retainable checkpoint)
    (sound : model.Sound) {position : WalPosition}
    (isSource : model.RetentionSource checkpoint position) :
    model.Recorded position := by
  rcases isSource with frontier | replayStart | ⟨txn, positions, listed, isFirst⟩ |
    ⟨page, snapshot, stored, rfl⟩ | header
  · exact retainable.frontier position frontier
  · exact retainable.replayStart position replayStart
  · rcases mem_pagePositions.mp
        (retainable.transactions txn positions listed position isFirst) with
      ⟨record, member, _, isPosition⟩
    exact ⟨record, member, isPosition⟩
  · rcases sound.pages.backed page snapshot stored with ⟨record, effective, isPosition, _⟩
    exact ⟨record, effective.member, isPosition⟩
  · exact retainable.header position header

theorem retainedSuffix_head (log : model.LogInvariant) {floor : WalPosition}
    (recorded : model.Recorded floor) :
    (model.retainedSuffix (some floor)).head?.map WalRecord.position = some floor := by
  rcases recorded with ⟨record, member, rfl⟩
  have kept : record ∈ model.retainedSuffix (some record.position) := by
    rw [retainedSuffix, List.mem_filter]
    exact ⟨member, by simp⟩
  cases isHead : (model.retainedSuffix (some record.position)).head? with
  | none =>
      rw [List.head?_eq_none_iff.mp isHead] at kept
      cases kept
  | some first =>
      have ordered : DurableLog.Ordered WalRecord.position
          (model.retainedSuffix (some record.position)) := log.ordered.filter _
      have below := ordered.head_le isHead kept
      have above : record.position ≤ first.position := by
        have firstKept := List.mem_of_head? isHead
        rw [retainedSuffix, List.mem_filter] at firstKept
        simpa using firstKept.2
      rw [Option.map_some, le_antisymm below above]

def AllFlushed (model : RecoveryModel) : Prop :=
  ∀ record ∈ model.walRecords, Covers model.flushPosition record.position

theorem AllFlushed.getLast (flushed : model.AllFlushed) (log : model.LogInvariant)
    (nonempty : model.walRecords ≠ []) :
    model.walRecords.getLast?.map WalRecord.position = model.flushPosition := by
  have isLast := List.getLast?_eq_some_getLast nonempty
  rcases flushed _ (List.mem_of_getLast? isLast) with ⟨frontier, isFlushed, below⟩
  rw [isLast, Option.map_some, isFlushed]
  rcases log.flushedRecorded frontier isFlushed with ⟨record, member, rfl⟩ | beyond
  · rw [le_antisymm below (log.ordered.position_le_getLast isLast member)]
  · exact absurd below (not_le.mpr (beyond _ (List.mem_of_getLast? isLast)))

/-- The analysis a reclamation consumes: of the selected checkpoint, as the
retention sources still are. -/
structure AnalyzedFor (model : RecoveryModel)
    (checkpoint : CheckpointSnapshot) : Prop where
  phase : model.phase = .retentionAnalyzed
  selected : model.selectedCheckpoint = some checkpoint
  analysis : ∃ floor, model.retentionFloor checkpoint = .ok floor ∧
    model.retentionAnalysis = some ⟨floor, checkpoint.anchor, checkpoint.logId⟩

theorem reclaim_of_built {replacement : WalReplacement}
    (analyzed : model.phase = .retentionAnalyzed)
    (built : model.buildReplacement = .ok replacement)
    (replaceable : model.Replaceable replacement) :
    reclaim model =
      .ok replacement.targetGeneration (model.afterReclaim replacement) := by
  have begins :
      beginWalCandidate replacement model = .ok () (model.withCandidate replacement) :=
    beginWalCandidate_ok_iff.mpr ⟨analyzed, replaceable, rfl⟩
  have advanced := advanceToCompletion_begun
    { model.withCandidate replacement with retentionAnalysis := none } rfl
  have phase : model.requirePhase [.retentionAnalyzed] "reclaim" = .ok () :=
    requirePhase_ok_iff.mpr (List.mem_singleton.mpr analyzed)
  rw [reclaim, get_bind, check_bind_of_ok phase, check_bind_of_ok built,
    bind_of_ok begins, modify_bind, bind_of_ok advanced]
  rfl

theorem perform_reclaim (openable : model.Openable)
    (analyzed : model.AnalyzedFor checkpoint)
    (isSlot : model.checkpointSlot = some checkpoint)
    (retainable : model.Retainable checkpoint) (flushed : model.AllFlushed)
    {generation : Generation} (next : model.walGeneration.checkedNext = some generation) :
    ∃ analysis replacement, model.Builds analysis checkpoint replacement ∧
      model.perform .reclaim = some (model.afterReclaim replacement) := by
  have sound := openable.sound
  have valid := sound.slot checkpoint isSlot
  rcases analyzed.analysis with ⟨floor, isFloor, isAnalysis⟩
  have idle : model.walCandidate = .absent := openable.undisturbed.walCandidate
  have recorded : ∀ position ∈ floor, model.Recorded position := by
    rintro position rfl
    exact retainable.recorded sound (retentionFloor_ok isFloor).mem
  have built : model.buildReplacement = .ok
      { targetGeneration := generation
        anchor := checkpoint.anchor
        retainedSuffix := model.retainedSuffix floor
        retainedFirst := floor
        formatVersion := generationFormatVersion
        logicalHighWater := model.logicalHighWater
        epochHighWater := model.epochHighWater } := by
    simp only [buildReplacement, Except.bind_ok_iff, okOr_ok_iff, rejectIf_ok_iff]
    refine ⟨(), ?_, _, isAnalysis, generation, next, checkpoint, analyzed.selected, (),
      ?_, (), ?_, ?_⟩
    · rintro ⟨differs, nonempty⟩
      exact differs (flushed.getLast sound.log nonempty)
    · rw [valid.logId_eq]
      simp
    · simp
    · cases floor with
      | none =>
          rw [idle]
          rfl
      | some position =>
          simp only [Except.bind_ok_iff, rejectIf_ok_iff, not_not, exists_const]
          refine ⟨retainedSuffix_head sound.log (recorded position rfl), ?_⟩
          rw [idle]
          rfl
  rcases buildReplacement_ok built with ⟨analysis, selected, builds⟩
  cases analyzed.selected.symm.trans builds.selected
  have owned : ∀ record ∈ model.retainedSuffix floor,
      record.logId = model.logId ∧ record.lineageId = model.lineageId := by
    intro record member
    have accepted := sound.log.accepted record (builds.mem_suffix.mp member).1
    exact ⟨accepted.logId_eq, accepted.lineageId_eq⟩
  have succeeds := reclaim_of_built analyzed.phase built ⟨next, rfl, owned⟩
  exact ⟨analysis, _, builds, (perform_eq_some_iff sound).mpr
    ⟨.generation generation, map_ok_iff.mpr ⟨generation, succeeds, rfl⟩,
      .reclaim analyzed.phase builds⟩⟩

end RecoveryModel

end Ntsql.Recovery
