import Ntsql.Transaction.CheckpointMaterialization

/-! # Materialization accepts canonical checkpoints

What is accepted is the observation of a canonical checkpoint, and every
checkpoint a valid prefix derives is canonical. -/

namespace Ntsql.Transaction

open SortedTable

/-! ## Canonical rows -/

/-- A page is current, or behind, as its positions say. -/
def RestartPageState.Ordered : RestartPageState → Prop
  | .noRequiredImage => True
  | .storeMissing _ => True
  | .storeCurrent required storedPosition => storedPosition = required.pagePosition
  | .storeBehind storedPosition required => storedPosition < required.pagePosition

section Rows

variable (frontier : Option U64)

structure EntryCanonical (allocatedEpochHighWater : NonZeroU64)
    (entry : RestartCheckpointBaselineEntry) : Prop where
  allocated : entry.transaction.epoch.get ≤ allocatedEpochHighWater.get
  ranged : RangeCountIsPossible entry.firstOwnedPagePosition entry.lastOwnedPagePosition
    entry.ownedPageRecordCount
  first : ∀ first ∈ entry.firstOwnedPagePosition,
    AnchoredCheckpointPositionIsBounded frontier first
  last : ∀ last ∈ entry.lastOwnedPagePosition,
    AnchoredCheckpointPositionIsBounded frontier last
  owns : entry.state = .uncommitted → entry.ownedPageRecordCount ≠ 0
  commit : ∀ commit ∈ entry.state.commitPosition,
    AnchoredCheckpointPositionIsBounded frontier commit
  settled : ∀ commit ∈ entry.state.commitPosition, ∀ last ∈ entry.lastOwnedPagePosition,
    last < commit

variable (transactions : List RestartCheckpointBaselineEntry)

/-- A transaction image lies in the range of its transaction, before the commit. -/
def ImageCanonical : RestartRequiredPageImage → Prop
  | .raw pagePosition => AnchoredCheckpointPositionIsBounded frontier pagePosition
  | .committedTransaction transaction pagePosition commitPosition =>
      AnchoredCheckpointPositionIsBounded frontier pagePosition ∧
        AnchoredCheckpointPositionIsBounded frontier commitPosition ∧
        ∃ entry ∈ transactions, entry.transaction = transaction ∧
          entry.state.commitPosition = some commitPosition ∧
          RangeContains entry.firstOwnedPagePosition entry.lastOwnedPagePosition
            pagePosition ∧
          pagePosition < commitPosition

structure PageCanonical (entry : RestartPageEntry) : Prop where
  images : ∀ required ∈ entry.state.requiredImage,
    ImageCanonical frontier transactions required
  stored : ∀ stored ∈ entry.state.storedPosition,
    AnchoredCheckpointPositionIsBounded frontier stored
  ordered : entry.state.Ordered

end Rows

theorem DurableTransactionIdentityObservation.new_ok_iff {epoch sequence : U64}
    {transaction : DurableTransactionIdentityObservation} :
    DurableTransactionIdentityObservation.new epoch sequence = .ok transaction ↔
      transaction.epoch.get = epoch ∧ transaction.sequence.get = sequence := by
  rcases transaction with ⟨ownEpoch, ownSequence⟩
  simp only [DurableTransactionIdentityObservation.new, Except.bind_ok_iff, okOr_ok_iff,
    NonZeroU64.new_eq_some, Except.pure_ok_iff,
    DurableTransactionIdentityObservation.mk.injEq]
  constructor
  · intro wrapped
    rcases wrapped with ⟨_, isEpoch, _, isSequence, rfl, rfl⟩
    exact ⟨isEpoch, isSequence⟩
  · intro holds
    exact ⟨_, holds.1, _, holds.2, rfl, rfl⟩

section Steps

variable {frontier : Option U64} {allocatedEpochHighWater : NonZeroU64} {index : Nat}
  {transactions : List RestartCheckpointBaselineEntry}

theorem checkTransactionPosition_ok_iff
    {field : RestartAnchoredCheckpointTransactionPositionField} {position : Option U64}
    {value : Unit} :
    checkTransactionPosition frontier index field position = .ok value ↔
      ∀ found ∈ position, AnchoredCheckpointPositionIsBounded frontier found := by
  simp [checkTransactionPosition, Except.forM_ok_iff]

theorem materializeState_ok_iff {transaction : DurableTransactionIdentityObservation}
    {last : Option U64} {count : U64}
    {observation : RestartCheckpointBaselineStateObservation}
    {state : RestartCheckpointBaselineState} :
    materializeState frontier index transaction last count observation = .ok state ↔
      state.observe = observation ∧ (state = .uncommitted → count ≠ 0) ∧
        (∀ commit ∈ state.commitPosition,
          AnchoredCheckpointPositionIsBounded frontier commit) ∧
        ∀ commit ∈ state.commitPosition, ∀ position ∈ last, position < commit := by
  cases observation with
  | uncommitted =>
      simp only [materializeState, Except.bind_ok_iff, rejectIf_ok_iff,
        Except.pure_ok_iff, exists_const]
      cases state <;>
        simp [RestartCheckpointBaselineState.observe,
          RestartCheckpointBaselineState.commitPosition]
  | committed commitPosition =>
      simp only [materializeState, Except.bind_ok_iff, Except.forM_ok_iff,
        rejectIf_ok_iff, checkTransactionPosition_ok_iff, Except.pure_ok_iff, not_le,
        exists_const]
      cases state with
      | uncommitted => simp [RestartCheckpointBaselineState.observe]
      | committed position =>
          simp only [RestartCheckpointBaselineState.observe,
            RestartCheckpointBaselineState.commitPosition, Option.mem_some_iff,
            RestartCheckpointBaselineState.committed.injEq,
            RestartCheckpointBaselineStateObservation.committed.injEq]
          constructor
          · intro holds
            rcases holds with ⟨bounded, after, rfl⟩
            simpa using ⟨bounded commitPosition rfl, by simpa using after⟩
          · intro holds
            rcases holds with ⟨rfl, _, bounded, after⟩
            simpa using ⟨bounded position rfl, after position rfl⟩

theorem materializeTransaction_ok_iff {previous : Option RestartCheckpointBaselineEntry}
    {item : RestartCheckpointBaselineEntryObservation × Nat}
    {row : RestartCheckpointBaselineEntry} :
    materializeTransaction frontier allocatedEpochHighWater previous item = .ok row ↔
      row.observe = item.1 ∧ EntryCanonical frontier allocatedEpochHighWater row ∧
        ∀ earlier ∈ previous, earlier.transaction < row.transaction := by
  rcases item with ⟨observation, index⟩
  simp only [materializeTransaction, Except.bind_ok_iff, Except.mapError_ok_iff,
    DurableTransactionIdentityObservation.new_ok_iff, Except.forM_ok_iff, rejectIf_ok_iff,
    not_not, checkTransactionPosition_ok_iff, materializeState_ok_iff, Except.pure_ok_iff,
    exists_const]
  constructor
  · intro materialized
    rcases materialized with
      ⟨transaction, ⟨isEpoch, isSequence⟩, after, allocated, ranged, first,
      last, state, ⟨isState, owns, commit, settled⟩, rfl⟩
    refine ⟨?_, ⟨not_lt.mp allocated, ranged, first, last, owns, commit, settled⟩, ?_⟩
    · rw [RestartCheckpointBaselineEntry.observe, isEpoch, isSequence, isState]
    · intro earlier isPrevious
      exact not_le.mp (after earlier (by simpa using isPrevious))
  · intro holds
    rcases holds with ⟨rfl, canonical, after⟩
    refine ⟨row.transaction, ⟨rfl, rfl⟩, ?_, not_lt.mpr canonical.allocated,
      canonical.ranged,
      canonical.first, canonical.last, row.state, ⟨rfl, canonical.owns, canonical.commit,
        canonical.settled⟩, rfl⟩
    intro earlier isPrevious
    exact not_le.mpr (after earlier (by simpa using isPrevious))

theorem materializeRequiredImage_ok_iff
    (increasing : Increasing RestartCheckpointBaselineEntry.transaction transactions)
    {observation : RestartCheckpointCompletenessBaselineRequiredImageObservation}
    {required : RestartRequiredPageImage} :
    materializeRequiredImage frontier index transactions observation = .ok required ↔
      required.observe = observation ∧ ImageCanonical frontier transactions required := by
  cases observation with
  | raw pagePosition =>
      simp only [materializeRequiredImage, checkPagePosition, Except.bind_ok_iff,
        rejectIf_ok_iff, not_not, Except.pure_ok_iff, exists_const]
      cases required with
      | raw position =>
          simp only [RestartRequiredPageImage.observe, ImageCanonical,
            RestartCheckpointCompletenessBaselineRequiredImageObservation.pagePosition,
            RestartCheckpointCompletenessBaselineRequiredImageObservation.raw.injEq,
            RestartRequiredPageImage.raw.injEq]
          constructor
          · intro holds
            exact ⟨holds.2.symm, holds.2 ▸ holds.1⟩
          · intro holds
            exact ⟨holds.1 ▸ holds.2, holds.1.symm⟩
      | committedTransaction transaction pagePosition commitPosition =>
          simp [RestartRequiredPageImage.observe]
  | committedTransaction epoch sequence pagePosition commitPosition =>
      simp only [materializeRequiredImage, checkPagePosition, Except.bind_ok_iff,
        rejectIf_ok_iff, not_not, Except.mapError_ok_iff,
        DurableTransactionIdentityObservation.new_ok_iff, okOr_ok_iff,
        increasing.search_eq_some, not_or, not_le, Except.pure_ok_iff, exists_const]
      constructor
      · intro materialized
        rcases materialized with
          ⟨page, commit, transaction, ⟨rfl, rfl⟩, entry, ⟨among, here⟩,
          ⟨committed, within, before⟩, rfl⟩
        exact ⟨rfl, page, commit, entry, among, here, committed, within, before⟩
      · intro holds
        rcases holds with ⟨observed, canonical⟩
        cases required with
        | raw position => cases observed
        | committedTransaction transaction position committed =>
            cases observed
            rcases canonical with
              ⟨page, commit, entry, among, here, committed, within, before⟩
            exact ⟨page, commit, transaction, ⟨rfl, rfl⟩, entry, ⟨among, here⟩,
              ⟨committed, within, before⟩, rfl⟩

theorem materializePageState_ok_iff
    {observation : RestartCheckpointCompletenessBaselinePageObservation}
    {required : Option RestartRequiredPageImage} {state : RestartPageState} :
    materializePageState index observation required = .ok state ↔
      state.observe = observation.state ∧ state.requiredImage = required ∧
        state.storedPosition = observation.storedPosition ∧ state.Ordered := by
  rcases observation with ⟨pageNumber, kind, requiredImage, storedPosition⟩
  constructor
  · intro materialized
    unfold materializePageState at materialized
    dsimp only at materialized
    split at materialized
    · cases materialized
      exact ⟨rfl, rfl, rfl, trivial⟩
    · cases materialized
      exact ⟨rfl, rfl, rfl, trivial⟩
    · split at materialized
      · rename_i current
        cases materialized
        exact ⟨rfl, rfl, rfl, current⟩
      · cases materialized
    · split at materialized
      · rename_i behind
        cases materialized
        exact ⟨rfl, rfl, rfl, behind⟩
      · cases materialized
    · cases materialized
  · intro holds
    rcases holds with ⟨isKind, rfl, isStored, ordered⟩
    dsimp only at isKind isStored
    subst isKind isStored
    cases state with
    | noRequiredImage => rfl
    | storeMissing image => rfl
    | storeCurrent image storedPosition => exact if_pos ordered
    | storeBehind storedPosition image => exact if_pos ordered

theorem validShape_of_observe (entry : RestartPageEntry) : ValidShape entry.observe := by
  rcases entry with ⟨pageNumber, state⟩
  cases state <;> simp [RestartPageEntry.observe, ValidShape, RestartPageState.observe,
    RestartPageState.requiredImage, RestartPageState.storedPosition]

theorem mapM_materializeRequiredImage_ok_iff
    (increasing : Increasing RestartCheckpointBaselineEntry.transaction transactions)
    {observation : Option RestartCheckpointCompletenessBaselineRequiredImageObservation}
    {required : Option RestartRequiredPageImage} :
    observation.mapM (materializeRequiredImage frontier index transactions) =
      .ok required ↔
      required.map (·.observe) = observation ∧
        ∀ image ∈ required, ImageCanonical frontier transactions image := by
  cases observation with
  | none => cases required <;> simp [pure, Except.pure]
  | some observation =>
      simp only [Option.mapM_some, map_eq_pure_bind, Except.bind_ok_iff,
        materializeRequiredImage_ok_iff increasing, Except.pure_ok_iff]
      cases required with
      | none => simp
      | some image => simp

theorem materializePage_ok_iff
    (increasing : Increasing RestartCheckpointBaselineEntry.transaction transactions)
    {previous : Option RestartPageEntry}
    {item : RestartCheckpointCompletenessBaselinePageObservation × Nat}
    {row : RestartPageEntry} :
    materializePage frontier transactions previous item = .ok row ↔
      row.observe = item.1 ∧ PageCanonical frontier transactions row ∧
        ∀ earlier ∈ previous, earlier.pageNumber.get < row.pageNumber.get := by
  rcases item with ⟨observation, index⟩
  simp only [materializePage, Except.bind_ok_iff, okOr_ok_iff, NonZeroU64.new_eq_some,
    Except.forM_ok_iff, rejectIf_ok_iff, not_not, not_le,
    mapM_materializeRequiredImage_ok_iff increasing, checkPagePosition,
    materializePageState_ok_iff, Except.pure_ok_iff, exists_const]
  constructor
  · intro materialized
    rcases materialized with
      ⟨pageNumber, isNumber, after, shape, required, ⟨observed, images⟩,
      stored, state, ⟨kind, rfl, position, ordered⟩, rfl⟩
    refine ⟨?_, ⟨images, ?_, ordered⟩, ?_⟩
    · rw [RestartPageEntry.observe, isNumber, kind, observed, position]
    · simpa [position] using stored
    · simpa using after
  · intro holds
    rcases holds with ⟨rfl, canonical, after⟩
    refine ⟨row.pageNumber, rfl, by simpa using after, validShape_of_observe row,
      row.state.requiredImage, ⟨rfl, canonical.images⟩,
        by simpa [RestartPageEntry.observe] using canonical.stored, row.state,
      ⟨rfl, rfl, rfl, canonical.ordered⟩, rfl⟩

end Steps

/-! ## Canonical checkpoints -/

def RestartCheckpointBaselineEntry.need (entry : RestartCheckpointBaselineEntry) :
    Option ReplayNeed :=
  match entry.state with
  | .uncommitted => entry.firstOwnedPagePosition.map fun first =>
      (first, .uncommittedTransaction entry.transaction)
  | .committed _ => none

/-- Positions a checkpoint says replay has to start at, or before. -/
def RestartCheckpointCompletenessBaseline.needs
    (baseline : RestartCheckpointCompletenessBaseline) : List ReplayNeed :=
  baseline.transactionBaseline.transactions.filterMap (·.need) ++
    baseline.pages.filterMap (·.need)

structure CanonicalRows (frontier : Option U64) (allocatedEpochHighWater : NonZeroU64)
    (transactions : List RestartCheckpointBaselineEntry) (pages : List RestartPageEntry) :
    Prop where
  transactionsIncreasing :
    Increasing RestartCheckpointBaselineEntry.transaction transactions
  entries : ∀ entry ∈ transactions, EntryCanonical frontier allocatedEpochHighWater entry
  pagesIncreasing :
    Increasing (fun entry : RestartPageEntry => entry.pageNumber.get) pages
  pageEntries : ∀ entry ∈ pages, PageCanonical frontier transactions entry

/-- A checkpoint that could have been derived: replay starts at the lowest need
of its own rows. -/
structure CanonicalCheckpoint (lineage : LogLineage)
    (metadata : RestartWalReclamationSourceObservation)
    (baseline : RestartCheckpointCompletenessBaseline) : Prop where
  persistent : lineage.persistentId = some baseline.transactionBaseline.persistentLogId
  frontier : baseline.transactionBaseline.durableFrontier ≠ some 0
  rows : CanonicalRows baseline.transactionBaseline.durableFrontier
    metadata.allocatedEpochHighWater baseline.transactionBaseline.transactions
      baseline.pages
  replayStart : baseline.replayStart =
    replayStartOf baseline.transactionBaseline.durableFrontier (lowestNeed baseline.needs)
  anchor :
    metadata.selectedCheckpointAnchor = some (selectedRestartCheckpointAnchor baseline)

theorem RangeCountIsPossible.first_ne_none {first last : Option U64} {count : U64}
    (possible : RangeCountIsPossible first last count) (owns : count ≠ 0) :
      first ≠ none := by
  intro missing
  subst missing
  cases last with
  | none => exact owns possible
  | some last => exact possible

theorem foldlM_lowerForBaselineEntry {frontier : Option U64}
    {allocatedEpochHighWater : NonZeroU64}
    {transactions : List RestartCheckpointBaselineEntry} {floor : Option ReplayNeed}
    (canonical : ∀ entry ∈ transactions,
      EntryCanonical frontier allocatedEpochHighWater entry) :
    transactions.foldlM lowerForBaselineEntry floor =
      .ok ((transactions.filterMap (·.need)).foldl
        (fun floor need => lowerRestartReplayStart floor need.1 need.2) floor) := by
  refine foldlM_lower (fun entry among floor => ?_) floor
  cases state : entry.state with
  | committed position =>
      simp [lowerForBaselineEntry, RestartCheckpointBaselineEntry.need, state, pure,
        Except.pure]
  | uncommitted =>
      have owned :=
        (canonical entry among).ranged.first_ne_none ((canonical entry among).owns state)
      rcases Option.ne_none_iff_exists'.mp owned with ⟨first, isFirst⟩
      simp [lowerForBaselineEntry, RestartCheckpointBaselineEntry.need, state, isFirst,
        okOr, Except.ok_bind, pure, Except.pure]

variable {lineage : LogLineage} {metadata : RestartWalReclamationSourceObservation}

theorem collect_rows_ok_iff {frontier : Option U64} {allocatedEpochHighWater : NonZeroU64}
    {entries : List RestartCheckpointBaselineEntryObservation}
    {observations : List RestartCheckpointCompletenessBaselinePageObservation}
    {transactions : List RestartCheckpointBaselineEntry} {pages : List RestartPageEntry} :
    (collect (materializeTransaction frontier allocatedEpochHighWater) entries =
        .ok transactions ∧
      collect (materializePage frontier transactions) observations = .ok pages) ↔
      transactions.map (·.observe) = entries ∧ pages.map (·.observe) = observations ∧
        CanonicalRows frontier allocatedEpochHighWater transactions pages := by
  have transactionsCollected :
      collect (materializeTransaction frontier allocatedEpochHighWater)
      entries = .ok transactions ↔ _ :=
    collect_ok_iff (fun _ _ _ => materializeTransaction_ok_iff)
  have pagesCollected (increasing : Increasing RestartCheckpointBaselineEntry.transaction
      transactions) :
        collect (materializePage frontier transactions) observations = .ok pages ↔ _ :=
    collect_ok_iff (fun _ _ _ => materializePage_ok_iff increasing)
  rw [transactionsCollected]
  constructor
  · intro collected
    rcases collected with ⟨⟨observed, entries, increasing⟩, collected⟩
    rcases (pagesCollected increasing).mp collected with
      ⟨pagesObserved, pageEntries, ordered⟩
    exact ⟨observed, pagesObserved, increasing, entries, ordered, pageEntries⟩
  · intro holds
    rcases holds with ⟨observed, pagesObserved, rows⟩
    exact ⟨⟨observed, rows.entries, rows.transactionsIncreasing⟩,
      (pagesCollected rows.transactionsIncreasing).mpr
        ⟨pagesObserved, rows.pageEntries, rows.pagesIncreasing⟩⟩

theorem materializeAnchoredRestartCheckpoint_ok_iff
    {observation : RestartCheckpointCompletenessBaselineObservation}
    {baseline : RestartCheckpointCompletenessBaseline} :
    materializeAnchoredRestartCheckpoint lineage metadata observation = .ok baseline ↔
      baseline.observe = observation ∧ CanonicalCheckpoint lineage metadata baseline := by
  rcases observation with
    ⟨⟨persistentLogId, durableFrontier, entries⟩, observations, replay⟩
  simp only [materializeAnchoredRestartCheckpoint,
    materializeAnchoredRestartCheckpointWithoutSelectedAnchor, Except.bind_ok_iff,
    okOr_ok_iff, NonZeroU128.new_eq_some, rejectIf_ok_iff, not_not, Except.pure_ok_iff,
    exists_const, Bool.not_eq_false, restartCheckpointReplayMatchesObservation_iff]
  constructor
  · intro accepted
    rcases accepted with
      ⟨_, ⟨id, persistent, actual, isActual, rfl, nonzero, transactions,
      isTransactions, pages, isPages, floor, isFloor, replayed, rfl⟩, anchored, rfl⟩
    rcases collect_rows_ok_iff.mp ⟨isTransactions, isPages⟩ with
      ⟨observed, pagesObserved, rows⟩
    rw [foldlM_lowerForBaselineEntry rows.entries, Except.ok.injEq] at isFloor
    have lowest : pages.foldl RestartPageEntry.lower floor = lowestNeed
        (transactions.filterMap (·.need) ++ pages.filterMap (·.need)) := by
      rw [foldl_page_lower, ← isFloor, lowestNeed_append]
      rfl
    exact ⟨by rw [← observed, ← pagesObserved, ← replayed, ← isActual]; rfl,
      persistent, nonzero,
      rows, congrArg (replayStartOf durableFrontier) lowest, anchored⟩
  · intro holds
    rcases baseline with ⟨⟨id, frontier, transactions⟩, pages, replayStart⟩
    rcases holds with ⟨observed, canonical⟩
    cases observed
    have rows := canonical.rows
    rcases collect_rows_ok_iff.mpr ⟨rfl, rfl, rows⟩ with ⟨isTransactions, isPages⟩
    have lowest := canonical.replayStart
    have replayed : replayStartOf frontier (pages.foldl RestartPageEntry.lower
        ((transactions.filterMap (·.need)).foldl
          (fun floor need => lowerRestartReplayStart floor need.1 need.2) none)) =
            replayStart := by
      rw [foldl_page_lower]
      exact ((congrArg (replayStartOf frontier) (lowestNeed_append _ _)).symm).trans
        lowest.symm
    refine ⟨_, ⟨id, canonical.persistent, id, rfl, rfl, canonical.frontier, transactions,
      isTransactions, pages, isPages, _, foldlM_lowerForBaselineEntry rows.entries, ?_,
        rfl⟩, ?_, ?_⟩
    · rw [replayed]
    · rw [replayed]
      exact canonical.anchor
    · rw [replayed]

/-! ## Derived checkpoints -/

section Derived

variable {width : Nat} {StoreError : Type}
  {records : List (DurableTransactionRestartObservation width)}
  {transaction : DurableTransactionIdentityObservation}

theorem first_add_length_le_last (first : LogSequenceNumber)
    (others : List LogSequenceNumber)
    (increasing : (first :: others).Pairwise fun earlier later => earlier.get < later.get)
    {last : LogSequenceNumber} (isLast : (first :: others).getLast? = some last) :
    first.get.val + others.length ≤ last.get.val := by
  induction others generalizing first with
  | nil =>
      cases isLast
      exact le_rfl
  | cons second others induction =>
      have ordered := List.pairwise_cons.mp increasing
      have beyond := induction second ordered.2 (by simpa using isLast)
      have step : first.get.val < second.get.val := ordered.1 second List.mem_cons_self
      rw [List.length_cons]
      omega

theorem rangeCountIsPossible_of_increasing (positions : List LogSequenceNumber)
    (increasing : positions.Pairwise fun earlier later => earlier.get < later.get)
    {count : U64} (counted : count.val = positions.length) :
    RangeCountIsPossible (positions.head?.map (·.get))
      (positions.getLast?.map (·.get)) count := by
  cases positions with
  | nil => exact Fin.ext counted
  | cons first others =>
      cases last : (first :: others).getLast? with
      | none => simp at last
      | some position =>
          have range := first_add_length_le_last first others increasing last
          rw [List.length_cons] at counted
          rw [List.head?_cons, Option.map_some, Option.map_some, RangeCountIsPossible]
          cases others with
          | nil =>
              cases last
              have single : count = 1 := Fin.ext counted
              exact if_pos single ▸ rfl
          | cons second others =>
              rw [List.length_cons] at range counted
              have several : count ≠ 1 := by
                intro single
                rw [single] at counted
                exact absurd counted (by simp)
              rw [if_neg several]
              refine ⟨?_, ?_, by omega⟩
              · have more : (1 : Nat) < count.val := by omega
                exact more
              · have apart : first.get.val < position.get.val := by omega
                exact apart

theorem ValidPrefix.bounded (valid : ValidPrefix lineage records)
    {record : DurableTransactionRestartObservation width} (among : record ∈ records) :
    AnchoredCheckpointPositionIsBounded ((lastPosition records).map (·.get))
      record.position.get := by
  rcases Option.ne_none_iff_exists'.mp (show records.getLast? ≠ none by
    simpa using List.ne_nil_of_mem among) with ⟨last, isLast⟩
  exact ⟨record.position_ne_zero, last.position.get, by simp [lastPosition, isLast],
    valid.position_le_last among isLast⟩

theorem ValidPrefix.owned_bounded (valid : ValidPrefix lineage records)
    {position : LogSequenceNumber}
    (among : position ∈ ownedPositions records transaction) :
    AnchoredCheckpointPositionIsBounded ((lastPosition records).map (·.get))
      position.get := by
  rcases mem_ownedPositions.mp among with ⟨page, isRecord, _, rfl⟩
  exact valid.bounded isRecord

theorem ValidPrefix.commit_bounded (valid : ValidPrefix lineage records)
    {position : LogSequenceNumber}
    (committed : commitPosition records transaction = some position) :
    AnchoredCheckpointPositionIsBounded ((lastPosition records).map (·.get))
      position.get := by
  rcases exists_commit committed with ⟨commit, isRecord, _, rfl⟩
  exact valid.bounded isRecord

theorem ValidPrefix.owned_lt_commit (valid : ValidPrefix lineage records)
    {position commit : LogSequenceNumber}
    (among : position ∈ ownedPositions records transaction)
    (committed : commitPosition records transaction = some commit) :
      position.get < commit.get := by
  rcases mem_ownedPositions.mp among with ⟨page, isPage, owner, rfl⟩
  rcases exists_commit committed with ⟨record, isRecord, same, rfl⟩
  rcases valid.trichotomy isPage isRecord (by simp) with before | after
  · exact before.1
  · exact absurd (congrArg some (owner.trans same.symm)) (after.2 record rfl)

theorem ValidPrefix.entryCanonical (valid : ValidPrefix lineage records)
    {allocatedEpochHighWater : NonZeroU64}
    (allocated : transaction.epoch.get ≤ allocatedEpochHighWater.get)
    (present : ownedPositions records transaction ≠ [] ∨
      commitPosition records transaction ≠ none) :
    EntryCanonical ((lastPosition records).map (·.get)) allocatedEpochHighWater
      (entryOf records transaction).lower := by
  have counted : (entryOf records transaction).lower.ownedPageRecordCount.val =
      (ownedPositions records transaction).length :=
    Nat.mod_eq_of_lt
      (((ownedPositions_length_le transaction).trans valid.length_le).trans_lt u64Max_lt)
  have commits : (entryOf records transaction).lower.state.commitPosition =
      (commitPosition records transaction).map (·.get) := by
    rw [← commitPosition_transactionState]
    exact RestartState.lower_commitPosition _
  refine ⟨allocated, rangeCountIsPossible_of_increasing _
    (valid.ownedPositions_ordered transaction) counted, ?_, ?_, ?_, ?_, ?_⟩
  · intro first isFirst
    rcases Option.map_eq_some_iff.mp isFirst with ⟨position, isHead, rfl⟩
    exact valid.owned_bounded (List.mem_of_mem_head? isHead)
  · intro last isLast
    rcases Option.map_eq_some_iff.mp isLast with ⟨position, isTail, rfl⟩
    exact valid.owned_bounded (List.mem_of_getLast? isTail)
  · intro uncommitted absent
    rw [absent] at counted
    have owned := List.length_eq_zero_iff.mp counted.symm
    rw [uncommitted] at commits
    have committed := Option.map_eq_none_iff.mp commits.symm
    exact present.elim (fun nonempty => nonempty owned) fun settled => settled committed
  · intro commit isCommit
    rw [commits] at isCommit
    rcases Option.map_eq_some_iff.mp isCommit with ⟨position, committed, rfl⟩
    exact valid.commit_bounded committed
  · intro commit isCommit last isLast
    rw [commits] at isCommit
    rcases Option.map_eq_some_iff.mp isCommit with ⟨position, committed, rfl⟩
    rcases Option.map_eq_some_iff.mp isLast with ⟨tail, isTail, rfl⟩
    exact valid.owned_lt_commit (List.mem_of_getLast? isTail) committed

theorem restartStateOf_requiredImage (required : Option RestartRequiredPageImage)
    (storedPosition : Option U64) :
    (restartStateOf required storedPosition).requiredImage = required := by
  cases required <;> cases storedPosition <;> simp only [restartStateOf] <;> try split
  all_goals rfl

theorem mem_restartStateOf_storedPosition {required : Option RestartRequiredPageImage}
    {storedPosition : Option U64} {position : U64}
    (stored : position ∈ (restartStateOf required storedPosition).storedPosition) :
    position ∈ storedPosition := by
  cases required <;> cases storedPosition <;> simp only [restartStateOf] at stored <;>
    try split at stored
  all_goals first
    | exact stored
    | cases stored

theorem restartStateOf_ordered {required : Option RestartRequiredPageImage}
    {storedPosition : Option U64}
    (bounded : ∀ stored ∈ storedPosition, ∃ image, required = some image ∧
      stored ≤ image.pagePosition) :
    (restartStateOf required storedPosition).Ordered := by
  cases storedPosition with
  | none => cases required <;> trivial
  | some stored =>
      rcases bounded stored rfl with ⟨image, rfl, below⟩
      simp only [restartStateOf]
      split
      · rename_i current
        exact current
      · rename_i apart
        exact lt_of_le_of_ne below apart

theorem ValidPrefix.imageCanonical (valid : ValidPrefix lineage records)
    {transactions : List RestartCheckpointBaselineEntry}
    (table : Describes RestartCheckpointBaselineEntry.transaction
      (fun transaction => (transactionEntry records transaction).map RestartEntry.lower)
      transactions)
    {record : DurableTransactionRestartObservation width} (among : record ∈ records)
    {image : DurablePageWalObservation width × RestartRequiredPageImage}
    (counts : requirement records record = some image) :
    ImageCanonical ((lastPosition records).map (·.get)) transactions image.2 := by
  cases record with
  | page page =>
      cases counts
      exact valid.bounded among
  | transactionPage owned =>
      rcases Option.map_eq_some_iff.mp counts with ⟨committed, isCommitted, rfl⟩
      have owns : owned.position ∈ ownedPositions records owned.owner :=
        mem_ownedPositions.mpr ⟨owned, among, rfl, rfl⟩
      rcases valid.owned_in_range owns with ⟨first, last, isFirst, isLast, above, below⟩
      have row : (transactionEntry records owned.owner).map RestartEntry.lower =
          some (entryOf records owned.owner).lower := by
        rw [transactionEntry_of_owner among rfl]
        rfl
      refine ⟨valid.owned_bounded owns, valid.commit_bounded isCommitted,
        (entryOf records owned.owner).lower, (table.found _).mpr row, rfl, ?_, ?_,
        valid.owned_lt_commit owns isCommitted⟩
      · have lowered :=
          RestartState.lower_commitPosition (transactionState records owned.owner)
        rw [commitPosition_transactionState, isCommitted] at lowered
        exact lowered
      · exact ⟨first.get, congrArg (Option.map LogSequenceNumber.get) isFirst, last.get,
          congrArg (Option.map LogSequenceNumber.get) isLast, above, below⟩
  | commit commit => cases counts

theorem ValidPrefix.pageCanonical (valid : ValidPrefix lineage records)
    {transactions : List RestartCheckpointBaselineEntry}
    (table : Describes RestartCheckpointBaselineEntry.transaction
      (fun transaction => (transactionEntry records transaction).map RestartEntry.lower)
      transactions)
    {pageNumber : PageNumber} {snapshot : Option (StoredPageSnapshotObservation width)}
    (shows : StoreShows records records pageNumber snapshot) :
    PageCanonical ((lastPosition records).map (·.get)) transactions
      ⟨pageNumber, restartStateOf (requiredImage records records pageNumber)
        (snapshot.map (·.requiredPosition.get))⟩ := by
  have counting : ∀ image ∈ requirements records records pageNumber,
      ImageCanonical ((lastPosition records).map (·.get)) transactions image.2 := by
    intro image among
    rcases (mem_requirements.mp among).1 with ⟨record, isRecord, counts⟩
    exact valid.imageCanonical table isRecord counts
  refine ⟨?_, ?_, restartStateOf_ordered ?_⟩
  · intro required isRequired
    rw [restartStateOf_requiredImage] at isRequired
    rcases Option.map_eq_some_iff.mp isRequired with ⟨image, isLast, rfl⟩
    exact counting image (List.mem_of_getLast? isLast)
  · intro stored isStored
    rcases Option.map_eq_some_iff.mp (mem_restartStateOf_storedPosition isStored) with
      ⟨snapshot, isSnapshot, rfl⟩
    rcases shows snapshot isSnapshot with ⟨image, among, same⟩
    rcases (mem_requirements.mp among).1 with ⟨record, isRecord, counts⟩
    have bounded := valid.bounded isRecord
    rw [← (requirement_position counts).1, same] at bounded
    exact bounded
  · intro stored isStored
    rcases Option.map_eq_some_iff.mp isStored with ⟨snapshot, isSnapshot, rfl⟩
    exact (shows snapshot isSnapshot).le_required valid

theorem PagesOf.numbers {numbers : List PageNumber} {pages : List RestartPageEntry}
    {observePage : ObservePage width StoreError}
    (isPages : PagesOf records records observePage numbers pages) :
    pages.map (·.pageNumber) = numbers := by
  induction isPages with
  | nil => rfl
  | cons here _ induction =>
      rcases here with ⟨_, _, _, rfl⟩
      rw [List.map_cons, induction]

theorem PagesOf.row {numbers : List PageNumber} {pages : List RestartPageEntry}
    {observePage : ObservePage width StoreError}
    (isPages : PagesOf records records observePage numbers pages)
    {entry : RestartPageEntry} (among : entry ∈ pages) :
    ∃ snapshot, observePage entry.pageNumber = .ok snapshot ∧
      StoreShows records records entry.pageNumber snapshot ∧
      entry = ⟨entry.pageNumber,
        restartStateOf (requiredImage records records entry.pageNumber)
        (snapshot.map (·.requiredPosition.get))⟩ := by
  induction isPages with
  | nil => cases among
  | cons here _ induction =>
      rcases List.mem_cons.mp among with rfl | later
      · rcases here with ⟨snapshot, observed, shows, rfl⟩
        exact ⟨snapshot, observed, shows, rfl⟩
      · exact induction later

theorem RestartEntry.lower_need (entry : RestartEntry) :
    entry.lower.need = entry.need := by
  rcases entry with ⟨transaction, first, last, count, state⟩
  cases state <;> cases first <;> rfl

/-- A derived checkpoint is canonical for metadata of its own log. -/
theorem CheckpointOf.canonical {observePage : ObservePage width StoreError}
    {baseline : RestartCheckpointCompletenessBaseline}
    (checkpoint : CheckpointOf lineage records observePage baseline)
    (allocated : ∀ entry ∈ baseline.transactionBaseline.transactions,
      entry.transaction.epoch.get ≤ metadata.allocatedEpochHighWater.get)
    (anchor : metadata.selectedCheckpointAnchor =
      some (selectedRestartCheckpointAnchor baseline)) :
    CanonicalCheckpoint lineage metadata baseline := by
  rcases checkpoint with
    ⟨persistent, frontier, table, analysis, analyzed, samePages, sameStart⟩
  rcases analyzeRestartCompletenessEvidence_ok_iff.mp analyzed with
    ⟨valid, _, _, _, analysisTable, isPages, isStart⟩
  refine ⟨persistent, ?_, ⟨table.increasing, ?_, ?_, ?_⟩, ?_, anchor⟩
  · intro zero
    rw [frontier] at zero
    rcases Option.map_eq_some_iff.mp zero with ⟨position, isLast, isZero⟩
    rcases Option.map_eq_some_iff.mp isLast with ⟨record, _, rfl⟩
    exact record.position_ne_zero isZero
  · intro entry among
    rcases Option.map_eq_some_iff.mp ((table.found entry).mp among) with
      ⟨row, isRow, lowered⟩
    rcases transactionEntry_eq_some.mp isRow with ⟨present, rfl⟩
    have allocatedHere := allocated entry among
    rw [frontier, ← lowered]
    exact valid.entryCanonical allocatedHere present
  · have increasing : (restartPageNumbers [] records).Pairwise fun earlier later =>
        earlier.get < later.get := restartPageNumbers_increasing []
    rw [← isPages.numbers, List.pairwise_map] at increasing
    rw [samePages]
    exact increasing
  · intro entry among
    rcases isPages.row (samePages ▸ among) with ⟨snapshot, _, shows, isEntry⟩
    rw [frontier, isEntry]
    exact valid.pageCanonical table shows
  · have lowered : Describes RestartCheckpointBaselineEntry.transaction
        (fun transaction => (transactionEntry records transaction).map RestartEntry.lower)
        (analysis.transactionAnalysis.transactions.map RestartEntry.lower) :=
      analysisTable.map fun _ => rfl
    have sameNeeds :
        baseline.needs = analysis.transactionAnalysis.needs analysis.pages := by
      rw [RestartCheckpointCompletenessBaseline.needs, table.unique lowered, samePages,
        List.filterMap_map]
      exact congrArg (· ++ _) (List.filterMap_congr fun entry _ => entry.lower_need)
    rw [sameStart, isStart, frontier, sameNeeds]

/-- Derived checkpoints are accepted from their own fields by metadata of their
log, and exactly canonical checkpoints are accepted. -/
theorem anchored_checkpoints_materialize_exactly
    {durableFrontier : Option LogSequenceNumber}
    {observePage : ObservePage width StoreError} {analysis : RestartCompletenessAnalysis}
    {derived : RestartCheckpointCompletenessBaseline}
    (analyzed : analyzeRestartCompletenessEvidence lineage durableFrontier records
      observePage = .ok analysis)
    (prepared : prepareRestartCheckpointCompletenessBaseline analysis = .ok derived) :
    (∀ metadata : RestartWalReclamationSourceObservation,
      materializeAnchoredRestartCheckpoint lineage metadata derived.observe =
        .ok derived ↔
        metadata.selectedCheckpointAnchor =
          some (selectedRestartCheckpointAnchor derived) ∧
          ∀ entry ∈ derived.transactionBaseline.transactions,
            entry.transaction.epoch.get ≤ metadata.allocatedEpochHighWater.get) ∧
      ∀ (own : LogLineage) (metadata : RestartWalReclamationSourceObservation)
        (observation : RestartCheckpointCompletenessBaselineObservation)
        (baseline : RestartCheckpointCompletenessBaseline),
        materializeAnchoredRestartCheckpoint own metadata observation = .ok baseline ↔
          baseline.observe = observation ∧ CanonicalCheckpoint own metadata baseline := by
  refine ⟨fun metadata => ?_, fun own metadata observation baseline =>
    materializeAnchoredRestartCheckpoint_ok_iff⟩
  rcases analyzeRestartCompletenessEvidence_ok_iff.mp analyzed with ⟨_, rfl, _⟩
  have checkpoint := checkpointOf_iff.mp ⟨analysis, analyzed, prepared⟩
  rw [materializeAnchoredRestartCheckpoint_ok_iff, and_iff_right rfl]
  constructor
  · intro canonical
    exact ⟨canonical.anchor, fun entry among =>
      (canonical.rows.entries entry among).allocated⟩
  · intro holds
    exact checkpoint.canonical holds.2 holds.1

end Derived

section Example

def materializedLineage : LogLineage := .persistent .min

def materializedTransaction : DurableTransactionIdentityObservation := ⟨.min, .min⟩

def materializedRecords : List (DurableTransactionRestartObservation 1) :=
  [.transactionPage ⟨materializedTransaction,
      ⟨.min, ⟨0⟩, Bytes.singleton 8, ⟨materializedLineage, 1⟩, u64_one_ne_zero⟩⟩,
    .commit ⟨materializedTransaction, ⟨materializedLineage, 2⟩, u64_two_ne_zero⟩]

def materializedStore : ObservePage 1 Unit := fun _ => .ok none

def materializedAnalysis : RestartCompletenessAnalysis where
  transactionAnalysis := ⟨materializedLineage, some ⟨materializedLineage, 2⟩,
    [⟨materializedTransaction, some ⟨materializedLineage, 1⟩,
      some ⟨materializedLineage, 1⟩, 1, .committed ⟨materializedLineage, 2⟩⟩]⟩
  pages := [⟨.min, .storeMissing (.committedTransaction materializedTransaction 1 2)⟩]
  replayStart := .atPosition 1 (.storeMissing .min)

def materializedBaseline : RestartCheckpointCompletenessBaseline where
  transactionBaseline := ⟨.min, some 2,
    [⟨materializedTransaction, some 1, some 1, 1, .committed 2⟩]⟩
  pages := [⟨.min, .storeMissing (.committedTransaction materializedTransaction 1 2)⟩]
  replayStart := .atPosition 1 (.storeMissing .min)

def materializedMetadata : RestartWalReclamationSourceObservation where
  lineage := materializedLineage
  physicalFormatVersion := 4
  sourceGeneration := 1
  retainedFirstLogicalRecord := some ⟨materializedLineage, 1⟩
  logicalPositionHighWater := some ⟨materializedLineage, 2⟩
  allocatedEpochHighWater := .min
  selectedCheckpointAnchor := some (selectedRestartCheckpointAnchor materializedBaseline)

theorem missing_page_checkpoint_materializes :
    materializeAnchoredRestartCheckpoint materializedLineage materializedMetadata
      materializedBaseline.observe = .ok materializedBaseline := by
  have analyzed : analyzeRestartCompletenessEvidence materializedLineage
      (some ⟨materializedLineage, 2⟩) materializedRecords materializedStore =
        .ok materializedAnalysis := by
    decide +kernel
  have prepared : prepareRestartCheckpointCompletenessBaseline materializedAnalysis =
      .ok materializedBaseline := by
    decide +kernel
  refine ((anchored_checkpoints_materialize_exactly analyzed prepared).1
    materializedMetadata).mpr ⟨rfl, ?_⟩
  intro entry among
  rw [List.mem_singleton.mp among]
  exact le_rfl

end Example

end Ntsql.Transaction
