import Ntsql.Transaction.PrefixGrowth
import Ntsql.Transaction.WalReclamation

/-! # Planning replay from a retained suffix

A pruned log holds only the last records of the prefix. The transaction table is
seeded with the checkpoint's and extended by the records after its frontier. -/

namespace Ntsql.Transaction

open OrderedScan SortedTable

variable {width : Nat}

/-! ## The replay window -/

inductive RestartCheckpointReplayWindowError where
  | inclusiveStartNotRecordBoundary (position : U64)
  | checkpointFrontierNotRecordBoundary (frontier : U64)
deriving DecidableEq

def selectRestartCheckpointReplayWindow
    (observations : List (DurableTransactionRestartObservation width)) :
    RestartReplayStart →
      Except RestartCheckpointReplayWindowError
        (List (DurableTransactionRestartObservation width))
  | .atPosition position _ => do
      let index ← okOr (recordIndex observations position)
        (.inclusiveStartNotRecordBoundary position)
      return observations.drop index
  | .afterFrontier none => return observations
  | .afterFrontier (some frontier) => do
      let index ← okOr (recordIndex observations frontier)
        (.checkpointFrontierNotRecordBoundary frontier)
      let startIndex ← okOr (checkedCount index)
        (.checkpointFrontierNotRecordBoundary frontier)
      return observations.drop startIndex

structure MaterializedRestartCheckpointReplay (width : Nat) where
  currentAnalysis : RestartAnalysis
  replayObservations : List (DurableTransactionRestartObservation width)
  retainedObservations : List (DurableTransactionRestartObservation width)
deriving DecidableEq

/-! ## Seeding the transaction table -/

inductive RestartRetainedSuffixEvidenceError where
  | ownedPageCountWidthExceeded (transaction : DurableTransactionIdentityObservation)
      (recordCount : U64)
  | retainedBoundaryMissing (recordCount : Nat)
  | retainedBoundaryWithoutObservations (retainedFirst : U64)
  | retainedFirstMismatch (expected actual : U64)
  | logicalHighWaterMissing (recordCount : Nat)
  | retainedTailMismatch (expected actual : U64)
  | foreignRecordLineage (index : Nat) (kind : RestartObservationKind)
      (position : LogSequenceNumber)
  | zeroRecordPosition (index : Nat) (kind : RestartObservationKind)
  | allocatorHighWaterBelowTransaction
      (transaction : DurableTransactionIdentityObservation)
      (allocatedEpochHighWater : U64)
  | duplicateRecordPosition (previousIndex actualIndex : Nat) (position : U64)
  | nonAdvancingRecordPosition (previousIndex : Nat) (previous : U64) (actualIndex : Nat)
      (actual : U64)
  | checkpointFrontierNotRetained (checkpointFrontier : U64)
  | checkpointTransactionPageMismatch
      (transaction : DurableTransactionIdentityObservation) (pagePosition : U64)
  | checkpointCommitMismatch (transaction : DurableTransactionIdentityObservation)
      (commitPosition : U64)
  | pageAfterCommit (transaction : DurableTransactionIdentityObservation)
      (commitPosition pagePosition : U64)
  | ownedPageCountExhausted (transaction : DurableTransactionIdentityObservation)
  | duplicateCommit (transaction : DurableTransactionIdentityObservation)
      (firstCommitPosition duplicateCommitPosition : U64)
  | replayWindow (source : RestartCheckpointReplayWindowError)
deriving DecidableEq

/-- `usize::try_from(count)` on a 64-bit target. -/
def tryUsize (count : U64) : Option Nat :=
  if count.val ≤ u64Max then some count.val else none

def RestartCheckpointBaselineState.seed (lineage : LogLineage) :
    RestartCheckpointBaselineState → RestartState
  | .uncommitted => .uncommitted
  | .committed commitPosition => .committed (lineage.position commitPosition)

def seedEntry (lineage : LogLineage) (entry : RestartCheckpointBaselineEntry) :
    Except RestartRetainedSuffixEvidenceError RestartEntry := do
  let ownedPageRecordCount ← okOr (tryUsize entry.ownedPageRecordCount)
    (.ownedPageCountWidthExceeded entry.transaction entry.ownedPageRecordCount)
  return {
    transaction := entry.transaction
    firstOwnedPagePosition := entry.firstOwnedPagePosition.map lineage.position
    lastOwnedPagePosition := entry.lastOwnedPagePosition.map lineage.position
    ownedPageRecordCount
    state := entry.state.seed lineage }

def seedAnchoredRestartTransactionAnalysis (lineage : LogLineage)
    (logicalHighWater : Option LogSequenceNumber)
    (baseline : RestartCheckpointCompletenessBaseline) :
    Except RestartRetainedSuffixEvidenceError RestartAnalysis := do
  let transactions ← baseline.transactionBaseline.transactions.mapM (seedEntry lineage)
  return ⟨lineage, logicalHighWater, transactions⟩

/-! ## The order of the suffix -/

def requireRetainedFirst (retainedFirst : Option U64)
    (observations : List (DurableTransactionRestartObservation width)) :
    Except RestartRetainedSuffixEvidenceError Unit :=
  match retainedFirst, observations.head? with
  | none, some _ => throw (.retainedBoundaryMissing observations.length)
  | some retainedFirst, none => throw (.retainedBoundaryWithoutObservations retainedFirst)
  | some expected, some first =>
      rejectIf (first.position.get ≠ expected)
        (.retainedFirstMismatch expected first.position.get)
  | none, none => return ()

def requireRetainedTail (highWater : Option U64)
    (observations : List (DurableTransactionRestartObservation width)) :
    Except RestartRetainedSuffixEvidenceError Unit :=
  match highWater, observations.getLast? with
  | none, some _ => throw (.logicalHighWaterMissing observations.length)
  | some expected, some tail =>
      rejectIf (tail.position.get ≠ expected)
        (.retainedTailMismatch expected tail.position.get)
  | _, none => return ()

def checkRetainedOrder (lineage : LogLineage) (allocatedEpochHighWater : NonZeroU64) :
    Option (DurableTransactionRestartObservation width × Nat) × Unit →
      DurableTransactionRestartObservation width × Nat →
        Except RestartRetainedSuffixEvidenceError
          (Option (DurableTransactionRestartObservation width × Nat) × Unit)
  | (previous, _), (observation, index) => do
      let position := observation.position
      rejectIf (lineage ≠ position.lineage)
        (.foreignRecordLineage index observation.kind position)
      rejectIf (position.get = 0) (.zeroRecordPosition index observation.kind)
      forM observation.owner.toList fun transaction =>
        rejectIf (allocatedEpochHighWater.get < transaction.epoch.get)
          (.allocatorHighWaterBelowTransaction transaction allocatedEpochHighWater.get)
      requireAfter (fun item => item.1.position.get) previous (observation, index)
        (fun previous => .duplicateRecordPosition previous.2 index position.get)
        (fun previous =>
          .nonAdvancingRecordPosition previous.2 previous.1.position.get index
            position.get)
      return (some (observation, index), ())

def validateRetainedRestartSuffixOrder (lineage : LogLineage)
    (metadata : RestartWalReclamationSourceObservation)
    (observations : List (DurableTransactionRestartObservation width))
    (checkpointFrontier : Option U64) :
      Except RestartRetainedSuffixEvidenceError Unit := do
  requireRetainedFirst (metadata.retainedFirstLogicalRecord.map (·.get)) observations
  requireRetainedTail (metadata.logicalPositionHighWater.map (·.get)) observations
  scan (checkRetainedOrder lineage metadata.allocatedEpochHighWater) ()
    observations.zipIdx
  forM checkpointFrontier.toList fun checkpointFrontier =>
    rejectIf (search (fun observation => observation.position.get) checkpointFrontier
        observations = none)
      (.checkpointFrontierNotRetained checkpointFrontier)

/-! ## Applying the suffix -/

def validateRetainedCheckpointTransactionPage (transactions : List RestartEntry)
    (transaction : DurableTransactionIdentityObservation) (pagePosition : U64) :
    Except RestartRetainedSuffixEvidenceError Unit := do
  let mismatch := .checkpointTransactionPageMismatch transaction pagePosition
  let entry ← okOr (search RestartEntry.transaction transaction transactions) mismatch
  match entry.firstOwnedPagePosition, entry.lastOwnedPagePosition with
  | some first, some last =>
      rejectIf (¬(first.get ≤ pagePosition ∧ pagePosition ≤ last.get)) mismatch
  | _, _ => throw mismatch

def validateRetainedCheckpointCommit (transactions : List RestartEntry)
    (transaction : DurableTransactionIdentityObservation) (commitPosition : U64) :
    Except RestartRetainedSuffixEvidenceError Unit :=
  let recorded := (search RestartEntry.transaction transaction transactions).bind
    (·.state.commitPosition)
  rejectIf (recorded.map (·.get) ≠ some commitPosition)
    (.checkpointCommitMismatch transaction commitPosition)

/-- A record up to the checkpoint frontier is compared with the table. -/
def validateRetainedRecord (transactions : List RestartEntry) :
    DurableTransactionRestartObservation width →
      Except RestartRetainedSuffixEvidenceError Unit
  | .page _ => return ()
  | .transactionPage observation =>
      validateRetainedCheckpointTransactionPage transactions observation.owner
        observation.position.get
  | .commit observation =>
      validateRetainedCheckpointCommit transactions observation.transaction
        observation.position.get

/-- A record after the checkpoint frontier extends the table. -/
def extendRetained : List RestartEntry → DurableTransactionRestartObservation width →
    Except RestartRetainedSuffixEvidenceError (List RestartEntry) :=
  extendTable
    (fun observation commitPosition =>
      .pageAfterCommit observation.owner commitPosition.get observation.position.get)
    (fun observation => .ownedPageCountExhausted observation.owner)
    (fun observation firstCommitPosition =>
      .duplicateCommit observation.transaction firstCommitPosition.get
        observation.position.get)

def applyRetainedRecord (checkpointFrontier : Option U64)
    (transactions : List RestartEntry)
    (observation : DurableTransactionRestartObservation width) :
    Except RestartRetainedSuffixEvidenceError (List RestartEntry) :=
  if ∀ frontier ∈ checkpointFrontier, frontier < observation.position.get then
    extendRetained transactions observation
  else do
    validateRetainedRecord transactions observation
    return transactions

def applyRetainedRestartSuffix (analysis : RestartAnalysis)
    (baseline : RestartCheckpointCompletenessBaseline)
    (observations : List (DurableTransactionRestartObservation width)) :
    Except RestartRetainedSuffixEvidenceError RestartAnalysis := do
  let transactions ← observations.foldlM
    (applyRetainedRecord baseline.transactionBaseline.durableFrontier)
      analysis.transactions
  return { analysis with transactions }

def planAnchoredRestartCheckpointReplayEvidence (lineage : LogLineage)
    (metadata : RestartWalReclamationSourceObservation)
    (observations : List (DurableTransactionRestartObservation width))
    (baseline : RestartCheckpointCompletenessBaseline) :
    Except RestartRetainedSuffixEvidenceError
      (MaterializedRestartCheckpointReplay width) := do
  validateRetainedRestartSuffixOrder lineage metadata observations
    baseline.transactionBaseline.durableFrontier
  let seeded ← seedAnchoredRestartTransactionAnalysis lineage
    metadata.logicalPositionHighWater baseline
  let currentAnalysis ← applyRetainedRestartSuffix seeded baseline observations
  let replayObservations ←
    (selectRestartCheckpointReplayWindow observations baseline.replayStart).mapError
      .replayWindow
  return ⟨currentAnalysis, replayObservations, observations⟩

/-! ## A suffix seeds and extends the same table -/

section Suffix

variable {lineage : LogLineage}
  {records selected dropped kept rest retained :
    List (DurableTransactionRestartObservation width)}
  {transactions : List RestartEntry} {transaction : DurableTransactionIdentityObservation}

theorem position_get_of_own {position : LogSequenceNumber}
    (own : position.lineage = lineage) :
    lineage.position position.get = position :=
  (LogSequenceNumber.eq_position own).symm

theorem seedEntry_lower (valid : ValidPrefix lineage records)
    (transaction : DurableTransactionIdentityObservation) :
    seedEntry lineage (entryOf records transaction).lower =
      .ok (entryOf records transaction) := by
  have count : (Fin.ofNat (2 ^ 64) (ownedPositions records transaction).length).val =
      (ownedPositions records transaction).length :=
    Nat.mod_eq_of_lt
      (((ownedPositions_length_le transaction).trans valid.length_le).trans_lt u64Max_lt)
  have fits : tryUsize (Fin.ofNat (2 ^ 64) (ownedPositions records transaction).length) =
      some (ownedPositions records transaction).length := by
    rw [tryUsize, count,
      if_pos ((ownedPositions_length_le transaction).trans valid.length_le)]
  have seeded : ∀ position : Option LogSequenceNumber,
      (∀ own ∈ position, own.lineage = lineage) →
        (position.map (·.get)).map lineage.position = position := by
    intro position own
    cases position with
    | none => rfl
    | some position => exact congrArg some (position_get_of_own (own position rfl))
  have first := seeded (ownedPositions records transaction).head? fun _ isFirst =>
    valid.owned_lineage (List.mem_of_mem_head? isFirst)
  have last := seeded (ownedPositions records transaction).getLast? fun _ isLast =>
    valid.owned_lineage (List.mem_of_getLast? isLast)
  have state : (transactionState records transaction).lower.seed lineage =
      transactionState records transaction := by
    rw [transactionState]
    cases committed : commitPosition records transaction with
    | none => rfl
    | some position =>
        exact congrArg RestartState.committed
          (position_get_of_own (valid.commit_lineage committed))
  simp only [seedEntry, RestartEntry.lower, entryOf, fits, okOr, Except.ok_bind, first,
    last, state]
  rfl

theorem seedAnchored_ok {StoreError : Type} {observePage : ObservePage width StoreError}
    {baseline : RestartCheckpointCompletenessBaseline}
    (valid : ValidPrefix lineage selected)
    (checkpoint : CheckpointOf lineage selected observePage baseline)
    (highWater : Option LogSequenceNumber) :
    ∃ transactions, TableOf selected transactions ∧
      seedAnchoredRestartTransactionAnalysis lineage highWater baseline =
        .ok ⟨lineage, highWater, transactions⟩ := by
  rcases exists_tableOf selected with ⟨transactions, table⟩
  have lowered : Describes RestartCheckpointBaselineEntry.transaction
      (fun transaction => (transactionEntry selected transaction).map RestartEntry.lower)
      (transactions.map RestartEntry.lower) := table.map fun _ => rfl
  have seeded : (transactions.map RestartEntry.lower).mapM (seedEntry lineage) =
      .ok transactions := by
    rw [Except.mapM_ok_iff, List.forall₂_map_left_iff, List.forall₂_same]
    intro entry among
    rw [(transactionEntry_eq_some.mp ((table.found entry).mp among)).2]
    exact seedEntry_lower valid entry.transaction
  refine ⟨transactions, table, ?_⟩
  rw [seedAnchoredRestartTransactionAnalysis, checkpoint.transactions.unique lowered,
    seeded]
  rfl

/-! ## The records up to the frontier agree with the table -/

theorem validateRetainedRecord_ok (valid : ValidPrefix lineage records)
    (table : TableOf records transactions)
    {record : DurableTransactionRestartObservation width}
    (among : record ∈ records) : validateRetainedRecord transactions record = .ok () := by
  have found : ∀ transaction, record.owner = some transaction →
      search RestartEntry.transaction transaction transactions =
        some (entryOf records transaction) := by
    intro transaction owner
    rw [table.search_eq]
    exact transactionEntry_of_owner among owner
  cases record with
  | page page => rfl
  | transactionPage page =>
      have position : page.position ∈ ownedPositions records page.owner :=
        mem_ownedPositions.mpr ⟨page, among, rfl, rfl⟩
      rcases valid.owned_in_range position with
        ⟨first, last, isFirst, isLast, after, before⟩
      simp only [validateRetainedRecord, validateRetainedCheckpointTransactionPage,
        found page.owner rfl, okOr, Except.ok_bind, entryOf, isFirst, isLast]
      exact (rejectIf_ok_iff _ _ _).mpr (not_not.mpr ⟨after, before⟩)
  | commit commit =>
      simp only [validateRetainedRecord, validateRetainedCheckpointCommit,
        found commit.transaction rfl, Option.bind_some, entryOf,
        commitPosition_transactionState, valid.commitPosition_eq among, rejectIf_ok_iff]
      exact not_not.mpr rfl

/-- Applying the retained records of a checkpointed prefix makes the table of the
whole. -/
theorem applyRetained_ok {frontier : Option LogSequenceNumber}
    (valid : ValidPrefix lineage (dropped ++ kept ++ rest))
    (boundary : lastPosition (dropped ++ kept) = frontier)
    (table : TableOf (dropped ++ kept) transactions) :
    ∃ next, TableOf (dropped ++ kept ++ rest) next ∧
      (kept ++ rest).foldlM (applyRetainedRecord (frontier.map (·.get))) transactions =
        .ok next := by
  have checked : kept.foldlM (applyRetainedRecord (frontier.map (·.get))) transactions =
      .ok transactions := by
    refine Except.foldlM_of_keeps fun record among => ?_
    have isSelected : record ∈ dropped ++ kept := List.mem_append_right dropped among
    cases isFrontier : frontier with
    | none =>
        rw [isFrontier, lastPosition, Option.map_eq_none_iff, List.getLast?_eq_none_iff]
          at boundary
        rw [boundary] at isSelected
        simp at isSelected
    | some last =>
        have before := valid.position_le_frontier (boundary.trans isFrontier) isSelected
        rw [applyRetainedRecord, if_neg (by simpa using before),
          validateRetainedRecord_ok valid.append_left table isSelected]
        rfl
  have extended : rest.foldlM (applyRetainedRecord (frontier.map (·.get))) transactions =
      rest.foldlM extendRetained transactions := by
    refine Except.foldlM_congr fun record among state => ?_
    refine if_pos fun value isFrontier => ?_
    rcases Option.map_eq_some_iff.mp isFrontier with ⟨last, isLast, rfl⟩
    exact valid.frontier_lt_position (boundary.trans isLast) among
  rcases exists_tableOf (dropped ++ kept ++ rest) with ⟨next, nextTable⟩
  refine ⟨next, nextTable, ?_⟩
  rw [List.foldlM_append, checked, Except.ok_bind, extended]
  exact (foldlM_extendTable_ok_iff _ _ _ rest table valid.append_left.final
    valid.length_le).mpr ⟨valid.final, nextTable⟩

/-! ## The window starts at the same record -/

theorem recordIndex_append (valid : ValidPrefix lineage (dropped ++ retained))
    {record : DurableTransactionRestartObservation width} (among : record ∈ retained) :
    ∃ index, recordIndex retained record.position.get = some index ∧
      index < retained.length ∧
      recordIndex (dropped ++ retained) record.position.get =
        some (dropped.length + index) := by
  rcases List.append_of_mem among with ⟨below, above, rfl⟩
  refine ⟨below.length, ?_, by simp, ?_⟩
  · exact (recordIndex_eq_some_iff valid.append_right).mpr
      ⟨below, record, above, rfl, rfl, rfl⟩
  · exact (recordIndex_eq_some_iff valid).mpr
      ⟨dropped ++ below, record, above, by simp, by simp, rfl⟩

/-- The position the window starts at, or after. -/
def RestartReplayStart.boundary : RestartReplayStart → Option U64
  | .atPosition position _ => some position
  | .afterFrontier frontier => frontier

theorem selectReplayWindow_append (valid : ValidPrefix lineage (dropped ++ retained))
    {replayStart : RestartReplayStart}
    (whole : replayStart.boundary = none → dropped = [])
    (retains : ∀ position ∈ replayStart.boundary,
      ∃ record ∈ retained, record.position.get = position) :
    ∃ window, selectRestartCheckpointReplayWindow (dropped ++ retained) replayStart =
      .ok window ∧
      selectRestartCheckpointReplayWindow retained replayStart = .ok window := by
  have shift : ∀ index, (dropped ++ retained).drop (dropped.length + index) =
      retained.drop index := by
    intro index
    rw [← List.drop_drop, List.drop_left]
  have counts : ∀ index, index < (dropped ++ retained).length →
      checkedCount index = some (index + 1) := by
    intro index bound
    exact checkedCount_eq_some.mpr ⟨bound.trans_le valid.length_le, rfl⟩
  cases replayStart with
  | atPosition position cause =>
      rcases retains position rfl with ⟨record, among, rfl⟩
      rcases recordIndex_append valid among with ⟨index, found, _, foundInWhole⟩
      refine ⟨retained.drop index, ?_, ?_⟩
      · rw [selectRestartCheckpointReplayWindow, foundInWhole, okOr, Except.ok_bind,
          shift]
        rfl
      · rw [selectRestartCheckpointReplayWindow, found]
        rfl
  | afterFrontier frontier =>
      cases frontier with
      | none =>
          rw [whole rfl]
          exact ⟨retained, rfl, rfl⟩
      | some frontier =>
          rcases retains frontier rfl with ⟨record, among, rfl⟩
          rcases recordIndex_append valid among with ⟨index, found, bound, foundInWhole⟩
          refine ⟨retained.drop (index + 1), ?_, ?_⟩
          · rw [selectRestartCheckpointReplayWindow, foundInWhole, okOr, Except.ok_bind,
              counts _ (by rw [List.length_append]; omega), okOr, Except.ok_bind,
              Nat.add_assoc, shift]
            rfl
          · rw [selectRestartCheckpointReplayWindow, found, okOr, Except.ok_bind,
              counts _ (by rw [List.length_append]; omega)]
            rfl

/-! ## The order checks pass -/

theorem checkRetainedOrder_accepts (lineage : LogLineage)
    (allocatedEpochHighWater : NonZeroU64) :
    Accepts
      (fun item : DurableTransactionRestartObservation width × Nat =>
        item.1.position.lineage = lineage ∧ ∀ transaction ∈ item.1.owner,
          transaction.epoch.get ≤ allocatedEpochHighWater.get)
      (fun earlier later => earlier.1.position.get < later.1.position.get)
      (fun _ _ => some ()) (checkRetainedOrder lineage allocatedEpochHighWater) := by
  intro previous kept item next
  simp only [checkRetainedOrder, Except.bind_ok_iff, rejectIf_ok_iff, requireAfter_ok_iff,
    Except.forM_ok_iff, Except.pure_ok_iff, not_not, not_lt, Option.mem_toList,
    Option.mem_def]
  have nonzero := item.1.position_ne_zero
  grind

theorem validateRetainedRestartSuffixOrder_ok
    {metadata : RestartWalReclamationSourceObservation} {checkpointFrontier : Option U64}
    (valid : ValidPrefix lineage retained)
    (first : metadata.retainedFirstLogicalRecord = retained.head?.map (·.position))
    (tail : ∀ last ∈ retained.getLast?, metadata.logicalPositionHighWater =
      some last.position)
    (epochs : ∀ record ∈ retained, ∀ transaction ∈ record.owner,
      transaction.epoch.get ≤ metadata.allocatedEpochHighWater.get)
    (frontier : ∀ frontier ∈ checkpointFrontier,
      ∃ record ∈ retained, record.position.get = frontier) :
    validateRetainedRestartSuffixOrder lineage metadata retained checkpointFrontier =
      .ok () := by
  have unzipped : retained.zipIdx.map Prod.fst = retained :=
    List.zipIdx_map_fst 0 retained
  have scanned : scan (checkRetainedOrder lineage metadata.allocatedEpochHighWater) ()
      retained.zipIdx = .ok () := by
    refine (scan_ok_iff (checkRetainedOrder_accepts lineage _) _ _ _).mpr ⟨?_, ?_, ?_⟩
    · have all :
          ∀ record ∈ retained.zipIdx.map Prod.fst, record.position.lineage = lineage ∧
          ∀ transaction ∈ record.owner,
            transaction.epoch.get ≤ metadata.allocatedEpochHighWater.get := by
        rw [unzipped]
        exact fun record among => ⟨valid.own record among, epochs record among⟩
      exact List.forall_mem_map.mp all
    · have ordered := valid.ordered
      rw [← unzipped, List.pairwise_map] at ordered
      exact ordered
    · induction retained.zipIdx with
      | nil => rfl
      | cons item items induction => exact induction
  have located : forM checkpointFrontier.toList (fun frontier =>
      rejectIf (search (fun record : DurableTransactionRestartObservation width =>
          record.position.get) frontier retained = none)
        (RestartRetainedSuffixEvidenceError.checkpointFrontierNotRetained frontier)) =
          .ok () := by
    refine Except.forM_ok_iff.mpr fun value isFrontier => (rejectIf_ok_iff _ _ _).mpr ?_
    rcases frontier value (Option.mem_toList.mp isFrontier) with ⟨record, among, rfl⟩
    have increasing :
        Increasing (fun record : DurableTransactionRestartObservation width =>
        record.position.get) retained := valid.ordered
    rw [increasing.search_eq_some.mpr ⟨among, rfl⟩]
    exact Option.some_ne_none record
  have startsRight :
      requireRetainedFirst (metadata.retainedFirstLogicalRecord.map (·.get))
      retained = .ok () := by
    rw [first]
    cases head : retained.head? <;> simp [requireRetainedFirst, head]
    rfl
  have endsRight : requireRetainedTail (metadata.logicalPositionHighWater.map (·.get))
      retained = .ok () := by
    cases last : retained.getLast? with
    | none =>
        cases metadata.logicalPositionHighWater <;>
          simp [requireRetainedTail, last] <;> rfl
    | some record => simp [requireRetainedTail, last, tail record last]
  rw [validateRetainedRestartSuffixOrder, startsRight, Except.ok_bind, endsRight,
    Except.ok_bind, scanned, Except.ok_bind, located]

end Suffix

/-! ## The result -/

section Result

variable {lineage : LogLineage}
  {records retained : List (DurableTransactionRestartObservation width)}
  {StoreError : Type} {observePage : ObservePage width StoreError}
  {checkpointFrontier : Option U64} {baseline : RestartCheckpointCompletenessBaseline}

/-- What a pruned log says of itself, and the records it retains: those from the
checkpoint's frontier and its replay start on, or all. -/
structure Retains (baseline : RestartCheckpointCompletenessBaseline)
    (metadata : RestartWalReclamationSourceObservation)
    (records retained : List (DurableTransactionRestartObservation width)) : Prop where
  suffix : retained <:+ records
  whole : baseline.transactionBaseline.durableFrontier = none → retained = records
  frontier : ∀ frontier ∈ baseline.transactionBaseline.durableFrontier,
    ∃ record ∈ retained, record.position.get = frontier
  replayStart : ∀ position cause, baseline.replayStart = .atPosition position cause →
    ∃ record ∈ retained, record.position.get = position
  first : metadata.retainedFirstLogicalRecord = retained.head?.map (·.position)
  highWater : metadata.logicalPositionHighWater = lastPosition records
  epochs : ∀ record ∈ records, ∀ transaction ∈ record.owner,
    transaction.epoch.get ≤ metadata.allocatedEpochHighWater.get

theorem CheckpointOf.replayStart_boundary
    {selected : List (DurableTransactionRestartObservation width)}
    (checkpoint : CheckpointOf lineage selected observePage baseline) :
    (∃ position cause, baseline.replayStart = .atPosition position cause) ∨
      baseline.replayStart =
        .afterFrontier baseline.transactionBaseline.durableFrontier := by
  rcases checkpoint.complete with ⟨analysis, analyzed, _, isStart⟩
  have transactionsAnalyzed := analyzeRestartCompletenessEvidence_transactions analyzed
  rcases analyzeDurableTransactionRestartEvidence_ok_iff.mp transactionsAnalyzed with
    ⟨_, _, _, ownFrontier, _⟩
  simp only [analyzeRestartCompletenessEvidence,
    deriveRestartCompletenessFromAnalysisEvidence, Except.bind_ok_iff,
    Except.mapError_ok_iff, Except.pure_ok_iff] at analyzed
  rcases analyzed with ⟨_, _, floor, _, pages, _, rfl⟩
  rw [isStart]
  dsimp only at ownFrontier ⊢
  cases pages.foldl RestartPageEntry.lower floor with
  | some lowered => exact .inl ⟨lowered.1, lowered.2, rfl⟩
  | none =>
      right
      rw [replayStartOf, checkpoint.frontier, ownFrontier]

theorem Retains.exists_kept {metadata : RestartWalReclamationSourceObservation}
    {selected rest : List (DurableTransactionRestartObservation width)}
    (retains : Retains baseline metadata (selected ++ rest) retained)
    (valid : ValidPrefix lineage (selected ++ rest))
    (frontier : baseline.transactionBaseline.durableFrontier =
      (lastPosition selected).map (·.get)) :
    ∃ dropped kept, selected = dropped ++ kept ∧ retained = kept ++ rest := by
  cases boundary : lastPosition selected with
  | none =>
      have empty : selected = [] := by
        rw [lastPosition, Option.map_eq_none_iff, List.getLast?_eq_none_iff] at boundary
        exact boundary
      rw [boundary] at frontier
      rw [empty, retains.whole frontier, empty]
      exact ⟨[], [], rfl, rfl⟩
  | some last =>
      rw [boundary] at frontier
      rcases retains.frontier last.get frontier with ⟨record, among, here⟩
      rcases retains.suffix with ⟨dropped, split⟩
      rcases List.append_eq_append_iff.mp split with
        ⟨kept, isSelected, isRetained⟩ | later
      · exact ⟨dropped, kept, isSelected, isRetained⟩
      · rcases later with ⟨between, _, isRest⟩
        have after := valid.frontier_lt_position boundary
          (isRest ▸ List.mem_append_right between among)
        exact absurd here after.ne'

theorem Retains.selects {metadata : RestartWalReclamationSourceObservation}
    (retains : Retains baseline metadata records retained)
    (valid : ValidPrefix lineage records)
    (derived : deriveRestartCheckpointCompletenessBaselineEvidence lineage
      (lastPosition records) records observePage checkpointFrontier = .ok baseline) :
    ∃ window,
      selectRestartCheckpointReplayWindow records baseline.replayStart = .ok window ∧
        selectRestartCheckpointReplayWindow retained baseline.replayStart =
          .ok window := by
  rcases (deriveRestartCheckpointCompletenessBaselineEvidence_ok_iff valid).mp
    derived with ⟨selected, _, _, checkpoint⟩
  have boundary := checkpoint.replayStart_boundary
  rcases retains.suffix with ⟨dropped, rfl⟩
  refine selectReplayWindow_append valid ?_ ?_
  · intro unbounded
    rcases boundary with ⟨position, cause, start⟩ | start
    · rw [start] at unbounded
      cases unbounded
    · rw [start] at unbounded
      exact List.self_eq_append_left.mp (retains.whole unbounded)
  · intro position isBoundary
    rcases boundary with ⟨start, cause, isStart⟩ | isStart
    · rw [isStart] at isBoundary
      cases isBoundary
      exact retains.replayStart _ cause isStart
    · rw [isStart] at isBoundary
      exact retains.frontier position isBoundary

/-- The checkpoint's transactions, extended by the retained records, are those of
the complete prefix. -/
theorem Retains.materializes {metadata : RestartWalReclamationSourceObservation}
    {window : List (DurableTransactionRestartObservation width)}
    (retains : Retains baseline metadata records retained)
    (valid : ValidPrefix lineage records)
    (derived : deriveRestartCheckpointCompletenessBaselineEvidence lineage
      (lastPosition records) records observePage checkpointFrontier = .ok baseline)
    (inSuffix : selectRestartCheckpointReplayWindow retained baseline.replayStart =
      .ok window) :
    ∃ analysis,
      analyzeDurableTransactionRestartEvidence lineage (lastPosition records) records =
          .ok analysis ∧
        planAnchoredRestartCheckpointReplayEvidence lineage metadata retained baseline =
          .ok ⟨analysis, window, retained⟩ := by
  rcases (deriveRestartCheckpointCompletenessBaselineEvidence_ok_iff valid).mp
    derived with ⟨selected, ⟨rest, rfl⟩, _, checkpoint⟩
  rcases retains.exists_kept valid checkpoint.frontier with ⟨dropped, kept, rfl, rfl⟩
  have validSuffix : ValidPrefix lineage (dropped ++ (kept ++ rest)) := by
    rw [← List.append_assoc]
    exact valid
  have ordered : validateRetainedRestartSuffixOrder lineage metadata (kept ++ rest)
      baseline.transactionBaseline.durableFrontier = .ok () := by
    refine validateRetainedRestartSuffixOrder_ok validSuffix.append_right
      retains.first ?_ ?_ retains.frontier
    · intro last isLast
      rw [retains.highWater, List.append_assoc, lastPosition, List.getLast?_append,
        isLast]
      rfl
    · intro record among
      exact retains.epochs record
        (by rw [List.append_assoc]; exact List.mem_append_right _ among)
  rcases seedAnchored_ok valid.append_left checkpoint
    metadata.logicalPositionHighWater with ⟨seeded, seededTable, isSeeded⟩
  rcases applyRetained_ok valid rfl seededTable with ⟨transactions, table, applied⟩
  rw [← checkpoint.frontier] at applied
  refine ⟨⟨lineage, lastPosition (dropped ++ kept ++ rest), transactions⟩, ?_, ?_⟩
  · exact analyzeDurableTransactionRestartEvidence_ok_iff.mpr
      ⟨valid, rfl, rfl, rfl, table⟩
  · rw [planAnchoredRestartCheckpointReplayEvidence, ordered, Except.ok_bind, isSeeded,
      Except.ok_bind, applyRetainedRestartSuffix, applied, Except.ok_bind, inSuffix,
      retains.highWater]
    rfl

/-- Planning from a retained suffix gives the analysis of the complete prefix and
the window that is selected in the complete prefix. -/
theorem anchored_restart_equals_complete_restart
    {metadata : RestartWalReclamationSourceObservation}
    (valid : ValidPrefix lineage records)
    (derived : deriveRestartCheckpointCompletenessBaselineEvidence lineage
      (lastPosition records) records observePage checkpointFrontier = .ok baseline)
    (retains : Retains baseline metadata records retained) :
    ∃ analysis window,
      analyzeDurableTransactionRestartEvidence lineage (lastPosition records) records =
          .ok analysis ∧
        selectRestartCheckpointReplayWindow records baseline.replayStart = .ok window ∧
        planAnchoredRestartCheckpointReplayEvidence lineage metadata retained baseline =
          .ok ⟨analysis, window, retained⟩ := by
  rcases retains.selects valid derived with ⟨window, inWhole, inSuffix⟩
  rcases retains.materializes valid derived inSuffix with ⟨analysis, analyzed, planned⟩
  exact ⟨analysis, window, analyzed, inWhole, planned⟩

end Result

section Example

def anchoredLineage : LogLineage := .persistent .min

def settledTransaction : DurableTransactionIdentityObservation := ⟨.min, .min⟩

def openTransaction : DurableTransactionIdentityObservation :=
  ⟨.min, ⟨2, u64_two_ne_zero⟩⟩

/-- A commit, then a page of a transaction that commits after the checkpoint. -/
def anchoredRecords : List (DurableTransactionRestartObservation 1) :=
  [.commit ⟨settledTransaction, ⟨anchoredLineage, 1⟩, u64_one_ne_zero⟩,
    .transactionPage ⟨openTransaction,
      ⟨.min, ⟨0⟩, Bytes.singleton 8, ⟨anchoredLineage, 2⟩, u64_two_ne_zero⟩⟩,
    .commit ⟨openTransaction, ⟨anchoredLineage, 3⟩, by decide⟩]

def anchoredStore : ObservePage 1 Unit := fun _ => .ok none

def anchoredBaseline : RestartCheckpointCompletenessBaseline where
  transactionBaseline :=
    ⟨.min, some 2, [⟨settledTransaction, none, none, 0, .committed 1⟩,
    ⟨openTransaction, some 2, some 2, 1, .uncommitted⟩]⟩
  pages := [⟨.min, .noRequiredImage⟩]
  replayStart := .atPosition 2 (.uncommittedTransaction openTransaction)

def anchoredMetadata : RestartWalReclamationSourceObservation where
  lineage := anchoredLineage
  physicalFormatVersion := 4
  sourceGeneration := 1
  retainedFirstLogicalRecord := some ⟨anchoredLineage, 2⟩
  logicalPositionHighWater := some ⟨anchoredLineage, 3⟩
  allocatedEpochHighWater := .min
  selectedCheckpointAnchor := some (selectedRestartCheckpointAnchor anchoredBaseline)

/-- The log was pruned to the records of the open transaction. -/
theorem pruned_log_plans_like_the_whole :
    ∃ analysis window,
      analyzeDurableTransactionRestartEvidence anchoredLineage
        (lastPosition anchoredRecords) anchoredRecords = .ok analysis ∧
        selectRestartCheckpointReplayWindow anchoredRecords anchoredBaseline.replayStart =
          .ok window ∧
        planAnchoredRestartCheckpointReplayEvidence anchoredLineage anchoredMetadata
            (anchoredRecords.drop 1) anchoredBaseline =
          .ok ⟨analysis, window, anchoredRecords.drop 1⟩ := by
  have valid : ValidPrefix anchoredLineage anchoredRecords := by
    refine ⟨by decide, by decide, ?_⟩
    simp only [anchoredRecords, DurableTransactionRestartObservation.commitRecord]
    decide
  have derived : deriveRestartCheckpointCompletenessBaselineEvidence anchoredLineage
      (lastPosition anchoredRecords) anchoredRecords anchoredStore (some 2) =
        .ok anchoredBaseline := by
    decide +kernel
  have retains : Retains anchoredBaseline anchoredMetadata anchoredRecords
      (anchoredRecords.drop 1) := {
    suffix := List.drop_suffix 1 anchoredRecords
    whole := fun absent => by simp [anchoredBaseline] at absent
    frontier := fun frontier isFrontier => by
      cases isFrontier
      exact ⟨_, List.mem_cons_self, rfl⟩
    replayStart := fun position cause isStart => by
      cases isStart
      exact ⟨_, List.mem_cons_self, rfl⟩
    first := rfl
    highWater := rfl
    epochs := by decide }
  exact anchored_restart_equals_complete_restart valid derived retains

end Example

end Ntsql.Transaction
