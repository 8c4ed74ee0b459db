import Ntsql.Transaction.CheckpointRepair
import Ntsql.Transaction.MaterializationExact

/-! # The replay window misses nothing

The window starts no later than the first page of any transaction open at the
checkpoint and than any image the store lacked there. So the records before it
count for the checkpoint as they count for the whole prefix. -/

namespace Ntsql.Transaction

open SortedTable

variable {width : Nat} {StoreError : Type} {lineage : LogLineage}
  {records selected before window : List (DurableTransactionRestartObservation width)}
  {observePage : ObservePage width StoreError}
  {baseline : RestartCheckpointCompletenessBaseline}

/-! ## Growth of the images that count -/

theorem ValidPrefix.commitPosition_of_selected (valid : ValidPrefix lineage records)
    (selects : selected <+: records) {transaction : DurableTransactionIdentityObservation}
    {position : LogSequenceNumber}
    (committed : commitPosition selected transaction = some position) :
    commitPosition records transaction = some position := by
  rcases selects with ⟨rest, rfl⟩
  rw [commitPosition_append, committed]
  rfl

theorem ValidPrefix.requirement_of_selected (valid : ValidPrefix lineage records)
    (selects : selected <+: records) {record : DurableTransactionRestartObservation width}
    {image : DurablePageWalObservation width × RestartRequiredPageImage}
    (counts : requirement selected record = some image) :
      requirement records record = some image := by
  cases record with
  | page page => exact counts
  | transactionPage owned =>
      rcases Option.map_eq_some_iff.mp counts with ⟨committed, isCommitted, rfl⟩
      rw [requirement, valid.commitPosition_of_selected selects isCommitted]
      rfl
  | commit commit => cases counts

/-! ## The window -/

/-- The window holds all that replay has to look at. -/
structure WindowOf
    (records selected before window : List (DurableTransactionRestartObservation width))
    (baseline : RestartCheckpointCompletenessBaseline) : Prop where
  split : records = before ++ window
  within : ∀ record ∈ before, record ∈ selected
  settled : ∀ record ∈ before, requirement records record = requirement selected record
  dirty : ∀ entry ∈ baseline.pages, ∀ required ∈ entry.state.dirtyImage,
    ∃ record ∈ window, record.position.get = required.pagePosition

/-- A record before every need belongs to a transaction settled at the checkpoint. -/
theorem settled_of_below (selects : selected <+: records)
    (valid : ValidPrefix lineage records) {transactions : List RestartEntry}
    (table : TableOf selected transactions)
    {record : DurableTransactionRestartObservation width} (among : record ∈ selected)
    (below : ∀ need ∈ transactions.filterMap (·.need), record.position.get < need.1) :
    requirement records record = requirement selected record := by
  cases record with
  | page page => rfl
  | commit commit => rfl
  | transactionPage owned =>
      cases committed : commitPosition selected owned.owner with
      | some position =>
          rw [requirement, requirement, committed,
            valid.commitPosition_of_selected selects committed]
      | none =>
          have validSelected := valid.of_prefix selects
          have owns : owned.position ∈ ownedPositions selected owned.owner :=
            mem_ownedPositions.mpr ⟨owned, among, rfl, rfl⟩
          rcases validSelected.owned_in_range owns with
            ⟨first, last, isFirst, _, above, _⟩
          have isRow := (table.found (entryOf selected owned.owner)).mpr
            (transactionEntry_of_owner among rfl)
          have needs : (entryOf selected owned.owner).need =
              some (first.get, .uncommittedTransaction owned.owner) := by
            rw [RestartEntry.need, entryOf, transactionState, committed, isFirst]
            rfl
          have later := below _ (List.mem_filterMap.mpr ⟨_, isRow, needs⟩)
          exact absurd above (not_le.mpr later)

theorem RestartPageEntry.need_of_dirty {entry : RestartPageEntry}
    {required : RestartRequiredPageImage} (dirty : required ∈ entry.state.dirtyImage) :
    ∃ cause, entry.need = some (required.pagePosition, cause) := by
  rcases entry with ⟨pageNumber, state⟩
  cases state <;> cases dirty
  · exact ⟨_, rfl⟩
  · exact ⟨_, rfl⟩

theorem PagesOf.required_record {numbers : List PageNumber}
    {pages : List RestartPageEntry}
    (isPages : PagesOf selected selected observePage numbers pages)
    {entry : RestartPageEntry} (among : entry ∈ pages)
    {required : RestartRequiredPageImage}
    (requires : entry.state.requiredImage = some required) :
    ∃ record ∈ selected, ∃ page, requirement selected record = some (page, required) ∧
      page.pageNumber = entry.pageNumber ∧
        record.position.get = required.pagePosition := by
  rcases isPages.row among with ⟨snapshot, _, _, isEntry⟩
  rw [isEntry, restartStateOf_requiredImage] at requires
  rcases Option.map_eq_some_iff.mp requires with ⟨image, isLast, rfl⟩
  rcases mem_requirements.mp (List.mem_of_getLast? isLast) with
    ⟨⟨record, isRecord, counts⟩, number⟩
  exact ⟨record, isRecord, image.1, counts, number, (requirement_position counts).2.symm⟩

theorem RestartPageState.requiredImage_of_dirty {state : RestartPageState}
    {required : RestartRequiredPageImage} (dirty : required ∈ state.dirtyImage) :
    state.requiredImage = some required := by
  cases state <;> cases dirty <;> rfl

theorem need_at_record {transactions : List RestartEntry}
    (table : TableOf selected transactions) {numbers : List PageNumber}
    {pages : List RestartPageEntry}
    (isPages : PagesOf selected selected observePage numbers pages) {need : ReplayNeed}
    (needed : need ∈ transactions.filterMap (·.need) ++ pages.filterMap (·.need)) :
    ∃ record ∈ selected, record.position.get = need.1 := by
  rcases List.mem_append.mp needed with ofTransaction | ofPage
  · rcases List.mem_filterMap.mp ofTransaction with ⟨entry, among, needs⟩
    rcases transactionEntry_eq_some.mp ((table.found entry).mp among) with ⟨_, isEntry⟩
    rw [isEntry, RestartEntry.need, entryOf] at needs
    cases state : transactionState selected entry.transaction with
    | committed position => simp [state] at needs
    | uncommitted =>
        simp only [state] at needs
        rcases Option.map_eq_some_iff.mp needs with ⟨first, isFirst, rfl⟩
        rcases mem_ownedPositions.mp (List.mem_of_mem_head? isFirst) with
          ⟨page, isPage, _, rfl⟩
        exact ⟨_, isPage, rfl⟩
  · rcases List.mem_filterMap.mp ofPage with ⟨entry, among, needs⟩
    have dirty : ∃ required ∈ entry.state.dirtyImage, need.1 = required.pagePosition := by
      rcases entry with ⟨pageNumber, state⟩
      cases state <;> cases needs
      · exact ⟨_, rfl, rfl⟩
      · exact ⟨_, rfl, rfl⟩
    rcases dirty with ⟨required, isDirty, here⟩
    rcases isPages.required_record among
      (RestartPageState.requiredImage_of_dirty isDirty) with
      ⟨record, isRecord, _, _, _, position⟩
    exact ⟨record, isRecord, by rw [here, position]⟩

theorem ValidPrefix.mem_selected_of_le (valid : ValidPrefix lineage records)
    (selects : selected <+: records)
    {record other : DurableTransactionRestartObservation width}
    (among : record ∈ selected) (isOther : other ∈ records)
    (below : other.position.get ≤ record.position.get) : other ∈ selected := by
  rcases selects with ⟨rest, rfl⟩
  rcases List.mem_append.mp isOther with here | later
  · exact here
  · have after := (List.pairwise_append.mp valid.ordered).2.2 record among other later
    exact absurd below (not_le.mpr after)

theorem selectReplayWindow_after
    {rest : List (DurableTransactionRestartObservation width)}
    (valid : ValidPrefix lineage (selected ++ rest)) :
    selectRestartCheckpointReplayWindow (selected ++ rest)
      (.afterFrontier ((lastPosition selected).map (·.get))) = .ok rest := by
  cases last : selected.getLast? with
  | none =>
      rw [List.getLast?_eq_none_iff.mp last]
      rfl
  | some record =>
      rcases List.getLast?_eq_some_iff.mp last with ⟨front, rfl⟩
      have found : recordIndex (front ++ [record] ++ rest) record.position.get =
          some front.length :=
        (recordIndex_eq_some_iff valid).mpr ⟨front, record, rest, by simp, rfl, rfl⟩
      have room : front.length < u64Max := by
        have bound := valid.length_le
        simp only [List.length_append, List.length_cons, List.length_nil] at bound
        omega
      have counted : checkedCount front.length = some (front.length + 1) :=
        checkedCount_eq_some.mpr ⟨room, rfl⟩
      rw [lastPosition, last, Option.map_some, Option.map_some,
        selectRestartCheckpointReplayWindow, found, okOr, Except.ok_bind, counted, okOr,
        Except.ok_bind]
      have dropped : (front ++ [record] ++ rest).drop (front.length + 1) = rest :=
        List.drop_left' (by simp)
      exact congrArg Except.ok dropped

theorem selectReplayWindow_windowOf (valid : ValidPrefix lineage records)
    (selects : selected <+: records)
    (checkpoint : CheckpointOf lineage selected observePage baseline) :
    ∃ before window, selectRestartCheckpointReplayWindow records baseline.replayStart =
      .ok window ∧
      WindowOf records selected before window baseline := by
  rcases checkpoint.complete with ⟨analysis, analyzed, samePages, sameStart⟩
  rcases analyzeRestartCompletenessEvidence_ok_iff.mp analyzed with
    ⟨_, _, _, _, table, isPages, isStart⟩
  rw [RestartAnalysis.needs] at isStart
  cases lowered :
    lowestNeed (analysis.transactionAnalysis.transactions.filterMap (·.need) ++
      analysis.pages.filterMap (·.need)) with
  | none =>
      have nothing := lowestNeed_eq_none.mp lowered
      rcases List.append_eq_nil_iff.mp nothing with ⟨noTransaction, noPage⟩
      rcases selects with ⟨rest, rfl⟩
      have selects : selected <+: selected ++ rest := ⟨rest, rfl⟩
      refine ⟨selected, rest, ?_, rfl, fun _ among => among, ?_, ?_⟩
      · rw [sameStart, isStart, lowered, replayStartOf]
        exact selectReplayWindow_after valid
      · intro record among
        refine settled_of_below selects valid table among ?_
        rw [noTransaction]
        simp
      · intro entry among required dirty
        rcases RestartPageEntry.need_of_dirty dirty with ⟨cause, needs⟩
        have needed := List.mem_filterMap.mpr ⟨entry, samePages ▸ among, needs⟩
        rw [noPage] at needed
        cases needed
  | some need =>
      have lowest := lowestNeed_isLowest lowered
      rcases need_at_record table isPages lowest.among with ⟨record, isRecord, here⟩
      have among := selects.subset isRecord
      rcases List.append_of_mem among with ⟨below, above, split⟩
      have validSplit : ValidPrefix lineage (below ++ record :: above) := split ▸ valid
      have isBelow : ∀ other ∈ below, other.position.get < need.1 := by
        intro other isOther
        rw [← here]
        exact (List.pairwise_append.mp validSplit.ordered).2.2 other isOther record
          List.mem_cons_self
      have inSelected : ∀ other ∈ below, other ∈ selected := by
        intro other isOther
        refine valid.mem_selected_of_le selects isRecord ?_ ?_
        · rw [split]
          exact List.mem_append_left _ isOther
        · rw [here]
          exact (isBelow other isOther).le
      refine ⟨below, record :: above, ?_, split, inSelected, ?_, ?_⟩
      · have found : recordIndex records need.1 = some below.length :=
          (recordIndex_eq_some_iff valid).mpr ⟨below, record, above, split, rfl, here⟩
        rw [sameStart, isStart, lowered, replayStartOf,
          selectRestartCheckpointReplayWindow, found]
        have dropped : records.drop below.length = record :: above := by
          rw [split]
          exact List.drop_left
        exact congrArg Except.ok dropped
      · intro other isOther
        refine settled_of_below selects valid table (inSelected other isOther) ?_
        intro otherNeed needed
        exact (isBelow other isOther).trans_le
          (lowest.lowest otherNeed (List.mem_append_left _ needed))
      · intro entry isEntry required dirty
        rw [samePages] at isEntry
        rcases RestartPageEntry.need_of_dirty dirty with ⟨cause, needs⟩
        have least : need.1 ≤ required.pagePosition := lowest.lowest _
          (List.mem_append_right _ (List.mem_filterMap.mpr ⟨entry, isEntry, needs⟩))
        rcases isPages.required_record isEntry
          (RestartPageState.requiredImage_of_dirty dirty) with
          ⟨other, isOther, _, _, _, position⟩
        have inRecords := selects.subset isOther
        rw [split] at inRecords
        rcases List.mem_append.mp inRecords with early | late
        · have before := isBelow other early
          rw [position] at before
          exact absurd least (not_le.mpr before)
        · exact ⟨other, late, position⟩

end Ntsql.Transaction
