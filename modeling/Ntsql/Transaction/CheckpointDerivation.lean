import Ntsql.Transaction.RestartCompleteness

/-! # Deriving a checkpoint baseline

A baseline is derived at a frontier from the records up to it. The frontier
names a record of the durable prefix, or nothing. -/

namespace Ntsql.Transaction

open OrderedScan SortedTable

variable {width : Nat} {StoreError : Type}

/-! ## The selected prefix -/

inductive RestartCheckpointBaselineValidationEvidenceError where
  | currentPrefix (source : RestartAnalysisEvidenceError)
  | checkpointBeyondDurableFrontier (checkpointFrontier : U64)
      (durableFrontier : Option U64)
  | checkpointFrontierNotRecordBoundary (checkpointFrontier durableFrontier : U64)
deriving DecidableEq

structure SelectedRestartCheckpointPrefix (width : Nat) where
  frontier : Option LogSequenceNumber
  observations : List (DurableTransactionRestartObservation width)
deriving DecidableEq

/-- The current frontier of a log that a checkpoint frontier is selected in. -/
def requireCurrentFrontier (lineage : LogLineage)
    (currentFrontier : Option LogSequenceNumber)
    (observations : List (DurableTransactionRestartObservation width))
    (checkpointFrontier : U64) :
    Except RestartCheckpointBaselineValidationEvidenceError U64 :=
  match currentFrontier with
  | none =>
      if observations = [] then
        throw (.checkpointBeyondDurableFrontier checkpointFrontier none)
      else
        match analyzeDurableTransactionRestartEvidence lineage none observations with
        | .error source => throw (.currentPrefix source)
        | .ok _ => throw (.checkpointBeyondDurableFrontier checkpointFrontier none)
  | some frontier => do
      rejectIf (lineage ≠ frontier.lineage) (.currentPrefix (.foreignFrontier frontier))
      rejectIf (frontier.get = 0) (.currentPrefix (.zeroFrontier frontier))
      rejectIf (observations = []) (.currentPrefix (.frontierWithoutRecords frontier))
      return frontier.get

def recordIndex (observations : List (DurableTransactionRestartObservation width))
    (position : U64) : Option Nat :=
  observations.findIdx? fun observation => observation.position.get = position

def selectRestartCheckpointPrefix (lineage : LogLineage)
    (currentFrontier : Option LogSequenceNumber)
    (observations : List (DurableTransactionRestartObservation width)) :
    Option U64 → Except RestartCheckpointBaselineValidationEvidenceError
      (SelectedRestartCheckpointPrefix width)
  | none => return ⟨none, []⟩
  | some checkpointFrontier => do
      let current ← requireCurrentFrontier lineage currentFrontier observations
        checkpointFrontier
      rejectIf (current < checkpointFrontier)
        (.checkpointBeyondDurableFrontier checkpointFrontier (some current))
      match recordIndex observations checkpointFrontier with
      | some boundaryIndex =>
          return ⟨some (lineage.position checkpointFrontier),
            observations.take (boundaryIndex + 1)⟩
      | none =>
          match analyzeDurableTransactionRestartEvidence lineage currentFrontier
            observations with
          | .ok _ =>
              throw (.checkpointFrontierNotRecordBoundary checkpointFrontier current)
          | .error source => throw (.currentPrefix source)

/-! ## The derived baseline -/

inductive RestartCheckpointCompletenessBaselineValidationEvidenceError
    (StoreError : Type) where
  | baseline (source : RestartCheckpointBaselineValidationEvidenceError)
  | completenessEvidence (source : RestartCompletenessError StoreError)
  | baselinePreparation (source : RestartCheckpointBaselineError)
deriving DecidableEq

def deriveRestartCheckpointCompletenessBaselineEvidence (lineage : LogLineage)
    (currentFrontier : Option LogSequenceNumber)
    (observations : List (DurableTransactionRestartObservation width))
    (observePage : ObservePage width StoreError) (checkpointFrontier : Option U64) :
    Except (RestartCheckpointCompletenessBaselineValidationEvidenceError StoreError)
      RestartCheckpointCompletenessBaseline := do
  let selected ← (selectRestartCheckpointPrefix lineage currentFrontier observations
    checkpointFrontier).mapError .baseline
  let analysis ← (analyzeRestartCompletenessEvidence lineage selected.frontier
    selected.observations observePage).mapError .completenessEvidence
  (prepareRestartCheckpointCompletenessBaseline analysis).mapError .baselinePreparation

def RestartCheckpointBaselineState.commitPosition :
    RestartCheckpointBaselineState → Option U64
  | .uncommitted => none
  | .committed commitPosition => some commitPosition

/-- A row of the transaction table, as a checkpoint keeps it. -/
def RestartEntry.lower (entry : RestartEntry) : RestartCheckpointBaselineEntry where
  transaction := entry.transaction
  firstOwnedPagePosition := entry.firstOwnedPagePosition.map (·.get)
  lastOwnedPagePosition := entry.lastOwnedPagePosition.map (·.get)
  ownedPageRecordCount := Fin.ofNat _ entry.ownedPageRecordCount
  state := entry.state.lower

@[simp] theorem RestartState.lower_commitPosition (state : RestartState) :
    state.lower.commitPosition = state.commitPosition.map (·.get) := by
  cases state <;> rfl

/-! ## Record boundaries -/

def lastPosition (records : List (DurableTransactionRestartObservation width)) :
    Option LogSequenceNumber :=
  records.getLast?.map (·.position)

section Boundaries

variable {lineage : LogLineage}
  {records : List (DurableTransactionRestartObservation width)}

theorem ValidPrefix.append_left
    {first second : List (DurableTransactionRestartObservation width)}
    (valid : ValidPrefix lineage (first ++ second)) : ValidPrefix lineage first where
  own record among := valid.own record (List.mem_append_left second among)
  ordered := (List.pairwise_append.mp valid.ordered).1
  final := (List.pairwise_append.mp valid.final).1

theorem ValidPrefix.append_right
    {first second : List (DurableTransactionRestartObservation width)}
    (valid : ValidPrefix lineage (first ++ second)) : ValidPrefix lineage second where
  own record among := valid.own record (List.mem_append_right first among)
  ordered := (List.pairwise_append.mp valid.ordered).2.1
  final := (List.pairwise_append.mp valid.final).2.1

theorem ValidPrefix.of_prefix
    {selected : List (DurableTransactionRestartObservation width)}
    (valid : ValidPrefix lineage records) (selects : selected <+: records) :
    ValidPrefix lineage selected := by
  rcases selects with ⟨rest, rfl⟩
  exact valid.append_left

theorem recordIndex_eq_some_iff (valid : ValidPrefix lineage records) {position : U64}
    {index : Nat} :
    recordIndex records position = some index ↔ ∃ below record above,
      records = below ++ record :: above ∧ below.length = index ∧
        record.position.get = position := by
  rw [recordIndex]
  constructor
  · intro found
    rcases List.findIdx?_eq_some_iff_getElem.mp found with ⟨bound, here, _⟩
    refine ⟨records.take index, records.get ⟨index, bound⟩,
      records.drop (index + 1), ?_, ?_, ?_⟩
    · simp
    · simp [bound.le]
    · simpa using here
  · intro found
    rcases found with ⟨below, record, above, rfl, rfl, rfl⟩
    have before := (List.pairwise_append.mp valid.ordered).2.2
    have notBelow : below.findIdx? (fun other =>
        decide (other.position.get = record.position.get)) = none := by
      rw [List.findIdx?_eq_none_iff]
      intro earlier among
      simpa using (before earlier among record List.mem_cons_self).ne
    rw [List.findIdx?_append, notBelow, List.findIdx?_cons, if_pos (by simp)]
    simp

theorem requireCurrentFrontier_ok_iff {checkpointFrontier current : U64}
    (valid : ValidPrefix lineage records) :
    requireCurrentFrontier lineage (lastPosition records) records checkpointFrontier =
        .ok current ↔ (lastPosition records).map (·.get) = some current := by
  rw [lastPosition]
  cases last : records.getLast? with
  | none =>
      rw [List.getLast?_eq_none_iff.mp last]
      simp [requireCurrentFrontier, throw, throwThe, MonadExceptOf.throw]
  | some record =>
      have among := List.mem_of_getLast? last
      have nonempty : records ≠ [] := List.ne_nil_of_mem among
      simp only [requireCurrentFrontier, Except.bind_ok_iff, Except.pure_ok_iff,
        rejectIf_ok_iff, nonempty, (valid.own record among).symm, record.position_ne_zero,
        Option.map_some, Option.some.injEq]
      simp

theorem ValidPrefix.position_le_last (valid : ValidPrefix lineage records)
    {record last : DurableTransactionRestartObservation width} (among : record ∈ records)
    (isLast : records.getLast? = some last) :
      record.position.get ≤ last.position.get := by
  rcases List.getLast?_eq_some_iff.mp isLast with ⟨front, rfl⟩
  rcases List.mem_append.mp among with before | here
  · exact ((List.pairwise_append.mp valid.ordered).2.2 record before last
      List.mem_cons_self).le
  · rw [List.mem_singleton.mp here]

theorem selectRestartCheckpointPrefix_ok_iff (valid : ValidPrefix lineage records)
    {checkpointFrontier : Option U64} {selected : SelectedRestartCheckpointPrefix width} :
    selectRestartCheckpointPrefix lineage (lastPosition records) records
      checkpointFrontier = .ok selected ↔
      selected.observations <+: records ∧
        selected.frontier = lastPosition selected.observations ∧
        checkpointFrontier = selected.frontier.map (·.get) := by
  rcases selected with ⟨frontier, observations⟩
  cases checkpointFrontier with
  | none =>
      simp only [selectRestartCheckpointPrefix, Except.pure_ok_iff,
        SelectedRestartCheckpointPrefix.mk.injEq]
      constructor
      · intro selects
        rcases selects with ⟨rfl, rfl⟩
        exact ⟨List.nil_prefix, rfl, rfl⟩
      · intro selects
        rcases selects with ⟨_, rfl, absent⟩
        cases last : observations.getLast? with
        | none =>
            exact ⟨by simp [lastPosition, last], (List.getLast?_eq_none_iff.mp last).symm⟩
        | some record => simp [lastPosition, last] at absent
  | some checkpointFrontier =>
      simp only [selectRestartCheckpointPrefix, Except.bind_ok_iff, rejectIf_ok_iff,
        requireCurrentFrontier_ok_iff valid]
      constructor
      · intro selects
        rcases selects with ⟨current, _, _, _, selects⟩
        split at selects
        · rename_i index found
          rcases (recordIndex_eq_some_iff valid).mp found with
            ⟨below, record, above, split, rfl, rfl⟩
          have own := valid.own record (by simp [split])
          have taken : records.take (below.length + 1) = below ++ [record] := by
            rw [split, List.append_cons]
            exact List.take_left' (by simp)
          rw [taken, Except.pure_ok_iff, SelectedRestartCheckpointPrefix.mk.injEq]
            at selects
          rcases selects with ⟨rfl, rfl⟩
          refine ⟨⟨above, by simp [split]⟩, ?_, rfl⟩
          simp [lastPosition, ← LogSequenceNumber.eq_position own]
        · split at selects <;> cases selects
      · intro selects
        rcases selects with ⟨⟨above, split⟩, rfl, isFrontier⟩
        cases last : observations.getLast? with
        | none => simp [lastPosition, last] at isFrontier
        | some record =>
            rcases List.getLast?_eq_some_iff.mp last with ⟨below, rfl⟩
            simp only [lastPosition, last, Option.map_some, Option.some.injEq]
              at isFrontier
            subst isFrontier
            have whole : records = below ++ record :: above := by simp [← split]
            have among : record ∈ records := by simp [whole]
            have found : recordIndex records record.position.get = some below.length :=
              (recordIndex_eq_some_iff valid).mpr ⟨below, record, above, whole, rfl, rfl⟩
            cases tail : records.getLast? with
            | none => simp [List.getLast?_eq_none_iff.mp tail] at among
            | some final =>
                have bound := valid.position_le_last among tail
                refine ⟨final.position.get, by simp [lastPosition, tail], (),
                  not_lt.mpr bound, ?_⟩
                have taken : records.take (below.length + 1) = below ++ [record] := by
                  rw [whole, List.append_cons]
                  exact List.take_left' (by simp)
                simp only [found, taken,
                  ← LogSequenceNumber.eq_position (valid.own record among),
                  Except.pure_ok_iff]
                simp [lastPosition]

/-! ## The baseline is the checkpoint of the selected records -/

/-- The baseline is what the records say of themselves and of the store. -/
structure CheckpointOf (lineage : LogLineage)
    (selected : List (DurableTransactionRestartObservation width))
    (observePage : ObservePage width StoreError)
    (baseline : RestartCheckpointCompletenessBaseline) : Prop where
  persistent : lineage.persistentId = some baseline.transactionBaseline.persistentLogId
  frontier : baseline.transactionBaseline.durableFrontier =
    (lastPosition selected).map (·.get)
  transactions : Describes RestartCheckpointBaselineEntry.transaction
    (fun transaction => (transactionEntry selected transaction).map RestartEntry.lower)
    baseline.transactionBaseline.transactions
  complete : ∃ analysis,
    analyzeRestartCompletenessEvidence lineage (lastPosition selected) selected
      observePage = .ok analysis ∧
      baseline.pages = analysis.pages ∧ baseline.replayStart = analysis.replayStart

theorem prepareRestartCheckpointBaselineEntry_ok_iff {entry : RestartEntry}
    {lowered : RestartCheckpointBaselineEntry} :
    prepareRestartCheckpointBaselineEntry entry = .ok lowered ↔
      entry.ownedPageRecordCount ≤ u64Max ∧ entry.lower = lowered := by
  simp only [prepareRestartCheckpointBaselineEntry, Except.bind_ok_iff, okOr_ok_iff,
    Except.pure_ok_iff, tryU64_eq_some]
  constructor
  · intro prepared
    rcases prepared with ⟨count, counted, rfl⟩
    have bound := count.isLt
    have same : count = Fin.ofNat _ entry.ownedPageRecordCount := by
      rw [← counted]
      exact (Fin.ofNat_val_eq_self count).symm
    exact ⟨by rw [u64Max]; omega, by rw [RestartEntry.lower, same]⟩
  · intro holds
    rcases holds with ⟨fits, rfl⟩
    refine ⟨Fin.ofNat _ entry.ownedPageRecordCount, ?_, rfl⟩
    exact Nat.mod_eq_of_lt (fits.trans_lt u64Max_lt)

theorem prepareRestartCheckpointBaseline_ok_iff {analysis : RestartAnalysis}
    {baseline : RestartCheckpointBaseline} :
    prepareRestartCheckpointBaseline analysis = .ok baseline ↔
      analysis.lineage.persistentId = some baseline.persistentLogId ∧
        (∀ entry ∈ analysis.transactions, entry.ownedPageRecordCount ≤ u64Max) ∧
        baseline.durableFrontier = analysis.durableFrontier.map (·.get) ∧
        baseline.transactions = analysis.transactions.map RestartEntry.lower := by
  rcases baseline with ⟨persistentLogId, durableFrontier, transactions⟩
  simp only [prepareRestartCheckpointBaseline, Except.bind_ok_iff, okOr_ok_iff,
    Except.mapM_ok_iff, prepareRestartCheckpointBaselineEntry_ok_iff, Except.pure_ok_iff,
    RestartCheckpointBaseline.mk.injEq]
  have lowered : ∀ rows : List RestartCheckpointBaselineEntry,
      List.Forall₂ (fun entry row => entry.ownedPageRecordCount ≤ u64Max ∧
        entry.lower = row) analysis.transactions rows ↔
        (∀ entry ∈ analysis.transactions, entry.ownedPageRecordCount ≤ u64Max) ∧
          analysis.transactions.map RestartEntry.lower = rows := by
    intro rows
    rw [List.forall₂_and_left, ← List.forall₂_eq_eq_eq, List.forall₂_map_left_iff]
  constructor
  · intro prepared
    rcases prepared with ⟨_, persistent, rows, isRows, rfl, rfl, rfl⟩
    rcases (lowered rows).mp isRows with ⟨fits, rfl⟩
    exact ⟨persistent, fits, rfl, rfl⟩
  · intro holds
    rcases holds with ⟨persistent, fits, rfl, rfl⟩
    exact ⟨_, persistent, _, (lowered _).mpr ⟨fits, rfl⟩, rfl, rfl, rfl⟩

theorem transactionEntry_eq_some {transaction : DurableTransactionIdentityObservation}
    {entry : RestartEntry} :
    transactionEntry records transaction = some entry ↔
      (ownedPositions records transaction ≠ [] ∨
        commitPosition records transaction ≠ none) ∧
        entry = entryOf records transaction := by
  rw [transactionEntry]
  split
  · rename_i absent
    simp [absent]
  · rename_i present
    rw [not_and_or] at present
    rw [and_iff_right present, Option.some.injEq, eq_comm]

theorem count_le_of_mem {transactions : List RestartEntry}
    (valid : ValidPrefix lineage records) (table : TableOf records transactions)
    {entry : RestartEntry} (among : entry ∈ transactions) :
    entry.ownedPageRecordCount ≤ u64Max := by
  rw [(transactionEntry_eq_some.mp ((table.found entry).mp among)).2]
  exact (ownedPositions_length_le entry.transaction).trans valid.length_le

theorem analyzeRestartCompletenessEvidence_transactions
    {observePage : ObservePage width StoreError}
    {durableFrontier : Option LogSequenceNumber} {analysis : RestartCompletenessAnalysis}
    (analyzed : analyzeRestartCompletenessEvidence lineage durableFrontier records
      observePage = .ok analysis) :
    analyzeDurableTransactionRestartEvidence lineage durableFrontier records =
      .ok analysis.transactionAnalysis := by
  simp only [analyzeRestartCompletenessEvidence,
    deriveRestartCompletenessFromAnalysisEvidence, Except.bind_ok_iff,
    Except.mapError_ok_iff, Except.pure_ok_iff] at analyzed
  rcases analyzed with ⟨transactionAnalysis, transactionsAnalyzed, _, _, _, _, rfl⟩
  exact transactionsAnalyzed

/-- What completeness analysis and lowering make of a prefix is its checkpoint. -/
theorem checkpointOf_iff {selected : List (DurableTransactionRestartObservation width)}
    {observePage : ObservePage width StoreError}
    {baseline : RestartCheckpointCompletenessBaseline} :
    (∃ analysis,
      analyzeRestartCompletenessEvidence lineage (lastPosition selected) selected
        observePage = .ok analysis ∧
        prepareRestartCheckpointCompletenessBaseline analysis = .ok baseline) ↔
      CheckpointOf lineage selected observePage baseline := by
  simp only [prepareRestartCheckpointCompletenessBaseline, Except.bind_ok_iff,
    prepareRestartCheckpointBaseline_ok_iff, Except.pure_ok_iff]
  constructor
  · intro prepared
    rcases prepared with ⟨analysis, analyzed, transactionBaseline,
      ⟨persistent, fits, frontier, rows⟩, rfl⟩
    have transactionsAnalyzed := analyzeRestartCompletenessEvidence_transactions analyzed
    rcases analyzeDurableTransactionRestartEvidence_ok_iff.mp transactionsAnalyzed with
      ⟨_, _, ownLineage, ownFrontier, table⟩
    exact {
      persistent := ownLineage ▸ persistent
      frontier := by rw [frontier, ownFrontier]
      transactions := by
        rw [rows]
        exact table.map fun _ => rfl
      complete := ⟨analysis, analyzed, rfl, rfl⟩ }
  · intro checkpoint
    rcases baseline with ⟨transactionBaseline, pages, replayStart⟩
    rcases checkpoint with
      ⟨persistent, frontier, transactions, analysis, analyzed, rfl, rfl⟩
    have transactionsAnalyzed := analyzeRestartCompletenessEvidence_transactions analyzed
    rcases analyzeDurableTransactionRestartEvidence_ok_iff.mp transactionsAnalyzed with
      ⟨selectedValid, _, ownLineage, ownFrontier, table⟩
    have lowered : Describes RestartCheckpointBaselineEntry.transaction
        (fun transaction =>
          (transactionEntry selected transaction).map RestartEntry.lower)
        (analysis.transactionAnalysis.transactions.map RestartEntry.lower) :=
      table.map fun _ => rfl
    refine ⟨analysis, analyzed, transactionBaseline,
      ⟨?_, ?_, ?_, transactions.unique lowered⟩, rfl⟩
    · rw [ownLineage]
      exact persistent
    · intro entry among
      exact count_le_of_mem selectedValid table among
    · rw [frontier, ownFrontier]

/-- Baselines are derived at record boundaries, and are the checkpoints of the
records up to them. -/
theorem deriveRestartCheckpointCompletenessBaselineEvidence_ok_iff
    (valid : ValidPrefix lineage records) {observePage : ObservePage width StoreError}
    {checkpointFrontier : Option U64} {baseline : RestartCheckpointCompletenessBaseline} :
    deriveRestartCheckpointCompletenessBaselineEvidence lineage
      (lastPosition records) records observePage checkpointFrontier = .ok baseline ↔
      ∃ selected, selected <+: records ∧
        checkpointFrontier = (lastPosition selected).map (·.get) ∧
        CheckpointOf lineage selected observePage baseline := by
  simp only [deriveRestartCheckpointCompletenessBaselineEvidence, Except.bind_ok_iff,
    Except.mapError_ok_iff, selectRestartCheckpointPrefix_ok_iff valid,
    ← checkpointOf_iff]
  constructor
  · intro derived
    rcases derived with
      ⟨selected, ⟨selects, isLast, isFrontier⟩, analysis, analyzed, prepared⟩
    rw [isLast] at isFrontier analyzed
    exact ⟨selected.observations, selects, isFrontier, analysis, analyzed, prepared⟩
  · intro holds
    rcases holds with ⟨selected, selects, isFrontier, analysis, analyzed, prepared⟩
    exact ⟨⟨lastPosition selected, selected⟩, ⟨selects, rfl, isFrontier⟩,
      analysis, analyzed, prepared⟩

end Boundaries

end Ntsql.Transaction
