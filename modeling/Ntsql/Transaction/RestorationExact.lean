import Ntsql.Transaction.PrefixGrowth
import Ntsql.Transaction.RestartRestoration
import Ntsql.Transaction.WriteAhead

/-! # Restoration is total and exact

The table of a checkpoint is that of a shorter prefix. What may change between
the two is what the checks allow, so they accept every checkpoint of a valid
prefix, and the epoch they lead to is above every identity either table has. -/

namespace Ntsql.Transaction

open SortedTable

variable {width : Nat} {StoreError : Type} {lineage : LogLineage}
  {selected rest records : List (DurableTransactionRestartObservation width)}
  {transaction : DurableTransactionIdentityObservation}

/-! ## The selected entries pass -/

theorem validateSelectedTransactionPositions_ok_iff {selectedFrontier : Option U64}
    {positions : List (Option U64)} {value : Unit} :
    validateSelectedTransactionPositions transaction selectedFrontier
      positions = .ok value ↔
      ∀ position, some position ∈ positions →
        ∃ frontier, selectedFrontier = some frontier ∧ position ≤ frontier := by
  simp only [validateSelectedTransactionPositions, Except.forM_ok_iff, Except.bind_ok_iff,
    okOr_ok_iff, rejectIf_ok_iff, not_lt, List.reduceOption_mem_iff]

theorem lower_positions_ok {frontier : LogSequenceNumber}
    (valid : ValidPrefix lineage (selected ++ rest))
    (boundary : lastPosition selected = some frontier) :
    let entry := (entryOf selected transaction).lower
    validateSelectedTransactionPositions transaction (some frontier.get)
      [entry.firstOwnedPagePosition, entry.lastOwnedPagePosition,
        entry.state.commitPosition] = .ok () := by
  intro entry
  refine validateSelectedTransactionPositions_ok_iff.mpr fun position isPosition => ?_
  refine ⟨frontier.get, rfl, ?_⟩
  simp only [entry, RestartEntry.lower, entryOf, RestartState.lower_commitPosition,
    commitPosition_transactionState, List.mem_cons, List.not_mem_nil,
    or_false] at isPosition
  rcases isPosition with first | last | committed
  · rcases Option.map_eq_some_iff.mp first.symm with ⟨owned, isOwned, rfl⟩
    exact valid.owned_le_frontier boundary (List.mem_of_mem_head? isOwned)
  · rcases Option.map_eq_some_iff.mp last.symm with ⟨owned, isOwned, rfl⟩
    exact valid.owned_le_frontier boundary (List.mem_of_getLast? isOwned)
  · rcases Option.map_eq_some_iff.mp committed.symm with ⟨commit, isCommit, rfl⟩
    exact valid.commit_le_frontier boundary isCommit

theorem checkSelectedState_ok {frontier : LogSequenceNumber} {currentCount : U64}
    (valid : ValidPrefix lineage (selected ++ rest))
    (boundary : lastPosition selected = some frontier)
    (counted : currentCount.val =
      (ownedPositions (selected ++ rest) transaction).length) :
    checkSelectedState (some frontier.get) (entryOf selected transaction).lower
      (entryOf (selected ++ rest) transaction) currentCount = .ok () := by
  have selectedCount :
      (Fin.ofNat (2 ^ 64) (ownedPositions selected transaction).length).val =
      (ownedPositions selected transaction).length :=
    Nat.mod_eq_of_lt (((ownedPositions_length_le transaction).trans
      valid.append_left.length_le).trans_lt u64Max_lt)
  cases committed : commitPosition selected transaction with
  | some position =>
      have settled :=
        valid.settledAfter (by rw [committed]; exact Option.some_ne_none position)
      have sameCount : Fin.ofNat (2 ^ 64) (ownedPositions selected transaction).length =
          currentCount := by
        apply Fin.ext
        rw [selectedCount, counted, ownedPositions_append, settled.1, List.append_nil]
      simp [checkSelectedState, RestartEntry.lower, entryOf, transactionState, committed,
        RestartState.lower, RestartState.commitPosition, settled]
      exact sameCount
  | none =>
      have grows : currentCount.val = (ownedPositions selected transaction).length +
          (ownedPositions rest transaction).length := by
        rw [counted, ownedPositions_append, List.length_append]
      have state : (entryOf selected transaction).lower.state = .uncommitted := by
        simp [RestartEntry.lower, entryOf, transactionState, committed,
          RestartState.lower]
      simp only [checkSelectedState, state, Except.bind_ok_iff, rejectIf_ok_iff,
        okOr_ok_iff]
      refine ⟨(), ?_, frontier.get, rfl, (), ?_, ?_⟩
      · change ¬currentCount <
          Fin.ofNat (2 ^ 64) (ownedPositions selected transaction).length
        rw [Fin.lt_def, selectedCount]
        omega
      · change
          ¬(¬(currentCount =
            Fin.ofNat (2 ^ 64) (ownedPositions selected transaction).length ∧
            _) ∧ ¬(Fin.ofNat (2 ^ 64) (ownedPositions selected transaction).length <
              currentCount ∧ _))
        rw [Fin.ext_iff, Fin.lt_def, selectedCount]
        cases last : (ownedPositions rest transaction).getLast? with
        | none =>
            have none := List.getLast?_eq_none_iff.mp last
            simp [RestartEntry.lower, entryOf, none] at grows ⊢
            omega
        | some owned =>
            have later := valid.frontier_lt_owned boundary (List.mem_of_getLast? last)
            have nonempty := List.length_pos_of_mem (List.mem_of_getLast? last)
            have more : (ownedPositions selected transaction).length < currentCount.val :=
              by omega
            simp [entryOf, List.getLast?_append, last, more, later]
      · simp only [entryOf, commitPosition_transactionState, commitPosition_append,
          committed, Option.none_or]
        cases commit : commitPosition rest transaction with
        | none => rfl
        | some position =>
            simpa using valid.frontier_lt_commit boundary commit

theorem head?_ownedPositions_append (valid : ValidPrefix lineage (selected ++ rest))
    (present : transactionEntry selected transaction ≠ none) :
    (ownedPositions (selected ++ rest) transaction).head? =
      (ownedPositions selected transaction).head? := by
  rw [ownedPositions_append, List.head?_append]
  cases owned : ownedPositions selected transaction with
  | cons position others => rfl
  | nil =>
      have committed : commitPosition selected transaction ≠ none := by
        intro uncommitted
        exact present (if_pos ⟨owned, uncommitted⟩)
      rw [(valid.settledAfter committed).1]
      rfl

theorem checkSelectedTransaction_ok {current : RestartAnalysis}
    {row : RestartCheckpointBaselineEntry}
    (valid : ValidPrefix lineage (selected ++ rest))
    (table : TableOf (selected ++ rest) current.transactions)
    (isRow : (transactionEntry selected transaction).map RestartEntry.lower = some row) :
    checkSelectedTransaction ((lastPosition selected).map (·.get)) current row =
      .ok () := by
  rcases Option.map_eq_some_iff.mp isRow with ⟨entry, found, rfl⟩
  rw [(transactionEntry_eq_some.mp found).2]
  have present : transactionEntry selected transaction ≠ none := by
    rw [found]
    exact Option.some_ne_none entry
  rcases exists_owner present with ⟨record, among, owner⟩
  cases boundary : lastPosition selected with
  | none =>
      rw [lastPosition, Option.map_eq_none_iff, List.getLast?_eq_none_iff] at boundary
      rw [boundary] at among
      simp at among
  | some frontier =>
      have currentEntry :=
        transactionEntry_of_owner (List.mem_append_left rest among) owner
      have fits :=
        ((ownedPositions_length_le transaction).trans valid.length_le).trans_lt u64Max_lt
      simp only [checkSelectedTransaction, Except.bind_ok_iff, okOr_ok_iff,
        rejectIf_ok_iff, not_not, tryU64_eq_some, Option.map_some]
      refine ⟨(), lower_positions_ok valid boundary,
        entryOf (selected ++ rest) transaction, ?_, (),
        ?_, ⟨_, fits⟩, rfl, checkSelectedState_ok valid boundary rfl⟩
      · rw [table.search_eq]
        exact currentEntry
      · simp only [RestartEntry.lower, entryOf, head?_ownedPositions_append valid present]

/-! ## The counts are exact -/

def RestartEntry.IsCommitted (entry : RestartEntry) : Prop :=
  entry.state.commitPosition ≠ none

instance (entry : RestartEntry) : Decidable entry.IsCommitted :=
  inferInstanceAs (Decidable (_ ≠ _))

theorem table_length_le {transactions : List RestartEntry}
    (table : TableOf records transactions) : transactions.length ≤ records.length := by
  have distinct : (transactions.map (·.transaction)).Nodup :=
    List.pairwise_map.mpr (table.increasing.imp ne_of_lt)
  have owners : transactions.map (·.transaction) ⊆ records.filterMap (·.owner) := by
    refine List.forall_mem_map.mpr fun entry among => ?_
    have found := (table.found entry).mp among
    rcases exists_owner (by rw [found]; exact Option.some_ne_none entry) with
      ⟨record, isRecord, owner⟩
    exact List.mem_filterMap.mpr ⟨record, isRecord, owner⟩
  have bound := (distinct.subperm owners).length_le
  rw [List.length_map] at bound
  exact bound.trans (List.length_filterMap_le _ _)

theorem countTransaction_ok {counts : RestorationCounts} {entry : RestartEntry}
    (room : counts.committed + counts.unresolved < u64Max) :
    countTransaction counts entry.state =
      .ok ⟨counts.committed + if entry.IsCommitted then 1 else 0,
        counts.unresolved + if entry.IsCommitted then 0 else 1⟩ := by
  cases state : entry.state with
  | uncommitted =>
      have counted : checkedCount counts.unresolved = some (counts.unresolved + 1) :=
        checkedCount_eq_some.mpr ⟨by omega, rfl⟩
      simp [countTransaction, counted, okOr, RestartEntry.IsCommitted, state,
        RestartState.commitPosition]
  | committed position =>
      have counted : checkedCount counts.committed = some (counts.committed + 1) :=
        checkedCount_eq_some.mpr ⟨by omega, rfl⟩
      simp [countTransaction, counted, okOr, RestartEntry.IsCommitted, state,
        RestartState.commitPosition]

theorem exists_currentTransactionFirstPosition
    (present : ownedPositions records transaction ≠ [] ∨
      commitPosition records transaction ≠ none) :
    ∃ position : LogSequenceNumber,
      (position ∈ ownedPositions records transaction ∨
        commitPosition records transaction = some position) ∧
      currentTransactionFirstPosition (entryOf records transaction) =
        some position.get := by
  simp only [currentTransactionFirstPosition, entryOf, commitPosition_transactionState]
  cases first : (ownedPositions records transaction).head? with
  | none =>
      have none := List.head?_eq_none_iff.mp first
      cases committed : commitPosition records transaction with
      | none => exact absurd committed (present.resolve_left (not_not.mpr none))
      | some commit => exact ⟨commit, .inr rfl, rfl⟩
  | some page =>
      have among := List.mem_of_mem_head? first
      cases committed : commitPosition records transaction with
      | none => exact ⟨page, .inl among, rfl⟩
      | some commit =>
          rcases le_total page.get commit.get with before | after
          · exact ⟨page, .inl among, congrArg some (min_eq_left before)⟩
          · exact ⟨commit, .inr rfl, congrArg some (min_eq_right after)⟩

theorem currentTransaction_passes {baseline : RestartCheckpointBaseline}
    {entry : RestartEntry} {transactions : List RestartEntry}
    (valid : ValidPrefix lineage (selected ++ rest))
    (frontier : baseline.durableFrontier = (lastPosition selected).map (·.get))
    (described : Describes RestartCheckpointBaselineEntry.transaction
      (fun transaction => (transactionEntry selected transaction).map RestartEntry.lower)
      baseline.transactions)
    (table : TableOf (selected ++ rest) transactions) (among : entry ∈ transactions) :
    ∃ first, currentTransactionFirstPosition entry = some first ∧
      ¬((∃ frontier ∈ baseline.durableFrontier, first ≤ frontier) ∧
        search RestartCheckpointBaselineEntry.transaction entry.transaction
          baseline.transactions = none) := by
  rcases transactionEntry_eq_some.mp ((table.found entry).mp among) with
    ⟨present, isEntry⟩
  rcases exists_currentTransactionFirstPosition present with ⟨position, isPosition, first⟩
  rw [← isEntry] at first
  refine ⟨position.get, first, fun listed => ?_⟩
  rcases listed with ⟨⟨_, isFrontier, below⟩, missing⟩
  rw [frontier] at isFrontier
  rcases Option.map_eq_some_iff.mp isFrontier with ⟨boundary, isBoundary, rfl⟩
  rw [described.search_eq, Option.map_eq_none_iff] at missing
  have absent : ownedPositions selected entry.transaction = [] ∧
      commitPosition selected entry.transaction = none := by
    by_contra other
    rw [transactionEntry, if_neg other] at missing
    cases missing
  rw [ownedPositions_append, commitPosition_append, absent.1, absent.2, List.nil_append,
    Option.none_or] at isPosition
  rcases isPosition with owned | committed
  · exact absurd below (not_le.mpr (valid.frontier_lt_owned isBoundary owned))
  · exact absurd below (not_le.mpr (valid.frontier_lt_commit isBoundary committed))

theorem foldlM_countCurrentTransaction {baseline : RestartCheckpointBaseline}
    {entries : List RestartEntry} {counts : RestorationCounts}
    (passes : ∀ entry ∈ entries, ∃ first, currentTransactionFirstPosition entry =
      some first ∧
      ¬((∃ frontier ∈ baseline.durableFrontier, first ≤ frontier) ∧
        search RestartCheckpointBaselineEntry.transaction entry.transaction
          baseline.transactions = none))
    (room : counts.committed + counts.unresolved + entries.length ≤ u64Max) :
    entries.foldlM (countCurrentTransaction baseline) counts =
      .ok ⟨counts.committed + entries.countP (·.IsCommitted),
        counts.unresolved + entries.countP (¬·.IsCommitted)⟩ := by
  induction entries generalizing counts with
  | nil => rfl
  | cons entry entries induction =>
      rw [List.length_cons] at room
      rcases passes entry List.mem_cons_self with ⟨first, isFirst, known⟩
      have step : countCurrentTransaction baseline counts entry =
          .ok ⟨counts.committed + if entry.IsCommitted then 1 else 0,
            counts.unresolved + if entry.IsCommitted then 0 else 1⟩ := by
        rw [countCurrentTransaction, countTransaction_ok (by omega), Except.ok_bind,
          isFirst, okOr, Except.ok_bind, rejectIf, if_neg known]
        rfl
      rw [List.foldlM_cons, step, Except.ok_bind, induction
        (fun other among => passes other (List.mem_cons_of_mem entry among)) ?_]
      · simp only [List.countP_cons, decide_eq_true_eq]
        split <;> simp <;> omega
      · simp only
        split <;> omega

/-! ## The greatest identity -/

theorem le_foldl_raiseHighest {transactions : List DurableTransactionIdentityObservation}
    {highest : Option DurableTransactionIdentityObservation}
    (among : transaction ∈ highest ∨ transaction ∈ transactions) :
    ∃ greatest, transactions.foldl raiseHighest highest = some greatest ∧
      transaction ≤ greatest := by
  induction transactions generalizing highest transaction with
  | nil =>
      rcases among with here | nowhere
      · exact ⟨transaction, here, le_rfl⟩
      · simp at nowhere
  | cons first transactions induction =>
      rw [List.foldl_cons]
      have raised : ∀ other, other ∈ highest ∨ other = first →
          ∃ greatest, transactions.foldl raiseHighest (raiseHighest highest first) =
            some greatest ∧ other ≤ greatest := by
        intro other isOther
        have bounded : other ≤ highest.elim first (max · first) := by
          cases highest with
          | none => exact (isOther.resolve_left (Option.not_mem_none other)).le
          | some current =>
              rcases isOther with here | rfl
              · exact (Option.some.inj here) ▸ le_max_left current first
              · exact le_max_right current other
        have passed : ∃ greatest,
            transactions.foldl raiseHighest (raiseHighest highest first) = some greatest ∧
              highest.elim first (max · first) ≤ greatest := induction (.inl rfl)
        rcases passed with ⟨greatest, isGreatest, above⟩
        exact ⟨greatest, isGreatest, bounded.trans above⟩
      rcases among with here | listed
      · exact raised transaction (.inl here)
      · rcases List.mem_cons.mp listed with same | later
        · exact raised transaction (.inr same)
        · exact induction (.inr later)

theorem foldl_raiseHighest_mem {transactions : List DurableTransactionIdentityObservation}
    {highest : Option DurableTransactionIdentityObservation}
    {greatest : DurableTransactionIdentityObservation}
    (isGreatest : transactions.foldl raiseHighest highest = some greatest) :
    greatest ∈ highest ∨ greatest ∈ transactions := by
  induction transactions generalizing highest with
  | nil => exact .inl isGreatest
  | cons first transactions induction =>
      rw [List.foldl_cons] at isGreatest
      rcases induction isGreatest with raised | later
      · cases highest with
        | none => exact .inr (Option.some.inj raised ▸ List.mem_cons_self)
        | some current =>
            have isMax : max current first = greatest := Option.some.inj raised
            rcases max_choice current first with isCurrent | isFirst
            · exact .inl (congrArg some (isCurrent.symm.trans isMax))
            · exact .inr (List.mem_cons.mpr (.inl (isMax.symm.trans isFirst)))
      · exact .inr (List.mem_cons_of_mem first later)

theorem epoch_le_of_le {left right : DurableTransactionIdentityObservation}
    (ordered : left ≤ right) :
    left.epoch.get ≤ right.epoch.get := by
  have keys : toLex (left.epoch.get, left.sequence.get) ≤
      toLex (right.epoch.get, right.sequence.get) := ordered
  rcases Prod.Lex.toLex_le_toLex.mp keys with below | same
  · exact below.le
  · exact same.1.le

/-! ## Preparation -/

/-- The identity of a record, or of a row of the checkpoint. -/
def Persisted (records : List (DurableTransactionRestartObservation width))
    (baseline : RestartCheckpointCompletenessBaseline)
    (transaction : DurableTransactionIdentityObservation) : Prop :=
  (∃ record ∈ records, record.owner = some transaction) ∨
    transaction ∈ baseline.transactionBaseline.transactions.map (·.transaction)

theorem requireFrontierOrder_ok (valid : ValidPrefix lineage (selected ++ rest)) :
    requireFrontierOrder ((lastPosition selected).map (·.get))
      ((lastPosition (selected ++ rest)).map (·.get)) = .ok () := by
  cases boundary : selected.getLast? with
  | none => simp [requireFrontierOrder, lastPosition, boundary]; rfl
  | some first =>
      have among := List.mem_append_left rest (List.mem_of_getLast? boundary)
      cases last : (selected ++ rest).getLast? with
      | none => simp [List.getLast?_eq_none_iff.mp last] at among
      | some record =>
          simp only [requireFrontierOrder, lastPosition, boundary, last, Option.map_some,
            rejectIf_ok_iff, not_lt]
          exact valid.position_le_last among last

/-- The epoch is above the greatest persisted identity. -/
def PreparedTransactionRestartRestoration.Admits
    (prepared : PreparedTransactionRestartRestoration) (epoch : NonZeroU64) : Prop :=
  ∀ greatest ∈ prepared.highestPersistedTransaction, greatest.epoch.get < epoch.get

/-- Every checkpoint of the prefix is accepted, and the counts are those of the
table. -/
theorem prepareTransactionRestartRestorationEvidence_ok {current : RestartAnalysis}
    {observePage : ObservePage width StoreError}
    {baseline : RestartCheckpointCompletenessBaseline}
    (valid : ValidPrefix lineage (selected ++ rest))
    (checkpoint : CheckpointOf lineage selected observePage baseline)
    (ownLineage : current.lineage = lineage)
    (ownFrontier : current.durableFrontier = lastPosition (selected ++ rest))
    (table : TableOf (selected ++ rest) current.transactions) :
    ∃ prepared, prepareTransactionRestartRestorationEvidence baseline current =
      .ok prepared ∧
      prepared.lineage = lineage ∧ prepared.transactionCount =
        current.transactions.length ∧
      prepared.committedCount = current.transactions.countP (·.IsCommitted) ∧
      prepared.unresolvedCount = current.transactions.countP (¬·.IsCommitted) ∧
      ∀ epoch, prepared.Admits epoch ↔
        ∀ transaction, Persisted (selected ++ rest) baseline transaction →
          transaction.epoch.get < epoch.get := by
  have checked : forM baseline.transactionBaseline.transactions (checkSelectedTransaction
      baseline.transactionBaseline.durableFrontier current) = .ok () := by
    refine Except.forM_ok_iff.mpr fun row among => ?_
    rw [checkpoint.frontier]
    exact checkSelectedTransaction_ok valid table
      ((checkpoint.transactions.found row).mp among)
  have ordered := requireFrontierOrder_ok valid
  rw [← checkpoint.frontier, ← ownFrontier] at ordered
  have room : current.transactions.length ≤ u64Max :=
    (table_length_le table).trans valid.length_le
  have counted : current.transactions.foldlM
      (countCurrentTransaction baseline.transactionBaseline) ⟨0, 0⟩ =
        .ok ⟨0 + current.transactions.countP (·.IsCommitted),
          0 + current.transactions.countP (¬·.IsCommitted)⟩ :=
    foldlM_countCurrentTransaction (fun entry among => currentTransaction_passes valid
      checkpoint.frontier checkpoint.transactions table among) (by simpa using room)
  rw [Nat.zero_add, Nat.zero_add] at counted
  have parts : current.transactions.countP (·.IsCommitted) +
      current.transactions.countP (¬·.IsCommitted) = current.transactions.length := by
    rw [List.length_eq_countP_add_countP fun entry : RestartEntry =>
      decide entry.IsCommitted]
    simp
  have total : checkedTotal (current.transactions.countP (·.IsCommitted))
      (current.transactions.countP (¬·.IsCommitted)) = some current.transactions.length :=
    checkedTotal_eq_some.mpr ⟨parts ▸ room, parts.symm⟩
  have sameLog : ¬baseline.transactionBaseline.persistentLogId ≠
      baseline.transactionBaseline.persistentLogId := not_not.mpr rfl
  let prepared : PreparedTransactionRestartRestoration := {
    lineage
    transactionCount := current.transactions.length
    committedCount := current.transactions.countP (·.IsCommitted)
    unresolvedCount := current.transactions.countP (¬·.IsCommitted)
    highestPersistedTransaction :=
      (baseline.transactionBaseline.transactions.map (·.transaction) ++
        current.transactions.map (·.transaction)).foldl raiseHighest none }
  have listed : ∀ transaction, transaction ∈ baseline.transactionBaseline.transactions.map
      (·.transaction) ++ current.transactions.map (·.transaction) ↔
        Persisted (selected ++ rest) baseline transaction := by
    intro transaction
    rw [List.mem_append, or_comm, Persisted, List.mem_map]
    refine or_congr_left ⟨fun isRow => ?_, fun owned => ?_⟩
    · rcases isRow with ⟨entry, among, rfl⟩
      apply exists_owner
      rw [(table.found entry).mp among]
      exact Option.some_ne_none entry
    · rcases owned with ⟨record, among, owner⟩
      exact ⟨entryOf (selected ++ rest) transaction,
        (table.found _).mpr (transactionEntry_of_owner among owner), rfl⟩
  refine ⟨prepared, ?_, rfl, rfl, rfl, rfl, fun epoch =>
    ⟨fun admits transaction persisted => ?_, fun above greatest isGreatest => ?_⟩⟩
  · rw [prepareTransactionRestartRestorationEvidence, ownLineage, checkpoint.persistent]
    simp only [okOr, Except.ok_bind, rejectIf, if_neg sameLog, ordered, checked, counted,
      total]
    rfl
  · rcases le_foldl_raiseHighest (.inr ((listed transaction).mpr persisted)) with
      ⟨greatest, isGreatest, below⟩
    exact (epoch_le_of_le below).trans_lt (admits greatest isGreatest)
  · have among :=
      (foldl_raiseHighest_mem isGreatest).resolve_left (Option.not_mem_none greatest)
    exact above greatest ((listed greatest).mp among)

/-! ## The restore step -/

section Restore

variable {SourceError : Type} {allocate : AllocateRestartEpoch SourceError}
  {identity : CoordinatorIdentity} {baseline : RestartCheckpointCompletenessBaseline}
  {current : RestartAnalysis} {prepared : PreparedTransactionRestartRestoration}
  {attemptCount : Nat} {coordinator : TransactionCoordinator}
  {summary : TransactionRestartRestorationSummary}

def PreparedTransactionRestartRestoration.summarize
    (prepared : PreparedTransactionRestartRestoration) (epoch : NonZeroU64)
    (attemptCount : Nat) :
    TransactionRestartRestorationSummary where
  transactionCount := prepared.transactionCount
  committedCount := prepared.committedCount
  unresolvedCount := prepared.unresolvedCount
  highestPersistedTransaction := prepared.highestPersistedTransaction
  coordinatorEpoch := epoch
  indeterminateAllocationAttemptCount := attemptCount

theorem acceptRestartEpoch_restored_iff {epoch : NonZeroU64} {answered : LogLineage} :
    (acceptRestartEpoch identity prepared attemptCount epoch answered :
        RestartCheckpointRestoration SourceError) = .restored coordinator summary ↔
      prepared.lineage = answered ∧
        coordinator = .fromAllocatedEpoch identity epoch answered ∧
        summary = prepared.summarize epoch attemptCount := by
  rw [acceptRestartEpoch]
  split
  · rename_i foreign
    simp [foreign]
  · rename_i own
    rw [RestartCheckpointRestoration.restored.injEq, and_iff_right (not_not.mp own),
      eq_comm, eq_comm (a := summary)]
    rfl

/-- The step restores exactly when the source answers an epoch above the
persisted identities, in the log's lineage. -/
theorem restoreTransactionRestartState_restored_iff
    (isPrepared : prepareTransactionRestartRestorationEvidence baseline current =
      .ok prepared) :
    restoreTransactionRestartState allocate identity baseline current attemptCount =
        .restored coordinator summary ↔
      attemptCount < u64Max ∧ ∃ epoch,
        allocate (prepared.highestPersistedTransaction.map (·.epoch)) =
          .ok (epoch, prepared.lineage) ∧
        prepared.Admits epoch ∧
        coordinator = .fromAllocatedEpoch identity epoch prepared.lineage ∧
        summary = prepared.summarize epoch attemptCount := by
  rw [restoreTransactionRestartState, isPrepared]
  cases counted : checkedCount attemptCount with
  | none =>
      have exhausted : ¬attemptCount < u64Max := by
        intro room
        rw [checkedCount_eq_some.mpr ⟨room, rfl⟩] at counted
        cases counted
      simp [exhausted]
  | some next =>
      have room := (checkedCount_eq_some.mp counted).1
      simp only [room, true_and, allocateRestartEpoch]
      cases answer : allocate (prepared.highestPersistedTransaction.map (·.epoch)) with
      | error cause => cases cause <;> simp
      | ok allocated =>
          rcases allocated with ⟨epoch, answered⟩
          have accepted :
              (acceptRestartEpoch identity prepared attemptCount epoch answered :
              RestartCheckpointRestoration SourceError) = .restored coordinator summary ↔
                ∃ other, (epoch, answered) = (other, prepared.lineage) ∧
                  coordinator = .fromAllocatedEpoch identity other prepared.lineage ∧
                  summary = prepared.summarize other attemptCount := by
            rw [acceptRestartEpoch_restored_iff]
            constructor
            · intro holds
              rcases holds with ⟨rfl, rfl, rfl⟩
              exact ⟨epoch, rfl, rfl, rfl⟩
            · intro holds
              rcases holds with ⟨_, same, rfl, rfl⟩
              cases same
              exact ⟨rfl, rfl, rfl⟩
          cases highest : prepared.highestPersistedTransaction with
          | none =>
              simpa [PreparedTransactionRestartRestoration.Admits, highest] using accepted
          | some greatest =>
              by_cases above : greatest.epoch.get < epoch.get
              · simp only [Option.map_some, if_neg (not_le.mpr above), accepted]
                constructor
                · intro holds
                  rcases holds with ⟨other, same, rest⟩
                  cases same
                  exact ⟨epoch, rfl,
                    by simpa [PreparedTransactionRestartRestoration.Admits,
                    highest] using above, rest⟩
                · intro holds
                  rcases holds with ⟨other, same, _, rest⟩
                  exact ⟨other, Except.ok.inj same, rest⟩
              · simp only [Option.map_some, if_pos (not_lt.mp above), reduceCtorEq,
                  false_iff]
                intro holds
                rcases holds with ⟨other, same, admits, _⟩
                cases same
                exact above (admits greatest highest)

end Restore

/-! ## Identities issued afterwards -/

namespace Session

open Execution

variable {World LogError SessionStoreError SourceError : Type}
  (ports : Ports width World LogError SessionStoreError SourceError)

theorem epoch_afterFlush {session : Session width World}
    {committed : CommittedTransaction} {page : TransactionDirtyPage width}
    {result : EStateM.Result
      (TransactionCommittedFlushError LogError SessionStoreError width)
      (Runtime width World) (TransactionCleanPage width)}
    (effect : FlushEffect session.runtime committed page result) :
    (session.afterFlush page result).runtime.coordinator.epoch =
      session.runtime.coordinator.epoch := by
  cases effect <;> rfl

theorem epoch_perform (session : Session width World) (call : Call width World) :
    (session.perform ports call).runtime.coordinator.epoch =
      session.runtime.coordinator.epoch := by
  cases call with
  | environment change => rfl
  | begin =>
      have effect := begin_effect session.runtime
      rw [perform]
      generalize Transaction.begin session.runtime = result at effect ⊢
      cases effect <;> rfl
  | commit transaction =>
      have effect := commit_effect ports transaction session.runtime
      rw [perform]
      generalize Transaction.commit ports transaction session.runtime = result at effect ⊢
      cases effect <;> rfl
  | resolve transaction =>
      have effect := resolve_effect ports transaction session.runtime
      rw [perform]
      generalize Transaction.resolve ports transaction session.runtime =
        result at effect ⊢
      cases effect <;> rfl
  | stagePageWrite transaction page =>
      have effect :=
        stageTransactionPageWrite_effect ports transaction page session.runtime
      rw [perform]
      generalize stageTransactionPageWrite ports transaction page session.runtime = result
        at effect ⊢
      cases effect with
      | rejected reason world => rfl
      | lost active error asked answer world => cases error <;> rfl
      | staged active position same world => rfl
  | flushStagedCommittedPage committed page =>
      have effect := flushStagedCommittedPage_effect ports committed page session.runtime
      rw [perform]
      generalize Transaction.flushStagedCommittedPage ports committed page
        session.runtime = result at effect ⊢
      cases effect with
      | rejected reason => rfl
      | failed source final flushed => exact epoch_afterFlush flushed
      | clean clean final flushed =>
          cases flushed
          rfl
  | flushCommittedPage committed page =>
      exact epoch_afterFlush
        (flushCommittedPage_effect ports committed page session.runtime)

theorem epoch_of_begin {runtime final : Runtime width World}
    {transaction : ActiveTransaction}
    (begun : Transaction.begin runtime = .ok transaction final) :
    transaction.transactionId.epoch = runtime.coordinator.epoch := by
  rw [Transaction.begin, Operation.get_bind] at begun
  cases next : runtime.coordinator.nextTransactionId with
  | none =>
      rw [next] at begun
      cases begun
  | some sequence =>
      rw [next, okOr, Operation.check_bind_of_ok rfl, Operation.check_rejectIf_bind]
        at begun
      split at begun
      · cases begun
      · cases begun
        rfl

theorem epoch_of_issued {session : Session width World} {call : Call width World}
    {id : TransactionId} (issued : session.issuedTransaction call = some id) :
    id.epoch = session.runtime.coordinator.epoch := by
  cases call <;> simp only [issuedTransaction, reduceCtorEq] at issued
  split at issued
  · rename_i transaction final begun
    rw [← Option.some.inj issued]
    exact epoch_of_begin begun
  · cases issued

/-- All identities a session issues are of its coordinator's epoch. -/
theorem epoch_of_emitted (session : Session width World)
    (calls : List (Call width World)) :
    ∀ id ∈ emitted (perform ports) issuedTransaction session calls,
      id.epoch = session.runtime.coordinator.epoch := by
  have kept : ∀ (state : Session width World) (call : Call width World),
      state.runtime.coordinator.epoch = session.runtime.coordinator.epoch → True →
        (perform ports state call).runtime.coordinator.epoch =
          session.runtime.coordinator.epoch :=
    fun state call same _ => (epoch_perform ports state call).trans same
  refine ahead_of_emitted _ (fun _ (id : TransactionId) =>
    id.epoch = session.runtime.coordinator.epoch) kept ?_
      (fun _ _ _ _ _ same => same) calls
    (respects_true session calls) rfl
  intro state call id same _ issued
  exact (epoch_of_issued issued).trans same

end Session

/-! ## The result -/

section Result

open Session Execution

variable {observePage : ObservePage width StoreError} {checkpointFrontier : Option U64}
  {baseline : RestartCheckpointCompletenessBaseline}

/-- Every baseline derived at a record boundary of a valid prefix is accepted
with the analysis of the whole prefix, whose table lists the transactions of the
prefix exactly and is counted exactly. The step then restores exactly when the
source answers an epoch above every persisted identity, and no run of the
restored coordinator issues a persisted identity. -/
theorem restoration_is_total_and_exact (valid : ValidPrefix lineage records)
    (derived : deriveRestartCheckpointCompletenessBaselineEvidence lineage
      (lastPosition records) records observePage checkpointFrontier = .ok baseline) :
    ∃ current prepared,
      analyzeDurableTransactionRestartEvidence lineage (lastPosition records) records =
          .ok current ∧
        TableOf records current.transactions ∧
        prepareTransactionRestartRestorationEvidence baseline current = .ok prepared ∧
        prepared.transactionCount = current.transactions.length ∧
        prepared.committedCount = current.transactions.countP (·.IsCommitted) ∧
        prepared.unresolvedCount = current.transactions.countP (¬·.IsCommitted) ∧
        ∀ (SourceError : Type) (allocate : AllocateRestartEpoch SourceError)
          (identity : CoordinatorIdentity) (attemptCount : Nat)
          (coordinator : TransactionCoordinator)
          (summary : TransactionRestartRestorationSummary),
          (restoreTransactionRestartState allocate identity baseline current
            attemptCount = .restored coordinator summary ↔
            attemptCount < u64Max ∧ ∃ epoch,
              allocate (prepared.highestPersistedTransaction.map (·.epoch)) =
                .ok (epoch, lineage) ∧
              (∀ transaction, Persisted records baseline transaction →
                transaction.epoch.get < epoch.get) ∧
              coordinator = .fromAllocatedEpoch identity epoch lineage ∧
              summary = prepared.summarize epoch attemptCount) ∧
          (restoreTransactionRestartState allocate identity baseline current
            attemptCount = .restored coordinator summary →
            (∀ transaction, Persisted records baseline transaction →
              transaction.epoch.get < coordinator.epoch.get) ∧
            ∀ (World LogError SessionStoreError LookupError : Type) (sessionWidth : Nat)
              (ports : Ports sessionWidth World LogError SessionStoreError LookupError)
              (session : Session sessionWidth World)
              (calls : List (Call sessionWidth World)),
              session.runtime.coordinator = coordinator →
              ∀ id ∈ emitted (perform ports) issuedTransaction session calls,
                ∀ transaction, Persisted records baseline transaction →
                  id ≠ ⟨transaction.epoch, transaction.sequence⟩) := by
  rcases (deriveRestartCheckpointCompletenessBaselineEvidence_ok_iff valid).mp
    derived with ⟨selected, ⟨rest, rfl⟩, _, checkpoint⟩
  rcases exists_tableOf (selected ++ rest) with ⟨transactions, table⟩
  let current : RestartAnalysis :=
    ⟨lineage, lastPosition (selected ++ rest), transactions⟩
  have tableOf : TableOf (selected ++ rest) current.transactions := table
  have analyzed : analyzeDurableTransactionRestartEvidence lineage
      (lastPosition (selected ++ rest)) (selected ++ rest) = .ok current :=
    analyzeDurableTransactionRestartEvidence_ok_iff.mpr ⟨valid, rfl, rfl, rfl, table⟩
  rcases prepareTransactionRestartRestorationEvidence_ok valid checkpoint rfl rfl
    tableOf with ⟨prepared, isPrepared, ownLineage, total, committed, unresolved, admits⟩
  refine ⟨current, prepared, analyzed, table, isPrepared, total, committed,
    unresolved, ?_⟩
  intro SourceError allocate identity attemptCount coordinator summary
  have restored :
      restoreTransactionRestartState allocate identity baseline current attemptCount =
      .restored coordinator summary ↔ _ :=
        restoreTransactionRestartState_restored_iff isPrepared
  simp only [ownLineage, admits] at restored
  refine ⟨restored, fun isRestored => ?_⟩
  rcases restored.mp isRestored with ⟨_, epoch, _, above, rfl, _⟩
  refine ⟨above, ?_⟩
  intro World LogError SessionStoreError LookupError sessionWidth ports session
    calls opened id issued transaction persisted same
  have ofEpoch := epoch_of_emitted ports session calls id issued
  rw [opened, same] at ofEpoch
  have ofEpoch : transaction.epoch = epoch := ofEpoch
  have apart := above transaction persisted
  rw [ofEpoch] at apart
  exact lt_irrefl _ apart

end Result

section Example

def restoredTransaction : DurableTransactionIdentityObservation := ⟨.min, .min⟩

def restoredPage : DurableTransactionPageObservation 1 :=
  ⟨restoredTransaction,
    ⟨.min, ⟨0⟩, Bytes.singleton 7, ⟨.persistent .min, 1⟩, u64_one_ne_zero⟩⟩

def restoredCommit : DurableTransactionCommitObservation :=
  ⟨restoredTransaction, ⟨.persistent .min, 2⟩, u64_two_ne_zero⟩

def restoredPrefix : List (DurableTransactionRestartObservation 1) :=
  [.transactionPage restoredPage, .commit restoredCommit]

theorem restoredPrefix_valid : ValidPrefix (.persistent .min) restoredPrefix where
  own := by decide
  ordered := by decide
  final := by simp [restoredPrefix, DurableTransactionRestartObservation.commitRecord]

def emptyPageStore : ObservePage 1 Unit := fun _ => .ok none

/-- A transaction that was open at the checkpoint and committed after it. -/
theorem committed_after_checkpoint_is_restored :
    ∃ baseline current prepared,
      deriveRestartCheckpointCompletenessBaselineEvidence (.persistent .min)
          (lastPosition restoredPrefix) restoredPrefix emptyPageStore
            (some 1) = .ok baseline ∧
        prepareTransactionRestartRestorationEvidence baseline current = .ok prepared ∧
        prepared.committedCount = 1 := by
  have succeeds : (deriveRestartCheckpointCompletenessBaselineEvidence (.persistent .min)
      (lastPosition restoredPrefix) restoredPrefix emptyPageStore
        (some 1)).toOption.isSome := by
    decide +kernel
  cases derived : deriveRestartCheckpointCompletenessBaselineEvidence (.persistent .min)
      (lastPosition restoredPrefix) restoredPrefix emptyPageStore (some 1) with
  | error cause =>
      rw [derived] at succeeds
      cases succeeds
  | ok baseline =>
      rcases restoration_is_total_and_exact restoredPrefix_valid derived with
        ⟨current, prepared, analyzed, _, isPrepared, _, committed, _⟩
      have isCurrent : analyzeDurableTransactionRestartEvidence (.persistent .min)
          (lastPosition restoredPrefix) restoredPrefix =
            .ok ⟨.persistent .min, some restoredCommit.position,
              [⟨restoredTransaction, some restoredPage.position,
                some restoredPage.position, 1, .committed restoredCommit.position⟩]⟩ := by
        decide +kernel
      have same := Except.ok.inj (analyzed.symm.trans isCurrent)
      rw [same] at committed
      exact ⟨baseline, current, prepared, rfl, isPrepared, committed⟩

end Example

end Ntsql.Transaction
