import Ntsql.Recovery.Live

/-! # What a live operation can do

One equivalence for each operation says when it succeeds and what it leaves.
Every later proof about a step starts from these and never unfolds an
operation again. -/

namespace Ntsql.Recovery

variable {model final : RecoveryModel}

namespace RecoveryModel

/-- The phases in which live operations are legal. -/
def IsLive (model : RecoveryModel) : Prop :=
  model.phase = .live ∨ model.phase = .completeLive

instance (model : RecoveryModel) : Decidable model.IsLive :=
  inferInstanceAs (Decidable (_ ∨ _))

theorem requirePhase_ok_iff {allowed : List RecoveryPhase} {operation : String}
    {value : Unit} :
    model.requirePhase allowed operation = .ok value ↔ model.phase ∈ allowed := by
  simp [requirePhase]

theorem requireLiveOrComplete_ok_iff {operation : String} {value : Unit} :
    model.requireLiveOrComplete operation = .ok value ↔ model.IsLive := by
  simp [requireLiveOrComplete, requirePhase_ok_iff, IsLive]

end RecoveryModel

open RecoveryModel Operation

theorem allocatePosition_ok_iff {position : WalPosition} :
    allocatePosition model = .ok position final ↔
      model.nextPosition = some position.get ∧
        final = { model with nextPosition := checkedSucc position.get } := by
  simp only [allocatePosition, get_bind, check_bind_ok_iff, set_bind, check_ok_iff,
    okOr_ok_iff, WalPosition.new_eq_some]
  constructor
  · intro succeeds
    rcases succeeds with ⟨value, next, equal, rfl⟩
    rw [equal]
    exact ⟨next, rfl⟩
  · intro succeeds
    rcases succeeds with ⟨next, rfl⟩
    exact ⟨_, next, rfl, rfl⟩

theorem allocatePosition_bind_ok_iff {next : WalPosition → ModelM α} {value : α} :
    (allocatePosition >>= next) model = .ok value final ↔
      ∃ position : WalPosition, model.nextPosition = some position.get ∧
        next position { model with nextPosition := checkedSucc position.get } =
          .ok value final := by
  simp only [bind_ok_iff, allocatePosition_ok_iff]
  constructor
  · intro succeeds
    rcases succeeds with ⟨position, _, ⟨next, rfl⟩, rest⟩
    exact ⟨position, next, rest⟩
  · intro succeeds
    rcases succeeds with ⟨position, next, rest⟩
    exact ⟨position, _, ⟨next, rfl⟩, rest⟩

theorem allocateCoordinatorEpoch_ok_iff {epoch : U64} :
    allocateCoordinatorEpoch model = .ok epoch final ↔
      model.IsLive ∧ model.nextEpoch = some epoch ∧
        final = { model with
          nextEpoch := checkedSucc epoch
          currentEpoch := some epoch
          nextSequence := some 1
          epochHighWater :=
            raiseHighWater model.epochHighWater epoch }.markCompletionStale
            "epoch allocated" := by
  simp only [allocateCoordinatorEpoch, get_bind, check_bind_ok_iff, set_bind, okOr_ok_iff,
    pure_apply, ok_iff, requireLiveOrComplete_ok_iff]
  constructor
  · intro succeeds
    rcases succeeds with ⟨_, live, _, next, rfl, rfl⟩
    exact ⟨live, next, rfl⟩
  · intro succeeds
    rcases succeeds with ⟨live, next, rfl⟩
    exact ⟨(), live, epoch, next, rfl, rfl⟩

theorem beginTransaction_ok_iff {id : TransactionId} :
    beginTransaction model = .ok id final ↔
      model.IsLive ∧ model.currentEpoch = some id.epoch ∧
        model.nextSequence = some id.sequence ∧ id ∉ model.activeTransactions ∧
        final = { model with
          nextSequence := checkedSucc id.sequence
          activeTransactions :=
            model.activeTransactions.insert id [] }.markCompletionStale
            "transaction begun" := by
  simp only [beginTransaction, get_bind, check_bind_ok_iff, set_bind, modify_bind,
    okOr_ok_iff, pure_apply, ok_iff, requireLiveOrComplete_ok_iff, rejectIf_ok_iff,
    TransactionId.new_eq_some, Std.ExtTreeMap.contains_iff_mem]
  constructor
  · intro succeeds
    rcases succeeds with ⟨_, live, _, current, _, next, _, ⟨rfl, rfl⟩, _, fresh, rfl, rfl⟩
    exact ⟨live, current, next, fresh, rfl⟩
  · intro succeeds
    rcases succeeds with ⟨live, current, next, fresh, rfl⟩
    exact ⟨(), live, _, current, _, next, id, ⟨rfl, rfl⟩, (), fresh, rfl, rfl⟩

theorem appendTransactionPage_ok_iff {txn : TransactionId} {page : PageId} {value : U64}
    {version : PageVersion} {position : WalPosition} :
    appendTransactionPage txn page value version model = .ok position final ↔
      ∃ positions, model.IsLive ∧ model.activeTransactions[txn]? = some positions ∧
        model.nextPosition = some position.get ∧
        final = { model with
          nextPosition := checkedSucc position.get
          walRecords := model.walRecords ++
            [model.transactionPageRecord position txn page value version]
          activeTransactions :=
            model.activeTransactions.insert txn (positions ++ [position])
            }.markCompletionStale "page appended" := by
  simp only [appendTransactionPage, get_bind, check_bind_ok_iff, modify_bind, pure_apply,
    ok_iff, requireLiveOrComplete_ok_iff, rejectIf_ok_iff, not_not,
    allocatePosition_bind_ok_iff]
  constructor
  · intro succeeds
    rcases succeeds with ⟨_, live, _, active, _, next, rfl, rfl⟩
    rcases Option.isSome_iff_exists.mp
      (Std.ExtTreeMap.contains_eq_isSome_getElem?.symm.trans active) with
        ⟨positions, found⟩
    refine ⟨positions, live, found, next, ?_⟩
    simp [pushRecord, pushActivePosition, found, transactionPageRecord]
  · intro succeeds
    rcases succeeds with ⟨positions, live, found, next, rfl⟩
    have active : model.activeTransactions.contains txn = true := by
      rw [Std.ExtTreeMap.contains_eq_isSome_getElem?, found]
      rfl
    refine ⟨(), live, (), active, position, next, rfl, ?_⟩
    simp [pushRecord, pushActivePosition, found, transactionPageRecord]

theorem appendTransactionCommit_ok_iff {txn : TransactionId} {position : WalPosition} :
    appendTransactionCommit txn model = .ok position final ↔
      model.IsLive ∧ txn ∈ model.activeTransactions ∧
        txn ∉ model.committedTransactions ∧ model.nextPosition = some position.get ∧
        final = { model with
          nextPosition := checkedSucc position.get
          walRecords := model.walRecords ++ [model.transactionCommitRecord position txn]
          committedTransactions := model.committedTransactions.insert txn position
          activeTransactions := model.activeTransactions.erase txn }.markCompletionStale
            "commit appended" := by
  simp only [appendTransactionCommit, get_bind, check_bind_ok_iff, modify_bind,
    pure_apply, ok_iff, requireLiveOrComplete_ok_iff, rejectIf_ok_iff, not_not,
    allocatePosition_bind_ok_iff, Std.ExtTreeMap.contains_iff_mem]
  constructor
  · intro succeeds
    rcases succeeds with ⟨_, live, _, active, _, undecided, _, next, rfl, rfl⟩
    exact ⟨live, active, undecided, next, rfl⟩
  · intro succeeds
    rcases succeeds with ⟨live, active, undecided, next, rfl⟩
    exact ⟨(), live, (), active, (), undecided, position, next, rfl, rfl⟩

theorem appendRawPage_ok_iff {page : PageId} {value : U64} {version : PageVersion}
    {position : WalPosition} :
    appendRawPage page value version model = .ok position final ↔
      model.IsLive ∧ model.nextPosition = some position.get ∧
        final = { model with
          nextPosition := checkedSucc position.get
          walRecords :=
            model.walRecords ++ [model.rawPageRecord position page value version]
            }.markCompletionStale "raw page appended" := by
  simp only [appendRawPage, get_bind, check_bind_ok_iff, modify_bind, pure_apply, ok_iff,
    requireLiveOrComplete_ok_iff, allocatePosition_bind_ok_iff]
  constructor
  · intro succeeds
    rcases succeeds with ⟨_, live, _, next, rfl, rfl⟩
    exact ⟨live, next, rfl⟩
  · intro succeeds
    rcases succeeds with ⟨live, next, rfl⟩
    exact ⟨(), live, position, next, rfl, rfl⟩

namespace RecoveryModel

/-- The model once the WAL is flushed through its last record, if it has one. -/
def afterFlush (model : RecoveryModel) : RecoveryModel :=
  match model.walRecords.getLast? with
  | some record =>
      { model with
        flushPosition := some record.position
        logicalHighWater := some record.position }
  | none => model

end RecoveryModel

theorem flushWal_ok_iff {flushed : Option WalPosition} :
    flushWal model = .ok flushed final ↔
      model.IsLive ∧ final = model.afterFlush ∧
        flushed = model.afterFlush.flushPosition := by
  simp only [flushWal, get_bind, check_bind_ok_iff, requireLiveOrComplete_ok_iff]
  unfold RecoveryModel.afterFlush
  cases model.walRecords.getLast? with
  | none =>
      simp only [pure_apply, ok_iff]
      constructor
      · intro succeeds
        rcases succeeds with ⟨_, live, rfl, rfl⟩
        exact ⟨live, rfl, rfl⟩
      · intro succeeds
        rcases succeeds with ⟨live, rfl, rfl⟩
        exact ⟨(), live, rfl, rfl⟩
  | some record =>
      simp only [set_bind, pure_apply, ok_iff]
      constructor
      · intro succeeds
        rcases succeeds with ⟨_, live, rfl, rfl⟩
        exact ⟨live, rfl, rfl⟩
      · intro succeeds
        rcases succeeds with ⟨live, rfl, rfl⟩
        exact ⟨(), live, rfl, rfl⟩

/-! ## Page-store writes and publication -/

theorem mem_toList_iff {Key Value : Type} [LinearOrder Key] [Std.LawfulEqOrd Key]
    {entries : BTreeMap Key Value} {entry : Key × Value} :
    entry ∈ entries.toList ↔ entries[entry.1]? = some entry.2 :=
  Std.ExtTreeMap.mem_toList_iff_getElem?_eq_some

/-- A record of the given log and lineage with its kind's shape. -/
structure WalRecord.AcceptedBy (record : WalRecord) (logId : LogId)
    (lineageId : LineageId) : Prop where
  logId_eq : record.logId = logId
  lineageId_eq : record.lineageId = lineageId
  shape : record.HasShape

abbrev RecoveryModel.Accepts (model : RecoveryModel) (record : WalRecord) : Prop :=
  record.AcceptedBy model.logId model.lineageId

theorem validateRecordShape_ok_iff {record : WalRecord} {value : Unit} :
    validateRecordShape record = .ok value ↔ record.HasShape := by
  simp [validateRecordShape]

structure WalRecord.Carries (record : WalRecord) (page : PageId) (value : U64)
    (version : PageVersion) : Prop where
  page_eq : record.page = some page
  value_eq : record.pageValue = some value
  version_eq : record.pageVersion = some version

theorem checkPageWrite_ok {position : WalPosition} {snapshot : PageSnapshot}
    (accepted : model.checkPageWrite position = .ok snapshot) :
    ∃ record page value version,
      model.recordAt position = some record ∧ record.Carries page value version ∧
        (∃ frontier ∈ model.flushPosition, position ≤ frontier ∧
          (record.kind = .rawPage ∨ record.kind = .transactionPage ∧
            ∃ txn, record.transaction = some txn ∧ model.HasExactCommit frontier txn)) ∧
        (∀ current ∈ model.pageStore[page]?, current.writtenAt ≤ position) ∧
        snapshot = model.snapshotOf page value position version := by
  simp only [checkPageWrite, Except.bind_ok_iff, okOr_ok_iff, rejectIf_ok_iff] at accepted
  rcases accepted with ⟨record, found, _, _, _, _, frontier, reached, rest⟩
  have durable : frontier ∈ model.flushPosition ∧ position ≤ frontier := by
    unfold durableFrontierAt at reached
    split at reached
    · rename_i limit kept
      cases reached
      simpa [Option.filter_eq_some_iff] using kept
    · split at reached <;> cases reached
  have notOlder : ∀ page, model.rejectRegression page position = .ok () →
      ∀ current ∈ model.pageStore[page]?, current.writtenAt ≤ position := by
    intro page passes current member
    simpa [rejectRegression, Option.mem_def.mp member] using passes
  split at rest
  · rename_i kind
    simp only [Except.bind_ok_iff, okOr_ok_iff, rejectIf_ok_iff, not_not,
      Except.pure_ok_iff] at rest
    rcases rest with ⟨txn, owner, page, pageEq, value, valueEq, version, versionEq, _,
      committed, _, passes, rfl⟩
    exact ⟨record, page, value, version, found, ⟨pageEq, valueEq, versionEq⟩,
      ⟨frontier, durable.1, durable.2, .inr ⟨kind, txn, owner, committed⟩⟩,
      notOlder page passes, rfl⟩
  · rename_i kind
    simp only [Except.bind_ok_iff, okOr_ok_iff, rejectIf_ok_iff, Except.pure_ok_iff]
      at rest
    rcases rest with
      ⟨_, _, page, pageEq, value, valueEq, version, versionEq, _, passes, rfl⟩
    exact ⟨record, page, value, version, found, ⟨pageEq, valueEq, versionEq⟩,
      ⟨frontier, durable.1, durable.2, .inl kind⟩, notOlder page passes, rfl⟩
  · cases rest

theorem writePageStore_ok_iff {position : WalPosition} {page : PageId} :
    writePageStore position model = .ok page final ↔
      ∃ snapshot, model.IsLive ∧ model.checkPageWrite position = .ok snapshot ∧
        page = snapshot.pageId ∧
        final = { model with
          pageStore :=
            model.pageStore.insert snapshot.pageId snapshot }.markCompletionStale
            "page store written" := by
  simp only [writePageStore, get_bind, check_bind_ok_iff, set_bind, pure_apply, ok_iff,
    requireLiveOrComplete_ok_iff]
  constructor
  · intro succeeds
    rcases succeeds with ⟨_, live, snapshot, accepted, rfl, rfl⟩
    exact ⟨snapshot, live, accepted, rfl, rfl⟩
  · intro succeeds
    rcases succeeds with ⟨snapshot, live, accepted, rfl, rfl⟩
    exact ⟨(), live, snapshot, accepted, rfl, rfl⟩

theorem publishCheckpoint_ok_iff {anchor : CheckpointAnchor} {value : Unit} :
    publishCheckpoint anchor model = .ok value final ↔
      model.IsLive ∧
        final = { model with
          checkpointSlot := some (model.checkpointSnapshot anchor) }.markCompletionStale
            "checkpoint published" := by
  simp only [publishCheckpoint, get_bind, check_bind_ok_iff, set_apply, ok_iff, true_and,
    requireLiveOrComplete_ok_iff]
  simp

theorem lowerEarliest_eq (earliest : Option WalPosition) (position : WalPosition) :
    lowerEarliest earliest position =
      some (earliest.elim position fun least => min least position) := by
  cases earliest <;> rfl

theorem isFloor_lowerEarliest {sources : Set WalPosition} {earliest : Option WalPosition}
    (isFloor : IsFloor sources earliest) (position : WalPosition) :
    IsFloor (sources ∪ {source | some position = some source})
      (lowerEarliest earliest position) := by
  have singleton : {source | some position = some source} = {position} := by
    ext source
    simp [eq_comm]
  rw [lowerEarliest_eq, singleton, Set.union_singleton]
  exact isFloor.insert position

/-- The replay start is the least durable page record the store lags behind. -/
theorem computeReplayStart_isFloor {frontier : WalPosition}
    (flushed : model.flushPosition = some frontier) :
    IsFloor {source | ∃ record ∈ model.walRecords,
      model.NeedsReplay frontier record ∧ record.position = source}
        model.computeReplayStart := by
  have visited : ∀ (records : List WalRecord) (sources : Set WalPosition)
      (earliest : Option WalPosition), IsFloor sources earliest →
      IsFloor (sources ∪ {source | ∃ record ∈ records,
        model.NeedsReplay frontier record ∧ record.position = source})
        (records.foldl (fun earliest record =>
          if model.NeedsReplay frontier record then lowerEarliest earliest record.position
          else earliest) earliest) := by
    intro records
    induction records with
    | nil =>
        intro sources earliest isFloor
        simpa using isFloor
    | cons record records induction =>
        intro sources earliest isFloor
        rw [List.foldl_cons]
        by_cases needed : model.NeedsReplay frontier record
        · rw [if_pos needed]
          have rest := induction _ _ (isFloor_lowerEarliest isFloor record.position)
          refine Eq.subst (motive := fun sources => IsFloor sources _) ?_ rest
          ext source
          simp only [Set.mem_union, Set.mem_ofPred_eq, Option.some.injEq,
            List.exists_mem_cons_iff, needed, true_and, or_assoc]
        · rw [if_neg needed]
          have rest := induction _ _ isFloor
          refine Eq.subst (motive := fun sources => IsFloor sources _) ?_ rest
          ext source
          simp [needed]
  have empty : IsFloor (∅ : Set WalPosition) none := rfl
  have all := visited model.walRecords ∅ none empty
  rw [Set.empty_union] at all
  simpa only [computeReplayStart, flushed] using all

theorem foldl_insert_getElem? {Key Value : Type} [LinearOrder Key] [Std.LawfulEqOrd Key]
    {entries : List (Key × Value)}
    (distinct : entries.Pairwise fun left right => ¬compare left.1 right.1 = .eq)
    (base : BTreeMap Key Value) {key : Key} {overlay : Option Value}
    (isOverlay : ∀ value, overlay = some value ↔ (key, value) ∈ entries) :
    (entries.foldl (fun map entry => map.insert entry.1 entry.2) base)[key]? =
      overlay.or base[key]? := by
  induction entries generalizing base overlay with
  | nil =>
      have none : overlay = none := by
        apply Option.eq_none_iff_forall_ne_some.mpr
        intro value isValue
        cases (isOverlay value).mp isValue
      rw [none]
      rfl
  | cons entry entries induction =>
      have parts := List.pairwise_cons.mp distinct
      rw [List.foldl_cons]
      by_cases same : entry.1 = key
      · subst same
        have isEntry : overlay = some entry.2 :=
          (isOverlay entry.2).mpr List.mem_cons_self
        have absent : ∀ value, (none : Option Value) = some value ↔
            (entry.1, value) ∈ entries := by
          intro value
          simp only [reduceCtorEq, false_iff]
          intro member
          exact parts.1 _ member (compare_eq_iff_eq.mpr rfl)
        rw [induction parts.2 _ absent, isEntry]
        simp
      · have rest : ∀ value, overlay = some value ↔ (key, value) ∈ entries := by
          intro value
          rw [isOverlay value, List.mem_cons]
          constructor
          · intro member
            rcases member with equal | later
            · exact absurd (congrArg Prod.fst equal).symm same
            · exact later
          · exact .inr
        rw [induction parts.2 _ rest, Std.ExtTreeMap.getElem?_insert]
        simp [same]

theorem checkpointTransactions_getElem? (txn : TransactionId) :
    model.checkpointTransactions[txn]? =
      model.activeTransactions[txn]?.or model.persistedTransactions[txn]? := by
  have listed (positions : List WalPosition) :
      model.activeTransactions[txn]? = some positions ↔
        (txn, positions) ∈ model.activeTransactions.toList :=
    Std.ExtTreeMap.mem_toList_iff_getElem?_eq_some.symm
  exact foldl_insert_getElem? Std.ExtTreeMap.distinct_keys_toList
    model.persistedTransactions listed

end Ntsql.Recovery
