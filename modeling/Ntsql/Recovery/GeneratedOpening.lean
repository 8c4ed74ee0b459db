import Ntsql.Recovery.GeneratedModel
import Ntsql.Recovery.TraceExecution
import Ntsql.Recovery.TraceGeneration

/-! # Up to the publication of a generated trace

One committed page and one raw page are logged, flushed and written; raw pages
follow, each flushed. What is published then leaves only raw pages open. -/

namespace Ntsql.Recovery

variable {model final : RecoveryModel} {anchor : CheckpointAnchor}

open RecoveryModel Operation

namespace RecoveryModel

/-- Before the publication: every transaction is decided, written and older
than every raw page. -/
structure Drafted (model : RecoveryModel) : Prop where
  live : model.phase = .live
  openable : model.Openable
  unpublished : model.checkpointSlot = none
  initial : model.walGeneration.isZero = true
  undecided : model.activeTransactions = ∅
  unrestored : model.persistedTransactions = ∅
  recorded : model.walRecords ≠ []
  rawLast : ∀ record ∈ model.walRecords, ∀ other ∈ model.walRecords,
    record.kind = .rawPage → other.kind ≠ .rawPage → other.position < record.position
  written : ∀ record ∈ model.walRecords, record.kind = .transactionPage →
    ∀ page ∈ record.page, StoreHolds model.pageStore page record.position

namespace Drafted

theorem appendRawPage (drafted : model.Drafted) {page : PageId} {value : U64}
    {version : PageVersion} {response : Response}
    (effect : Effect model (.appendRawPage page value version) response final) :
      final.Drafted := by
  have openable := drafted.openable.effect effect
  cases effect with
  | @appendRawPage _ _ _ position live next =>
      have log := drafted.openable.sound.log
      refine
        { drafted with
          openable := openable
          recorded := List.append_ne_nil_of_right_ne_nil _ (List.cons_ne_nil _ _)
          rawLast := ?_
          written := ?_ }
      · intro record member other otherMember raw notRaw
        rcases List.mem_append.mp otherMember with otherEarlier | otherLast
        · rcases List.mem_append.mp member with earlier | last
          · exact drafted.rawLast record earlier other otherEarlier raw notRaw
          · rw [List.mem_singleton.mp last]
            exact log.below position.get next other otherEarlier
        · rw [List.mem_singleton.mp otherLast] at notRaw
          exact absurd rfl notRaw
      · intro record member isPage page isTarget
        rcases List.mem_append.mp member with earlier | last
        · exact drafted.written record earlier isPage page isTarget
        · rw [List.mem_singleton.mp last] at isPage
          cases isPage

theorem flushWal (drafted : model.Drafted) {response : Response}
    (effect : Effect model .flushWal response final) : final.Drafted := by
  have openable := drafted.openable.effect effect
  cases effect with
  | flushWal live =>
      unfold afterFlush at openable ⊢
      split
      · rename_i isLast
        rw [isLast] at openable
        exact { drafted with openable := openable }
      · exact drafted

theorem raw_of_needsReplay (drafted : model.Drafted) {frontier : WalPosition}
    {record : WalRecord} (member : record ∈ model.walRecords)
    (needed : model.NeedsReplay frontier record) :
    record.kind = .rawPage := by
  rcases needed with ⟨_, isPage | raw, page, isTarget, lags⟩
  · exact absurd lags
      (LatestImage.not_lags_iff.mpr (drafted.written record member isPage page isTarget))
  · exact raw

/-- What the publication leaves open was logged after every transaction. -/
theorem keeps (drafted : model.Drafted) (flushed : model.AllFlushed) :
    model.Keeps (model.checkpointSnapshot anchor) where
  frontier := by
    have last := flushed.getLast drafted.openable.sound.log drafted.recorded
    rw [checkpointSnapshot_frontier, ← last]
    intro position isLast
    rcases Option.map_eq_some_iff.mp isLast with ⟨record, isRecord, isPosition⟩
    exact ⟨record, List.mem_of_getLast? isRecord, isPosition⟩
  replayStart := by
    intro position isStart
    change model.computeReplayStart = some position at isStart
    cases frontier : model.flushPosition with
    | none =>
        rw [computeReplayStart, frontier] at isStart
        cases isStart
    | some limit =>
        have isFloor := computeReplayStart_isFloor frontier
        rw [isStart] at isFloor
        rcases isFloor.mem with ⟨record, member, _, isPosition⟩
        exact ⟨record, member, isPosition⟩
  undecided := by
    apply Std.ExtTreeMap.ext_getElem?
    intro txn
    change model.checkpointTransactions[txn]? = _
    rw [checkpointTransactions_getElem?, drafted.undecided, drafted.unrestored,
      Std.ExtTreeMap.getElem?_empty]
    rfl
  rawWindow := by
    intro record member inWindow
    rcases flushed record member with ⟨limit, frontier, below⟩
    have isFloor := computeReplayStart_isFloor frontier
    have startEq :
        (model.checkpointSnapshot anchor).replayStart = model.computeReplayStart := rfl
    cases start : model.computeReplayStart with
    | none =>
        rw [CheckpointSnapshot.InWindow, startEq, start, checkpointSnapshot_frontier,
          frontier] at inWindow
        exact absurd below (not_le.mpr inWindow)
    | some replayStart =>
        rw [CheckpointSnapshot.InWindow, startEq, start] at inWindow
        rw [start] at isFloor
        rcases isFloor.mem with ⟨first, isRecord, needed, rfl⟩
        have raw := drafted.raw_of_needsReplay isRecord needed
        by_contra notRaw
        exact absurd inWindow
          (not_le.mpr (drafted.rawLast first isRecord record member raw notRaw))
  agrees := by
    intro page checkpointed snapshot isCheckpointed stored
    exact .inl (Option.some.inj (isCheckpointed.symm.trans stored))

theorem publish (drafted : model.Drafted) (flushed : model.AllFlushed)
    {response : Response}
    (effect : Effect model (.publishCheckpoint anchor) response final) :
      final.Kept anchor := by
  have sound := drafted.openable.sound
  have openable := drafted.openable.effect effect
  have unanchored : model.Anchored anchor := by
    constructor
    · intro checkpoint isSlot
      rw [drafted.unpublished] at isSlot
      cases isSlot
    · intro pruned
      cases drafted.initial.symm.trans pruned
  have anchored : final.Anchored anchor := unanchored.effect sound effect
    (fun other same => by cases same; rfl)
  have unlisted : model.ListsFlushed := by
    intro _ checkpoint isSlot
    rw [drafted.unpublished] at isSlot
    cases isSlot
  have lists : final.ListsFlushed := unlisted.effect drafted.openable effect (by
    intro other _ _ entry member
    rw [drafted.undecided] at member
    cases member)
  cases effect with
  | publishCheckpoint live =>
      exact ⟨openable, anchored, lists, drafted.unrestored, _, rfl,
        { drafted.keeps flushed with }⟩

end Drafted

end RecoveryModel

/-! ## The first operations -/

namespace Sample

def third : WalPosition := ⟨3, by decide⟩

def secondPage : PageId := ⟨2, u64_two_ne_zero⟩

end Sample

section Work

variable (logId : LogId) (pageValue rawValue : U64)

/-- One committed page and one raw page, flushed. -/
def workTrace : List TraceOp :=
  [.allocateEpoch, .beginTransaction, .appendTransactionPage 0 1 pageValue 1,
    .appendTransactionCommit 0, .appendRawPage 2 rawValue 1, .flushWal]

def begunModel : RecoveryModel :=
  { RecoveryModel.new logId with
    currentEpoch := some 1
    nextEpoch := some 2
    nextSequence := some 2
    epochHighWater := some 1
    activeTransactions := (∅ : TransactionPositions).insert Sample.transaction [] }

def pageRecord : WalRecord :=
  ⟨logId, ⟨0⟩, Sample.first, .transactionPage, some Sample.transaction, some Sample.page,
    some pageValue, some ⟨1⟩⟩

def commitRecord : WalRecord :=
  ⟨logId, ⟨0⟩, Sample.second, .transactionCommit, some Sample.transaction,
    none, none, none⟩

def rawRecord : WalRecord :=
  ⟨logId, ⟨0⟩, Sample.third, .rawPage, none, some Sample.secondPage,
    some rawValue, some ⟨1⟩⟩

def pagedModel : RecoveryModel :=
  { begunModel logId with
    nextPosition := some 2
    walRecords := [pageRecord logId pageValue]
    activeTransactions :=
      (begunModel logId).activeTransactions.insert Sample.transaction [Sample.first] }

def committedModel : RecoveryModel :=
  { pagedModel logId pageValue with
    nextPosition := some 3
    walRecords := [pageRecord logId pageValue, commitRecord logId]
    activeTransactions :=
      (pagedModel logId pageValue).activeTransactions.erase Sample.transaction
    committedTransactions :=
      (∅ : BTreeMap TransactionId WalPosition).insert Sample.transaction Sample.second }

def workedModel : RecoveryModel :=
  { committedModel logId pageValue with
    nextPosition := some 4
    walRecords :=
      [pageRecord logId pageValue, commitRecord logId, rawRecord logId rawValue]
    flushPosition := some Sample.third
    logicalHighWater := some Sample.third }

def workedRun : TraceRun where
  model := workedModel logId pageValue rawValue
  txnIds := [Sample.transaction]
  pagePositions := [Sample.first, Sample.second, Sample.third]
  pageVersionCounter := 0

theorem workTrace_executes (seed : U64) (ops rest : List TraceOp) (index : Nat) :
    executeFrom seed ops index (workTrace pageValue rawValue ++ rest)
      (TraceRun.new logId) =
      executeFrom seed ops (index + 6) rest (workedRun logId pageValue rawValue) := by
  have allocated : TraceOp.allocateEpoch.execute (TraceRun.new logId) =
      .ok () ⟨{ begunModel logId with
        nextSequence := some 1
        activeTransactions := ∅ }, [], [], 0⟩ := execute_plain rfl rfl
  have begun : TraceOp.beginTransaction.execute ⟨{ begunModel logId with
        nextSequence := some 1
        activeTransactions := ∅ }, [], [], 0⟩ =
      .ok () ⟨begunModel logId, [Sample.transaction], [], 0⟩ :=
    execute_beginTransaction (beginTransaction_ok_iff.mpr
      ⟨.inl rfl, rfl, rfl, Std.ExtTreeMap.not_mem_empty, rfl⟩)
  have paged : (TraceOp.appendTransactionPage 0 Sample.page.get pageValue 1).execute
      ⟨begunModel logId, [Sample.transaction], [], 0⟩ =
        .ok () ⟨pagedModel logId pageValue, [Sample.transaction], [Sample.first], 0⟩ :=
    execute_appendTransactionPage rfl (appendTransactionPage_ok_iff.mpr
      ⟨[], .inl rfl, Std.ExtTreeMap.getElem?_insert_self, rfl, rfl⟩)
  have committed : (TraceOp.appendTransactionCommit 0).execute
      ⟨pagedModel logId pageValue, [Sample.transaction], [Sample.first], 0⟩ =
        .ok () ⟨committedModel logId pageValue, [Sample.transaction],
          [Sample.first, Sample.second], 0⟩ :=
    execute_appendTransactionCommit rfl (appendTransactionCommit_ok_iff.mpr
      ⟨.inl rfl, Std.ExtTreeMap.mem_insert_self, Std.ExtTreeMap.not_mem_empty, rfl, rfl⟩)
  have logged : (TraceOp.appendRawPage Sample.secondPage.get rawValue 1).execute
      ⟨committedModel logId pageValue, [Sample.transaction],
        [Sample.first, Sample.second], 0⟩ =
        .ok () ⟨{ workedModel logId pageValue rawValue with
          flushPosition := none
          logicalHighWater := none }, [Sample.transaction],
          [Sample.first, Sample.second, Sample.third], 0⟩ :=
    execute_appendRawPage (appendRawPage_ok_iff.mpr
      ⟨.inl rfl, rfl, rfl⟩)
  have flushed : TraceOp.flushWal.execute ⟨{ workedModel logId pageValue rawValue with
          flushPosition := none
          logicalHighWater := none }, [Sample.transaction],
          [Sample.first, Sample.second, Sample.third], 0⟩ =
      .ok () (workedRun logId pageValue rawValue) := execute_plain rfl rfl
  exact (executeFrom_cons allocated).trans <| (executeFrom_cons begun).trans <|
    (executeFrom_cons paged).trans <| (executeFrom_cons committed).trans <|
    (executeFrom_cons logged).trans (executeFrom_cons flushed)

def pageImage : PageSnapshot := ⟨logId, ⟨0⟩, Sample.page, pageValue, Sample.first, ⟨1⟩⟩

def rawImage : PageSnapshot :=
  ⟨logId, ⟨0⟩, Sample.secondPage, rawValue, Sample.third, ⟨1⟩⟩

def writtenModel : RecoveryModel :=
  { workedModel logId pageValue rawValue with
    pageStore := ((∅ : PageStore).insert Sample.page (pageImage logId pageValue)).insert
      Sample.secondPage (rawImage logId rawValue) }

def writtenRun : TraceRun :=
  { workedRun logId pageValue rawValue with
    model := writtenModel logId pageValue rawValue }

theorem checkPageWrite_page :
    (workedModel logId pageValue rawValue).checkPageWrite Sample.first =
    .ok (pageImage logId pageValue) := by
  have found : (workedModel logId pageValue rawValue).recordAt Sample.first =
      some (pageRecord logId pageValue) := rfl
  have durable : (workedModel logId pageValue rawValue).durableFrontierAt
      (pageRecord logId pageValue) Sample.first = .ok Sample.third := rfl
  have committed : (workedModel logId pageValue rawValue).HasExactCommit Sample.third
      Sample.transaction := by
    have below : Sample.second ≤ Sample.third := by decide
    refine ⟨commitRecord logId, ?_, below, rfl, rfl, rfl, rfl, rfl, rfl, rfl⟩
    simp [workedModel]
  have unwritten :
      (workedModel logId pageValue rawValue).rejectRegression Sample.page Sample.first =
      .ok () := rfl
  simp only [checkPageWrite, Except.bind_ok_iff, okOr_ok_iff, rejectIf_ok_iff, found]
  refine ⟨_, rfl, (), ?_, (), ?_, _, durable, ?_⟩
  · exact not_not.mpr rfl
  · rfl
  · simp only [pageRecord, Except.bind_ok_iff, okOr_ok_iff, rejectIf_ok_iff, not_not]
    exact ⟨_, rfl, _, rfl, _, rfl, _, rfl, (), committed, (), unwritten, rfl⟩

def halfWrittenModel : RecoveryModel :=
  { workedModel logId pageValue rawValue with
    pageStore := (∅ : PageStore).insert Sample.page (pageImage logId pageValue) }

theorem checkPageWrite_raw :
    (halfWrittenModel logId pageValue rawValue).checkPageWrite Sample.third =
      .ok (rawImage logId rawValue) := by
  have found : (halfWrittenModel logId pageValue rawValue).recordAt Sample.third =
      some (rawRecord logId rawValue) := rfl
  have durable : (halfWrittenModel logId pageValue rawValue).durableFrontierAt
      (rawRecord logId rawValue) Sample.third = .ok Sample.third := rfl
  have unwritten :
      (halfWrittenModel logId pageValue rawValue).rejectRegression Sample.secondPage
      Sample.third = .ok () := by
    have absent :
        (halfWrittenModel logId pageValue rawValue).pageStore[Sample.secondPage]? =
          none := by
      have other : Sample.page ≠ Sample.secondPage := by decide
      simp [halfWrittenModel, other]
    rw [rejectRegression, absent]
  simp only [checkPageWrite, Except.bind_ok_iff, okOr_ok_iff, rejectIf_ok_iff, found]
  refine ⟨_, rfl, (), ?_, (), ?_, _, durable, ?_⟩
  · exact not_not.mpr rfl
  · rfl
  · simp only [rawRecord, Except.bind_ok_iff, okOr_ok_iff]
    exact ⟨(), rfl, _, rfl, _, rfl, _, rfl, (), unwritten, rfl⟩

def openingTrace : List TraceOp :=
  workTrace pageValue rawValue ++ [.writePageStore 0, .writePageStore 2]

theorem openingTrace_executes (seed : U64) (ops rest : List TraceOp) :
    executeFrom seed ops 0 (openingTrace pageValue rawValue ++ rest)
      (TraceRun.new logId) =
      executeFrom seed ops 8 rest (writtenRun logId pageValue rawValue) := by
  have pageWritten :
      (TraceOp.writePageStore 0).execute (workedRun logId pageValue rawValue) =
      .ok () { workedRun logId pageValue rawValue with
        model := halfWrittenModel logId pageValue rawValue } :=
    execute_writePageStore rfl (writePageStore_ok_iff.mpr
      ⟨_, .inl rfl, checkPageWrite_page logId pageValue rawValue, rfl, rfl⟩)
  have rawWritten :
      (TraceOp.writePageStore 2).execute { workedRun logId pageValue rawValue with
        model := halfWrittenModel logId pageValue rawValue } =
      .ok () (writtenRun logId pageValue rawValue) :=
    execute_writePageStore rfl (writePageStore_ok_iff.mpr
      ⟨_, .inl rfl, checkPageWrite_raw logId pageValue rawValue, rfl, rfl⟩)
  rw [openingTrace, List.append_assoc, workTrace_executes]
  exact (executeFrom_cons pageWritten).trans (executeFrom_cons rawWritten)

theorem openable_executeFrom {seed : U64} {ops rest : List TraceOp} {index : Nat}
    {run final : TraceRun} (openable : run.model.Openable)
    (executes : executeFrom seed ops index rest run = .ok final) :
      final.model.Openable := by
  induction rest generalizing index run with
  | nil =>
      cases executes
      exact openable
  | cons op rest induction =>
      rw [executeFrom] at executes
      split at executes
      · rename_i next stepped
        rcases performs_of_execute openable.sound stepped with ⟨operations, _, performed⟩
        exact induction (openable.performAll performed) executes
      · cases executes

theorem writtenModel_drafted : (writtenModel logId pageValue rawValue).Drafted where
  live := rfl
  openable := by
    have executed := openingTrace_executes logId pageValue rawValue 0 [] []
    rw [List.append_nil] at executed
    exact openable_executeFrom (Openable.new logId) executed
  unpublished := rfl
  initial := rfl
  undecided := by
    apply Std.ExtTreeMap.ext_getElem?
    intro txn
    change ((((∅ : TransactionPositions).insert Sample.transaction []).insert
      Sample.transaction [Sample.first]).erase Sample.transaction)[txn]? = _
    by_cases same : Sample.transaction = txn
    · simp [same]
    · simp [same]
  unrestored := rfl
  recorded := List.cons_ne_nil _ _
  rawLast := by
    intro record member other otherMember raw notRaw
    simp only [writtenModel, workedModel, List.mem_cons, List.not_mem_nil, or_false]
      at member otherMember
    have before : Sample.first < Sample.third ∧ Sample.second < Sample.third := by decide
    rcases member with rfl | rfl | rfl
    · cases raw
    · cases raw
    · rcases otherMember with rfl | rfl | rfl
      · exact before.1
      · exact before.2
      · exact absurd rfl notRaw
  written := by
    intro record member isPage page isTarget
    simp only [writtenModel, workedModel, List.mem_cons, List.not_mem_nil, or_false]
      at member
    rcases member with rfl | rfl | rfl
    · cases isTarget
      refine ⟨pageImage logId pageValue, ?_, le_rfl⟩
      have other : compare Sample.secondPage Sample.page ≠ .eq := by decide
      exact Std.ExtTreeMap.getElem?_insert.trans
        ((if_neg other).trans Std.ExtTreeMap.getElem?_insert_self)
    · cases isPage
    · cases isPage

end Work

/-! ## The extra raw pages and the publication -/

/-- A raw page that goes in before the publication. -/
structure ExtraPage where
  page : PageId
  value : U64
  version : U64

def ExtraPage.ops (extra : ExtraPage) : List TraceOp :=
  [.appendRawPage extra.page.get extra.value extra.version, .flushWal]

/-- A draft with nothing unflushed and little spent. -/
structure RecoveryModel.Ready (operations : Nat) (model : RecoveryModel) : Prop where
  drafted : model.Drafted
  flushed : model.AllFlushed
  spent : model.Spent operations

theorem writtenModel_ready (logId : LogId) (pageValue rawValue : U64) :
    (writtenModel logId pageValue rawValue).Ready 8 where
  drafted := writtenModel_drafted logId pageValue rawValue
  flushed := by
    intro record member
    have below : Sample.first ≤ Sample.third ∧ Sample.second ≤ Sample.third := by decide
    simp only [writtenModel, workedModel, List.mem_cons, List.not_mem_nil, or_false]
      at member
    rcases member with rfl | rfl | rfl
    · exact covers_some.mpr below.1
    · exact covers_some.mpr below.2
    · exact covers_some.mpr le_rfl
  spent :=
    { lineage := Nat.zero_le _
      epoch := by
        rintro epoch ⟨⟩
        decide
      generation := Nat.zero_le _
      position := ⟨4, rfl, by decide⟩ }

theorem ExtraPage.executes {operations index : Nat} {run : TraceRun} {seed : U64}
    {ops rest : List TraceOp} (extra : ExtraPage) (ready : run.model.Ready operations)
    (room : operations + 3 < 2 ^ 64) :
    ∃ after, executeFrom seed ops index (extra.ops ++ rest) run =
        executeFrom seed ops (index + 2) rest after ∧
          after.model.Ready (operations + 2) := by
  have sound := ready.drafted.openable.sound
  rcases exists_mutation ready.spent sound.guarded (.inl ready.drafted.live) extra.page
      extra.value ⟨extra.version⟩ with
    ⟨final, mutation⟩
  rcases mutation.steps with ⟨position, middle, flushed, appends, append, flushes, flush⟩
  have appended :
      (TraceOp.appendRawPage extra.page.get extra.value extra.version).execute run =
      .ok () { run with
        model := middle
        pagePositions := run.pagePositions ++ [position] } :=
          execute_appendRawPage appends
  refine ⟨_,
    (executeFrom_cons appended).trans (executeFrom_cons (onModel_discard flushes)), ?_⟩
  exact ⟨(ready.drafted.appendRawPage append).flushWal flush, mutation.allFlushed sound,
    mutation.spent ready.spent sound room⟩

theorem extras_execute {operations index : Nat} {run : TraceRun} {seed : U64}
    {ops rest : List TraceOp} (extras : List ExtraPage)
    (ready : run.model.Ready operations)
    (room : operations + 2 * extras.length + 1 < 2 ^ 64) :
    ∃ after, executeFrom seed ops index (extras.flatMap ExtraPage.ops ++ rest) run =
        executeFrom seed ops (index + 2 * extras.length) rest after ∧
      after.model.Ready (operations + 2 * extras.length) := by
  induction extras generalizing operations index run with
  | nil => exact ⟨run, rfl, ready⟩
  | cons extra extras induction =>
      rw [List.length_cons] at room
      rcases extra.executes ready (by omega) with ⟨middle, first, stillReady⟩
      rcases induction stillReady (by omega) with ⟨after, later, finallyReady⟩
      refine ⟨after, ?_, ?_⟩
      · rw [List.flatMap_cons, List.append_assoc, first, later, List.length_cons,
          Nat.mul_succ, Nat.add_assoc, Nat.add_comm 2]
      · rw [List.length_cons, Nat.mul_succ, Nat.add_comm _ 2, ← Nat.add_assoc]
        exact finallyReady

theorem publication_executes {operations : Nat} {run : TraceRun}
    (ready : run.model.Ready operations) (room : operations + 2 < 2 ^ 64)
    (anchor : CheckpointAnchor) :
    ∃ final, (TraceOp.publishCheckpoint anchor).execute run =
      .ok () { run with model := final } ∧
      final.phase = .live ∧ final.Kept anchor ∧ final.AllFlushed ∧
        final.Spent (operations + 1) := by
  have live : run.model.IsLive := .inl ready.drafted.live
  have effect : Effect run.model (.publishCheckpoint anchor) .unit _ :=
    .publishCheckpoint live
  have executed :
      (TraceOp.publishCheckpoint anchor).execute run = .ok () { run with model := _ } :=
    onModel_ok (publishCheckpoint_ok_iff.mpr ⟨live, rfl⟩)
  exact ⟨_, executed, ready.drafted.live, ready.drafted.publish ready.flushed effect,
    ready.flushed, ready.spent.effect ready.drafted.openable.sound room effect⟩

end Ntsql.Recovery
