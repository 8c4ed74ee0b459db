import Ntsql.Recovery.GeneratedStages
import Ntsql.Recovery.PrefixSearch

/-! # Every generated trace executes

The generator inserts flushed raw pages right before the publication of its
skeleton, as many as the bounds leave room for. What comes out lies within the
bounds and executes against every log. -/

namespace Ntsql.Recovery

variable {bounds : TraceBounds}

def closingTrace (mutation : U64) : List TraceOp :=
  [.crash, .reopen, .select, .planReplay, .repairPagesFault,
    .crash, .reopen, .select, .planReplay, .repairPages, .restoreTransactions, .complete,
    .liveMutationAfterComplete 1 mutation 2, .analyzeRetentionExpectStale,
    .crash, .reopen, .select, .planReplay, .repairPagesAppliedFault,
    .crash, .reopen, .select, .planReplay, .repairPages, .restoreTransactions, .complete,
    .analyzeRetention, .reclaim,
    .crash, .reopen, .select, .planReplay, .repairPages, .restoreTransactions, .complete,
    .analyzeRetention, .reclaim,
    .crash, .reopen, .select, .planReplay, .repairPages, .restoreTransactions, .complete]

structure Draws where
  anchor : CheckpointAnchor
  pageValue : U64
  rawValue : U64
  mutation : U64

/-- The skeleton with raw pages inserted before its publication. -/
def Draws.trace (draws : Draws) (extras : List ExtraPage) : List TraceOp :=
  openingTrace draws.pageValue draws.rawValue ++
    (extras.flatMap ExtraPage.ops ++ .publishCheckpoint draws.anchor :: closingTrace
      draws.mutation)

theorem length_flatMap_ops (extras : List ExtraPage) :
    (extras.flatMap ExtraPage.ops).length = 2 * extras.length := by
  induction extras with
  | nil => rfl
  | cons extra extras induction =>
      rw [List.flatMap_cons, List.length_append, induction, List.length_cons,
        Nat.mul_succ, Nat.add_comm]
      rfl

theorem Draws.length_trace (draws : Draws) (extras : List ExtraPage) :
    (draws.trace extras).length = 53 + 2 * extras.length := by
  have opening : (openingTrace draws.pageValue draws.rawValue).length = 8 := rfl
  have closing : (closingTrace draws.mutation).length = 44 := rfl
  rw [Draws.trace, List.length_append, List.length_append, List.length_cons,
    length_flatMap_ops, opening, closing]
  omega

/-! ## Execution -/

theorem Draws.trace_executes (draws : Draws) (extras : List ExtraPage) (seed : U64)
    (ops : List TraceOp) (logId : LogId) (room : 2 * extras.length + 100 < 2 ^ 64) :
    ∃ run, executeFrom seed ops 0 (draws.trace extras) (TraceRun.new logId) =
      .ok run := by
  have ready := writtenModel_ready logId draws.pageValue draws.rawValue
  obtain ⟨middle, inserted, stillReady⟩ : ∃ after,
      executeFrom seed ops 8 (extras.flatMap ExtraPage.ops ++
          .publishCheckpoint draws.anchor :: closingTrace draws.mutation)
        (writtenRun logId draws.pageValue draws.rawValue) =
      executeFrom seed ops (8 + 2 * extras.length)
        (.publishCheckpoint draws.anchor :: closingTrace draws.mutation) after ∧
      after.model.Ready (8 + 2 * extras.length) := extras_execute extras ready (by omega)
  rcases publication_executes stillReady (by omega) draws.anchor with
    ⟨published, executed, live, kept, flushed, spent⟩
  have isAt : At draws.anchor (8 + 2 * extras.length + 1) .live
      { middle with model := published } := ⟨⟨kept, flushed, spent⟩, live⟩
  have closing : (closingTrace draws.mutation).length = 44 := rfl
  rw [Draws.trace, openingTrace_executes, inserted, executeFrom_cons executed]
  exact isAt.executes
    (rfl : Stage.live.through (closingTrace draws.mutation) = some .fresh) (by omega)

/-! ## Bounds -/

structure TraceBounds.Accepted (bounds : TraceBounds) : Prop where
  maxOps : bounds.maxOps ≤ HARD_MAX_OPS
  maxTxns : bounds.maxTxns ≤ HARD_MAX_TXNS
  maxPages : bounds.maxPages ≤ HARD_MAX_PAGES
  maxPostCheckpointRecords : bounds.maxPostCheckpointRecords ≤ HARD_MAX_POST_CP_RECORDS
  maxCrashCycles : bounds.maxCrashCycles ≤ HARD_MAX_CRASH_CYCLES
  someTxns : 1 ≤ bounds.maxTxns
  someRecords : 1 ≤ bounds.maxPostCheckpointRecords
  someOps : SKELETON_MIN_OPS ≤ bounds.maxOps
  somePages : SKELETON_MIN_PAGES ≤ bounds.maxPages
  someCrashes : SKELETON_MIN_CRASH_CYCLES ≤ bounds.maxCrashCycles

theorem TraceBounds.validate_ok_iff : bounds.validate = .ok () ↔ bounds.Accepted := by
  simp only [TraceBounds.validate, Except.bind_ok_iff, rejectIf_ok_iff, gt_iff_lt, not_lt,
    exists_const]
  constructor
  · rintro ⟨ops, txns, pages, records, crashes, oneTxn, oneRecord, minOps,
      minPages, minCrashes⟩
    exact ⟨ops, txns, pages, records, crashes, oneTxn, oneRecord, minOps,
      minPages, minCrashes⟩
  · intro accepted
    exact ⟨accepted.maxOps, accepted.maxTxns, accepted.maxPages,
      accepted.maxPostCheckpointRecords,
      accepted.maxCrashCycles, accepted.someTxns, accepted.someRecords, accepted.someOps,
      accepted.somePages, accepted.someCrashes⟩

theorem WithinBounds.hard {ops : List TraceOp} (within : WithinBounds ops bounds)
    (accepted : bounds.Accepted) : WithinBounds ops hardBounds where
  length := within.length.trans accepted.maxOps
  transactions := within.transactions.trans accepted.maxTxns
  pages := within.pages.trans accepted.maxPages
  crashes := within.crashes.trans accepted.maxCrashCycles
  records := within.records.trans accepted.maxPostCheckpointRecords

theorem countP_flatMap_ops {counts : TraceOp → Bool} {extras : List ExtraPage}
    (silent : ∀ extra : ExtraPage, extra.ops.countP counts = 0) :
    (extras.flatMap ExtraPage.ops).countP counts = 0 := by
  induction extras with
  | nil => rfl
  | cons extra extras induction =>
      rw [List.flatMap_cons, List.countP_append, silent, induction]

theorem Draws.pages_trace (draws : Draws) {extras : List ExtraPage}
    (somePages : 2 ≤ bounds.maxPages.val)
    (within : ∀ extra ∈ extras, extra.page.get ≤ bounds.maxPages) :
    pagesIn (draws.trace extras) ⊆ Finset.Icc 1 bounds.maxPages := by
  have opening : pagesIn (openingTrace draws.pageValue draws.rawValue) = {1, 2} := rfl
  have closing :
      pagesIn (.publishCheckpoint draws.anchor :: closingTrace draws.mutation) =
        {1} := rfl
  have one : (1 : U64) ∈ Finset.Icc 1 bounds.maxPages :=
    Finset.mem_Icc.mpr ⟨le_rfl, Fin.le_def.mpr ((Nat.le_succ 1).trans somePages)⟩
  have two : (2 : U64) ∈ Finset.Icc 1 bounds.maxPages :=
    Finset.mem_Icc.mpr ⟨by decide, Fin.le_def.mpr somePages⟩
  have inserted :
      pagesIn (extras.flatMap ExtraPage.ops) ⊆ Finset.Icc 1 bounds.maxPages := by
    intro page member
    rw [pagesIn, List.mem_toFinset, List.mem_filterMap] at member
    rcases member with ⟨op, among, isPage⟩
    rcases List.mem_flatMap.mp among with ⟨extra, isExtra, isOp⟩
    rcases List.mem_pair.mp isOp with rfl | rfl
    · cases isPage
      exact Finset.mem_Icc.mpr ⟨Fin.one_le_of_ne_zero extra.page.nonzero,
        within extra isExtra⟩
    · cases isPage
  have union (front back : List TraceOp) :
      pagesIn (front ++ back) = pagesIn front ∪ pagesIn back := by
    rw [pagesIn, List.filterMap_append, List.toFinset_append]
    rfl
  rw [Draws.trace, union, union, opening, closing]
  refine Finset.union_subset ?_
    (Finset.union_subset inserted (Finset.singleton_subset_iff.mpr one))
  exact Finset.insert_subset one (Finset.singleton_subset_iff.mpr two)

theorem Draws.within (draws : Draws) {extras : List ExtraPage}
    (accepted : bounds.Accepted) (room : 53 + 2 * extras.length ≤ bounds.maxOps.val)
    (within : ∀ extra ∈ extras, extra.page.get ≤ bounds.maxPages) :
    WithinBounds (draws.trace extras) bounds where
  length := by
    rw [draws.length_trace]
    exact room
  transactions := by
    have single : transactionsIn (draws.trace extras) = 1 := by
      rw [transactionsIn, Draws.trace, List.countP_append, List.countP_append,
        countP_flatMap_ops fun _ => rfl]
      rfl
    rw [single]
    exact accepted.someTxns
  pages := by
    have subset := draws.pages_trace accepted.somePages within
    have bound := Finset.card_le_card subset
    rw [Fin.card_Icc, Fin.val_one, Nat.add_sub_cancel] at bound
    exact bound
  crashes := by
    have six : crashesIn (draws.trace extras) = 6 := by
      rw [crashesIn, Draws.trace, List.countP_append, List.countP_append,
        countP_flatMap_ops fun _ => rfl]
      rfl
    rw [six]
    exact accepted.someCrashes
  records := by
    have none : (closingTrace draws.mutation).all (fun op => !op.publishes) = true := rfl
    have silent : ∀ op ∈ closingTrace draws.mutation, op.publishes = false :=
      fun op member => by simpa using List.all_eq_true.mp none op member
    have single : recordsIn (closingTrace draws.mutation) = 1 := rfl
    rw [Draws.trace, ← List.append_assoc, pendingAfter_segment silent, Option.getD_some,
      single]
    exact accepted.someRecords

/-! ## Generation -/

theorem nextBounded_succeeds (rng : SimpleRng) {bound : U64} (positive : bound ≠ 0) :
    ∃ drawn later, rng.nextBounded bound = .ok (drawn, later) ∧
      drawn.val < bound.val := by
  refine ⟨rng.nextU64.1 % bound, rng.nextU64.2, ?_, ?_⟩
  · rw [SimpleRng.nextBounded, rejectIf, if_neg positive]
    rfl
  · exact Nat.mod_lt _ (Nat.pos_of_ne_zero fun zero => positive (Fin.ext zero))

theorem insertExtra_succeeds (draws : Draws) (extras : List ExtraPage) (rng : SimpleRng)
    {i : Nat} (accepted : bounds.Accepted) (early : i < MAX_EXTRA_OPS.val)
    (room : 53 + 2 * (extras.length + 1) ≤ bounds.maxOps.val) :
    ∃ later extra, insertExtra bounds (rng, draws.trace extras) i =
        .ok (later, draws.trace (extra :: extras)) ∧
          extra.page.get ≤ bounds.maxPages := by
  have positive : bounds.maxPages ≠ 0 := by
    intro zero
    have some := accepted.somePages
    rw [zero] at some
    exact absurd some (by decide)
  rcases nextBounded_succeeds rng positive with ⟨drawn, afterPage, drew, below⟩
  have cap : bounds.maxPages.val ≤ 10000 := accepted.maxPages
  have few : i < 20 := early
  rcases RecoveryModel.Spent.checkedSucc_exists (Nat.le_of_lt below) (by omega) with
    ⟨pageId, isPage⟩
  have pageVal := checkedSucc_eq_some.mp isPage
  have nonzero : pageId ≠ 0 := by
    rintro rfl
    exact absurd pageVal (Nat.succ_ne_zero _).symm
  have offset : tryU64 i = some ⟨i, by omega⟩ := tryU64_eq_some.mpr rfl
  have version : tryU64 (i + 100) = some ⟨i + 100, by omega⟩ := tryU64_eq_some.mpr rfl
  refine ⟨afterPage.nextU64.2,
    ⟨⟨pageId, nonzero⟩, afterPage.nextU64.1, ⟨i + 100, by omega⟩⟩, ?_, ?_⟩
  · have long : ((draws.trace extras).insertIdx extraIndex
        (.appendRawPage pageId afterPage.nextU64.1 ⟨i + 100, by omega⟩)).length <
          bounds.maxOps.val := by
      rw [List.length_insertIdx_of_le_length, draws.length_trace]
      · omega
      · rw [draws.length_trace, extraIndex]
        omega
    simp only [insertExtra, drew, isPage, offset, version, okOr, Except.bind_ok_iff,
      Except.ok.injEq, exists_eq_left', if_pos long]
    rfl
  · rw [Fin.le_def, pageVal]
    exact below

theorem insertExtras_succeed (draws : Draws) (rng : SimpleRng) {count : Nat}
    (accepted : bounds.Accepted) (few : count ≤ MAX_EXTRA_OPS.val)
    (room : 53 + 2 * count ≤ bounds.maxOps.val) :
    ∃ later extras, (List.range count).foldlM (insertExtra bounds) (rng, draws.trace []) =
        .ok (later, draws.trace extras) ∧ extras.length = count ∧
      ∀ extra ∈ extras, extra.page.get ≤ bounds.maxPages := by
  induction count with
  | zero => exact ⟨rng, [], rfl, rfl, nofun⟩
  | succ count induction =>
      rcases induction (by omega) (by omega) with
        ⟨middle, extras, inserted, length, within⟩
      rcases insertExtra_succeeds draws extras middle accepted (Nat.lt_of_succ_le few)
          (by rw [length]; exact room) with
        ⟨later, extra, last, isWithin⟩
      refine ⟨later, extra :: extras, ?_, by rw [List.length_cons, length], ?_⟩
      · rw [List.range_succ, List.foldlM_append, inserted]
        exact Except.bind_ok_iff.mpr ⟨_, rfl, Except.bind_ok_iff.mpr ⟨_, last, rfl⟩⟩
      · exact List.forall_mem_cons.mpr ⟨isWithin, within⟩

theorem drawExtraCount_succeeds (rng : SimpleRng) {used : U64}
    (room : used ≤ bounds.maxOps) :
    ∃ extra later, drawExtraCount bounds used rng = .ok (extra, later) ∧
      extra ≤ MAX_EXTRA_OPS ∧ used.val + 2 * extra.val ≤ bounds.maxOps.val := by
  have half : ((bounds.maxOps - used) / 2).val = (bounds.maxOps.val - used.val) / 2 := by
    rw [Fin.div_val, Fin.sub_val_of_le room]
    rfl
  have least := min_le_left ((bounds.maxOps - used) / 2) MAX_EXTRA_OPS
  have cap := min_le_right ((bounds.maxOps - used) / 2) MAX_EXTRA_OPS
  unfold drawExtraCount
  rw [rejectIf, if_neg (not_lt.mpr room)]
  generalize min ((bounds.maxOps - used) / 2) MAX_EXTRA_OPS = maxExtra at least cap ⊢
  rw [Fin.le_def, half] at least
  have fits := Fin.le_def.mp room
  by_cases none : maxExtra = 0
  · refine ⟨0, rng, ?_, Fin.zero_le _, fits⟩
    rw [if_pos none]
    rfl
  · have small : maxExtra.val ≤ 20 := cap
    rcases RecoveryModel.Spent.checkedSucc_exists (Nat.le_refl maxExtra.val) (by omega)
        with
      ⟨bound, isBound⟩
    have boundVal := checkedSucc_eq_some.mp isBound
    have positive : bound ≠ 0 := by
      rintro rfl
      exact absurd boundVal (Nat.succ_ne_zero _).symm
    rcases nextBounded_succeeds rng positive with ⟨extra, later, drew, below⟩
    have capped : extra.val ≤ 20 := by omega
    refine ⟨extra, later, ?_, capped, by omega⟩
    rw [if_neg none, isBound]
    exact drew

theorem addExtras_succeeds (draws : Draws) (rng : SimpleRng)
    (accepted : bounds.Accepted) :
    ∃ extras : List ExtraPage,
      addExtras bounds SKELETON_MIN_OPS rng (draws.trace []) = .ok (draws.trace extras) ∧
        extras.length ≤ MAX_EXTRA_OPS.val ∧ WithinBounds (draws.trace extras) bounds := by
  unfold addExtras
  by_cases room : SKELETON_MIN_OPS < bounds.maxOps
  · rcases drawExtraCount_succeeds rng accepted.someOps with
      ⟨extra, later, drew, few, fits⟩
    rcases insertExtras_succeed draws later accepted (Fin.le_def.mp few) fits with
      ⟨last, extras, inserted, length, within⟩
    refine ⟨extras, ?_, length ▸ Fin.le_def.mp few,
      draws.within accepted (length ▸ fits) within⟩
    rw [if_pos room, drew]
    exact Except.bind_ok_iff.mpr ⟨_, rfl, Except.bind_ok_iff.mpr ⟨_, inserted, rfl⟩⟩
  · exact ⟨[], if_neg room, Nat.zero_le _,
      draws.within accepted (Fin.le_def.mp accepted.someOps) nofun⟩

theorem generateTrace_succeeds (seed : U64) (accepted : bounds.Accepted) :
    ∃ (draws : Draws) (extras : List ExtraPage),
      generateTrace seed bounds = .ok (draws.trace extras) ∧
      extras.length ≤ MAX_EXTRA_OPS.val ∧ WithinBounds (draws.trace extras) bounds := by
  let first := (SimpleRng.new seed).nextU64
  let second := first.2.nextU64
  let third := second.2.nextU64
  let fourth := third.2.nextU64
  let draws : Draws := ⟨boundAnchor first.1, second.1, third.1, fourth.1⟩
  have validated : bounds.validate = .ok () := TraceBounds.validate_ok_iff.mpr accepted
  have counted : tryU64 (draws.trace []).length = some SKELETON_MIN_OPS := rfl
  rcases addExtras_succeeds draws fourth.2 accepted with ⟨extras, added, few, within⟩
  have bounded : validateTraceAgainstBounds (draws.trace extras) bounds = .ok () :=
    validateTraceAgainstBounds_ok_iff.mpr within
  refine ⟨draws, extras, ?_, few, within⟩
  simp only [generateTrace, Except.bind_ok_iff, okOr_ok_iff]
  exact ⟨(), validated, SKELETON_MIN_OPS, counted, _, added, (), bounded, rfl⟩

/-- For every seed and accepted bounds a trace is generated that lies within
the bounds and executes against every log. -/
theorem generated_trace_executes (seed : U64) (bounds : TraceBounds)
    (accepted : bounds.validate = .ok ()) :
    ∃ ops, generateTrace seed bounds = .ok ops ∧ WithinBounds ops bounds ∧
      ∀ (reported : U64) (logId : LogId), ∃ model,
        executeTrace reported ops logId = .ok model := by
  have isAccepted := TraceBounds.validate_ok_iff.mp accepted
  rcases generateTrace_succeeds seed isAccepted with
    ⟨draws, extras, generated, few, within⟩
  refine ⟨draws.trace extras, generated, within, ?_⟩
  intro reported logId
  have cap : extras.length ≤ 20 := few
  rcases draws.trace_executes extras reported (draws.trace extras) logId (by omega) with
    ⟨run, executed⟩
  exact ⟨run.model, executeTrace_ok_iff.mpr ⟨within.hard isAccepted, run, executed, rfl⟩⟩

theorem hard_trace_executes :
    ∃ ops, generateTrace 7 hardBounds = .ok ops ∧ WithinBounds ops hardBounds ∧
      ∀ (reported : U64) (logId : LogId), ∃ model,
        executeTrace reported ops logId = .ok model :=
  generated_trace_executes 7 hardBounds rfl

end Ntsql.Recovery
