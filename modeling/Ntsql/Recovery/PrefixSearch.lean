import Ntsql.Recovery.TraceBounds
import Ntsql.Recovery.TraceExecution

/-! # Prefixes of a trace

A validation bounds what is pending at the end of a trace only: a publication
resets the count, however large. Where no publication resets too much, every
segment is bounded, every prefix executes and the search finds the shortest. -/

namespace Ntsql.Recovery

open Operation

variable {ops : List TraceOp} {seed : U64} {logId : LogId}

/-- Between consecutive publications, and after the last one, at most `max`
records are appended. -/
def SegmentsWithin (max : Nat) (ops : List TraceOp) : Prop :=
  ∀ front anchor segment back,
    ops = front ++ .publishCheckpoint anchor :: (segment ++ back) →
    (∀ op ∈ segment, op.publishes = false) →
    (back = [] ∨ ∃ next rest, back = .publishCheckpoint next :: rest) →
    recordsIn segment ≤ max

/-- No publication resets more than `max` pending records. -/
def ResetsWithin (max : Nat) (ops : List TraceOp) : Prop :=
  ∀ front anchor back, ops = front ++ .publishCheckpoint anchor :: back →
    (pendingAfter front).getD 0 ≤ max

theorem ResetsWithin.of_segments {max : Nat} (within : SegmentsWithin max ops) :
    ResetsWithin max ops := by
  rintro front anchor back rfl
  cases pending : pendingAfter front with
  | none => exact Nat.zero_le _
  | some count =>
      rcases exists_segment pending with ⟨start, first, segment, rfl, silent, rfl⟩
      apply within start first segment (.publishCheckpoint anchor :: back) _ silent
      · exact .inr ⟨anchor, back, rfl⟩
      · rw [List.append_assoc, List.cons_append]

theorem SegmentsWithin.of_resets {max : Nat} (within : ResetsWithin max ops)
    (last : (pendingAfter ops).getD 0 ≤ max) : SegmentsWithin max ops := by
  rintro front anchor segment back rfl silent (rfl | ⟨next, rest, rfl⟩)
  · rw [List.append_nil, pendingAfter_segment silent] at last
    exact last
  · have reset := within (front ++ .publishCheckpoint anchor :: segment) next rest
      (by rw [List.append_assoc, List.cons_append])
    rw [pendingAfter_segment silent] at reset
    exact reset

theorem ResetsWithin.of_length {max : Nat} (short : ops.length ≤ max) :
    ResetsWithin max ops := by
  rintro front anchor back rfl
  rw [List.length_append] at short
  exact (pendingAfter_le front).trans (by omega)

/-- What is pending after a prefix is reset or still pending at the end. -/
theorem ResetsWithin.pending_le {max : Nat} {front back : List TraceOp}
    (within : ResetsWithin max (front ++ back))
    (last : (pendingAfter (front ++ back)).getD 0 ≤ max) :
      (pendingAfter front).getD 0 ≤ max := by
  induction back generalizing front with
  | nil => rwa [List.append_nil] at last
  | cons op back induction =>
      cases publishes : op.publishes with
      | true =>
          cases op with
          | publishCheckpoint anchor => exact within front anchor back rfl
          | _ => cases publishes
      | false =>
          have split : front ++ op :: back = (front ++ [op]) ++ back := by
            rw [List.append_assoc, List.singleton_append]
          rw [split] at within last
          have later := induction within last
          have grows :
              (pendingAfter front).getD 0 ≤ (pendingAfter (front ++ [op])).getD 0 := by
            rw [pendingAfter_concat, pendingStep, publishes]
            cases pendingAfter front with
            | none => exact Nat.zero_le _
            | some count => cases op.appendsRecord <;> simp
          exact grows.trans later

theorem WithinBounds.take {bounds : TraceBounds} (within : WithinBounds ops bounds)
    (resets : ResetsWithin bounds.maxPostCheckpointRecords.val ops) (length : Nat) :
    WithinBounds (ops.take length) bounds := by
  have sublist : (ops.take length).Sublist ops := List.take_sublist length ops
  constructor
  · exact sublist.length_le.trans within.length
  · exact (sublist.countP_le).trans within.transactions
  · have subset : pagesIn (ops.take length) ⊆ pagesIn ops := by
      intro page member
      rw [pagesIn, List.mem_toFinset] at member ⊢
      exact (sublist.filterMap _).mem member
    exact (Finset.card_le_card subset).trans within.pages
  · exact (sublist.countP_le).trans within.crashes
  · have whole := List.take_append_drop length ops
    have records := within.records
    rw [← whole] at resets records
    exact resets.pending_le records

/-! ## Execution of prefixes -/

theorem executeFrom_take {index : Nat} {rest : List TraceOp} {run final : TraceRun}
    (other : List TraceOp) (length : Nat)
    (executes : executeFrom seed ops index rest run = .ok final) :
    ∃ middle, executeFrom seed other index (rest.take length) run = .ok middle := by
  induction rest generalizing index length run with
  | nil => exact ⟨run, by rw [List.take_nil]; rfl⟩
  | cons op rest induction =>
      cases length with
      | zero => exact ⟨run, rfl⟩
      | succ length =>
          rw [executeFrom] at executes
          rw [List.take_succ_cons, executeFrom]
          cases outcome : op.execute run with
          | ok value next =>
              rw [outcome] at executes
              exact induction length executes
          | error error next =>
              rw [outcome] at executes
              cases executes

theorem executeTrace_ok_iff {model : RecoveryModel} :
    executeTrace seed ops logId = .ok model ↔
      WithinBounds ops hardBounds ∧
        ∃ run, executeFrom seed ops 0 ops (TraceRun.new logId) = .ok run ∧
          run.model = model := by
  rw [executeTrace]
  cases validated : validateTraceAgainstBounds ops hardBounds with
  | error error =>
      constructor
      · nofun
      · rintro ⟨within, _⟩
        have accepted : validateTraceAgainstBounds ops hardBounds = .ok () :=
          validateTraceAgainstBounds_ok_iff.mpr within
        rw [validated] at accepted
        cases accepted
  | ok value =>
      have within := validateTraceAgainstBounds_ok_iff.mp validated
      simp only [Except.bind_ok_iff, Except.pure_ok_iff, within, true_and]

def PrefixesExecute (seed : U64) (ops : List TraceOp) (logId : LogId) : Prop :=
  ∀ length, 1 ≤ length → length ≤ ops.length →
    ∃ model, executeTrace seed (ops.take length) logId = .ok model

theorem PrefixesExecute.of_resets {model : RecoveryModel}
    (executes : executeTrace seed ops logId = .ok model)
    (resets : ResetsWithin HARD_MAX_POST_CP_RECORDS.val ops) :
      PrefixesExecute seed ops logId := by
  intro length _ _
  rcases executeTrace_ok_iff.mp executes with ⟨within, run, executed, _⟩
  rcases executeFrom_take (ops.take length) length executed with ⟨middle, reached⟩
  exact ⟨middle.model,
    executeTrace_ok_iff.mpr ⟨within.take resets length, middle, reached, rfl⟩⟩

theorem ResetsWithin.of_prefixes (executes : PrefixesExecute seed ops logId) :
    ResetsWithin HARD_MAX_POST_CP_RECORDS.val ops := by
  rintro front anchor back rfl
  cases front with
  | nil => exact Nat.zero_le _
  | cons op front =>
      have shorter : (op :: front).length ≤
          ((op :: front) ++ .publishCheckpoint anchor :: back).length := by
        rw [List.length_append]
        exact Nat.le_add_right _ _
      rcases executes (op :: front).length (Nat.succ_pos _) shorter with ⟨model, executed⟩
      rw [List.take_left] at executed
      exact (executeTrace_ok_iff.mp executed).1.records

/-! ## The search -/

/-- Some prefix of this length executes into a model the predicate accepts. -/
def Satisfied (seed : U64) (ops : List TraceOp) (logId : LogId)
    (predicate : RecoveryModel → Bool) (length : Nat) : Prop :=
  ∃ model, executeTrace seed (ops.take length) logId = .ok model ∧ predicate model = true

/-- The search answers with the shortest nonempty prefix that satisfies the
predicate, and with nothing exactly when there is none. -/
structure FindsShortest (seed : U64) (ops : List TraceOp) (logId : LogId)
    (predicate : RecoveryModel → Bool) : Prop where
  found : ∀ length, findMinimalPrefix seed ops logId predicate = .ok (some length) ↔
    1 ≤ length ∧ length ≤ ops.length ∧ Satisfied seed ops logId predicate length ∧
      ∀ shorter, 1 ≤ shorter → shorter < length →
        ¬Satisfied seed ops logId predicate shorter
  missing : findMinimalPrefix seed ops logId predicate = .ok none ↔
    ∀ length, 1 ≤ length → length ≤ ops.length →
      ¬Satisfied seed ops logId predicate length

theorem searchPrefixes_cons {predicate : RecoveryModel → Bool} {length : Nat}
    {lengths : List Nat} {model : RecoveryModel}
    (executes : executeTrace seed (ops.take length) logId = .ok model) :
    searchPrefixes seed ops logId predicate (length :: lengths) =
      if predicate model then .ok (some length)
      else searchPrefixes seed ops logId predicate lengths := by
  rw [searchPrefixes, executes]

theorem searchPrefixes_range (predicate : RecoveryModel → Bool) {start count : Nat}
    (executes : ∀ length, start ≤ length → length < start + count →
      ∃ model, executeTrace seed (ops.take length) logId = .ok model) :
    (∀ length, searchPrefixes seed ops logId predicate (List.range' start count) =
      .ok (some length) ↔
      start ≤ length ∧ length < start + count ∧
        Satisfied seed ops logId predicate length ∧
        ∀ shorter, start ≤ shorter → shorter < length →
          ¬Satisfied seed ops logId predicate shorter) ∧
    (searchPrefixes seed ops logId predicate (List.range' start count) = .ok none ↔
      ∀ length, start ≤ length → length < start + count →
        ¬Satisfied seed ops logId predicate length) := by
  induction count generalizing start with
  | zero =>
      constructor
      · intro length
        constructor
        · nofun
        · rintro ⟨above, below, _⟩
          omega
      · constructor
        · intro _ length above below
          omega
        · intro _
          rfl
  | succ count induction =>
      rcases executes start (Nat.le_refl _) (by omega) with ⟨model, executed⟩
      have rest : ∀ length, start + 1 ≤ length → length < start + 1 + count →
          ∃ model, executeTrace seed (ops.take length) logId = .ok model :=
        fun length above below => executes length (by omega) (by omega)
      have later := induction rest
      rw [List.range'_succ, searchPrefixes_cons executed]
      cases accepted : predicate model with
      | true =>
          have satisfied : Satisfied seed ops logId predicate start :=
            ⟨model, executed, accepted⟩
          rw [if_pos rfl]
          constructor
          · intro length
            rw [Except.ok.injEq, Option.some.injEq]
            constructor
            · rintro rfl
              exact ⟨Nat.le_refl _, by omega, satisfied,
                fun shorter above below => by omega⟩
            · rintro ⟨above, _, _, least⟩
              by_contra different
              exact least start (Nat.le_refl _) (by omega) satisfied
          · constructor
            · nofun
            · intro never
              exact absurd satisfied (never start (Nat.le_refl _) (by omega))
      | false =>
          have refused : ¬Satisfied seed ops logId predicate start := by
            rintro ⟨other, executedOther, acceptedOther⟩
            rw [executed] at executedOther
            cases executedOther
            rw [accepted] at acceptedOther
            cases acceptedOther
          have skip {length : Nat} (above : start ≤ length)
              (satisfied : Satisfied seed ops logId predicate length) :
                start + 1 ≤ length := by
            rcases Nat.eq_or_lt_of_le above with rfl | further
            · exact absurd satisfied refused
            · exact further
          rw [if_neg Bool.false_ne_true]
          constructor
          · intro length
            rw [later.1 length]
            constructor
            · rintro ⟨above, below, satisfied, least⟩
              refine ⟨by omega, by omega, satisfied, ?_⟩
              intro shorter fromStart below isSatisfied
              exact least shorter (skip fromStart isSatisfied) below isSatisfied
            · rintro ⟨above, below, satisfied, least⟩
              exact ⟨skip above satisfied, by omega, satisfied,
                fun shorter above below => least shorter (by omega) below⟩
          · rw [later.2]
            constructor
            · intro never length above below satisfied
              exact never length (skip above satisfied) (by omega) satisfied
            · intro never length above below
              exact never length (by omega) (by omega)

theorem FindsShortest.of_prefixes (executes : PrefixesExecute seed ops logId)
    (predicate : RecoveryModel → Bool) : FindsShortest seed ops logId predicate := by
  have inRange : ∀ length, 1 ≤ length → length < 1 + ops.length →
      ∃ model, executeTrace seed (ops.take length) logId = .ok model :=
    fun length above below => executes length above (by omega)
  rcases searchPrefixes_range predicate inRange with ⟨found, missing⟩
  constructor
  · intro length
    rw [findMinimalPrefix, found length]
    constructor
    · rintro ⟨above, below, rest⟩
      exact ⟨above, by omega, rest⟩
    · rintro ⟨above, below, rest⟩
      exact ⟨above, by omega, rest⟩
  · rw [findMinimalPrefix, missing]
    constructor
    · intro never length above below
      exact never length above (by omega)
    · intro never length above below
      exact never length above (by omega)

/-! ## A publication that resets too much -/

theorem executeFrom_replicate {rest : List TraceOp} {index count : Nat} {run : TraceRun}
    {page : PageId} {value version : U64} {position : U64} (live : run.model.IsLive)
    (next : run.model.nextPosition = some position) (positive : 0 < position.val)
    (fits : position.val + count < 2 ^ 64) :
    ∃ after, after.model.IsLive ∧
      executeFrom seed ops index
          (List.replicate count (.appendRawPage page.get value version) ++ rest) run =
        executeFrom seed ops (index + count) rest after := by
  induction count generalizing index run position with
  | zero => exact ⟨run, live, rfl⟩
  | succ count induction =>
      have nonzero : position ≠ 0 := fun zero => by
        rw [zero] at positive
        exact absurd positive (Nat.lt_irrefl _)
      have isPosition :
          run.model.nextPosition = some (WalPosition.mk position nonzero).get := next
      rcases execute_appendRawPage_live live isPosition with
        ⟨after, executed, stillLive, advanced⟩
      have following : position.val + 1 < 2 ^ 64 := by omega
      have isNext : after.model.nextPosition = some ⟨position.val + 1, following⟩ := by
        rw [advanced, checkedSucc_eq_some]
      have stillFits : position.val + 1 + count < 2 ^ 64 := by omega
      rcases induction stillLive isNext (Nat.succ_pos _) stillFits with
        ⟨last, lastLive, rest⟩
      refine ⟨last, lastLive, ?_⟩
      rw [List.replicate_succ, List.cons_append, executeFrom_cons executed, rest,
        Nat.add_assoc, Nat.add_comm 1 count]

/-- Raw pages between two publications. -/
def crowdedTrace (count : Nat) : List TraceOp :=
  .publishCheckpoint Sample.anchor ::
    (List.replicate count (.appendRawPage Sample.page.get 1 1) ++
      [.publishCheckpoint Sample.anchor])

theorem crowdedTrace_within {count : Nat} (fits : count + 2 ≤ HARD_MAX_OPS.val) :
    WithinBounds (crowdedTrace count) hardBounds where
  length := by
    have length : (crowdedTrace count).length = count + 2 := by simp [crowdedTrace]
    rw [length]
    exact fits
  transactions := by
    simp [crowdedTrace, transactionsIn, TraceOp.isBegin, List.countP_replicate]
  pages := by
    have pages : pagesIn (crowdedTrace count) ⊆ {Sample.page.get} := by
      intro page member
      rw [pagesIn, List.mem_toFinset, List.mem_filterMap] at member
      rcases member with ⟨op, among, isPage⟩
      simp only [crowdedTrace, List.mem_cons, List.mem_append, List.mem_replicate,
        List.not_mem_nil, or_false] at among
      rcases among with rfl | ⟨_, rfl⟩ | rfl
      · cases isPage
      · cases isPage
        exact Finset.mem_singleton_self _
      · cases isPage
    exact (Finset.card_le_card pages).trans (by rw [Finset.card_singleton]; decide)
  crashes := by
    simp [crowdedTrace, crashesIn, TraceOp.isCrash, List.countP_replicate]
  records := by
    rw [crowdedTrace, ← List.cons_append, pendingAfter_concat]
    exact Nat.zero_le _

theorem crowdedTrace_executes {count : Nat} (fits : count + 2 ≤ HARD_MAX_OPS.val)
    (seed : U64) (logId : LogId) :
      ∃ model, executeTrace seed (crowdedTrace count) logId = .ok model := by
  have published (run : TraceRun) (live : run.model.IsLive) :
      ∃ after, (TraceOp.publishCheckpoint Sample.anchor).execute run = .ok () after ∧
        after.model.IsLive ∧ after.model.nextPosition = run.model.nextPosition :=
    ⟨_, onModel_ok (publishCheckpoint_ok_iff.mpr ⟨live, rfl⟩), live, rfl⟩
  have fitsPositions : (1 : U64).val + count < 2 ^ 64 := by
    have cap : HARD_MAX_OPS.val < 2 ^ 64 - 1 := by decide
    have one : (1 : U64).val = 1 := rfl
    omega
  rcases published (TraceRun.new logId) (.inl rfl) with ⟨first, executed, live, next⟩
  obtain ⟨middle, stillLive, appended⟩ :
      ∃ after, after.model.IsLive ∧
        executeFrom seed (crowdedTrace count) 1
            (List.replicate count (.appendRawPage Sample.page.get 1 1) ++
              [.publishCheckpoint Sample.anchor]) first =
          executeFrom seed (crowdedTrace count) (1 + count)
            [.publishCheckpoint Sample.anchor] after :=
    executeFrom_replicate live next (by decide) fitsPositions
  rcases published middle stillLive with ⟨last, done, _⟩
  have finished : executeFrom seed (crowdedTrace count) (1 + count)
      [.publishCheckpoint Sample.anchor] middle = .ok last := executeFrom_cons done
  have started : executeFrom seed (crowdedTrace count) 0 (crowdedTrace count)
      (TraceRun.new logId) = .ok last :=
        (executeFrom_cons executed).trans (appended.trans finished)
  exact ⟨last.model,
    executeTrace_ok_iff.mpr ⟨crowdedTrace_within fits, last, started, rfl⟩⟩

theorem crowdedTrace_resets {count : Nat}
    (resets : ResetsWithin HARD_MAX_POST_CP_RECORDS.val (crowdedTrace count)) :
    count ≤ HARD_MAX_POST_CP_RECORDS.val := by
  have silent : ∀ op ∈ List.replicate count (TraceOp.appendRawPage Sample.page.get 1 1),
      op.publishes = false := by
    intro op member
    rw [List.eq_of_mem_replicate member]
    rfl
  have counted : pendingAfter ([] ++ .publishCheckpoint Sample.anchor ::
      List.replicate count (.appendRawPage Sample.page.get 1 1)) = some (recordsIn _) :=
    pendingAfter_segment silent
  have pending := resets (.publishCheckpoint Sample.anchor ::
    List.replicate count (.appendRawPage Sample.page.get 1 1)) Sample.anchor [] rfl
  rw [List.nil_append] at counted
  rw [counted, Option.getD_some, recordsIn, List.countP_replicate] at pending
  exact pending

/-- Accepted traces keep their segments within the bound, and executed ones are
closed under prefixes and searched exactly, when no publication resets more
than the bound. -/
theorem segments_and_prefixes_iff_resets (seed : U64) (ops : List TraceOp)
    (bounds : TraceBounds) (logId : LogId) :
    (validateTraceAgainstBounds ops bounds = .ok () →
      (SegmentsWithin bounds.maxPostCheckpointRecords.val ops ↔
        ResetsWithin bounds.maxPostCheckpointRecords.val ops)) ∧
    ((∃ model, executeTrace seed ops logId = .ok model) →
      (PrefixesExecute seed ops logId ∧
        (∀ predicate, FindsShortest seed ops logId predicate) ↔
        ResetsWithin HARD_MAX_POST_CP_RECORDS.val ops)) := by
  constructor
  · intro accepted
    have within := validateTraceAgainstBounds_ok_iff.mp accepted
    exact ⟨ResetsWithin.of_segments, fun resets => .of_resets resets within.records⟩
  · rintro ⟨model, executes⟩
    constructor
    · rintro ⟨closed, _⟩
      exact .of_prefixes closed
    · intro resets
      have closed := PrefixesExecute.of_resets executes resets
      exact ⟨closed, .of_prefixes closed⟩

theorem crowded_once_searchable :
    SegmentsWithin HARD_MAX_POST_CP_RECORDS.val (crowdedTrace 1) ∧
      PrefixesExecute 0 (crowdedTrace 1) Sample.log ∧
      ∀ predicate, FindsShortest 0 (crowdedTrace 1) Sample.log predicate := by
  have fits : 1 + 2 ≤ HARD_MAX_OPS.val := by decide
  have resets : ResetsWithin HARD_MAX_POST_CP_RECORDS.val (crowdedTrace 1) :=
    .of_length (by decide)
  rcases segments_and_prefixes_iff_resets 0 (crowdedTrace 1) hardBounds Sample.log with
    ⟨segments, prefixes⟩
  exact ⟨(segments (validateTraceAgainstBounds_ok_iff.mpr (crowdedTrace_within fits))).mpr
    resets, (prefixes (crowdedTrace_executes fits 0 Sample.log)).mpr resets⟩

theorem publication_hides_overflow :
    ¬(∀ (ops : List TraceOp) (bounds : TraceBounds),
        validateTraceAgainstBounds ops bounds = .ok () →
          SegmentsWithin bounds.maxPostCheckpointRecords.val ops) ∧
      ¬(∀ (seed : U64) (ops : List TraceOp) (logId : LogId),
        (∃ model, executeTrace seed ops logId = .ok model) →
          PrefixesExecute seed ops logId) := by
  have fits : 5001 + 2 ≤ HARD_MAX_OPS.val := by decide
  have overflows : ¬ResetsWithin HARD_MAX_POST_CP_RECORDS.val (crowdedTrace 5001) :=
    fun resets => absurd (crowdedTrace_resets resets) (by decide)
  constructor
  · intro bounded
    have segments := bounded (crowdedTrace 5001) hardBounds
      (validateTraceAgainstBounds_ok_iff.mpr (crowdedTrace_within fits))
    exact overflows (.of_segments segments)
  · intro closed
    have prefixes := closed 0 (crowdedTrace 5001) Sample.log
      (crowdedTrace_executes fits 0 Sample.log)
    exact overflows (.of_prefixes prefixes)

end Ntsql.Recovery
