import Ntsql.Recovery.Replay
import Ntsql.Recovery.Transition.Opening

/-! # What replay and repair can do -/

namespace Ntsql.Recovery

variable {model final : RecoveryModel}

open RecoveryModel Operation

theorem planReplay_ok_iff {count : Nat} :
    planReplay model = .ok count final ↔
      model.phase = .selected ∧ count = model.replayWindow.length ∧
        final = { model with
          replayPlan := some model.replayWindow
          phase := .replayPlanned } := by
  simp only [planReplay, get_bind, check_bind_ok_iff, set_bind, pure_apply, ok_iff,
    requirePhase_ok_iff, List.mem_singleton]
  constructor
  · intro succeeds
    rcases succeeds with ⟨_, selected, rfl, rfl⟩
    exact ⟨selected, rfl, rfl⟩
  · intro succeeds
    rcases succeeds with ⟨selected, rfl, rfl⟩
    exact ⟨(), selected, rfl, rfl⟩

namespace RecoveryModel

theorem mem_durable_of_mem_window {record : WalRecord}
    (member : record ∈ model.replayWindow) :
    record ∈ model.durableWalRecords := by
  unfold replayWindow at member
  split at member
  · exact List.mem_of_mem_filter member
  · exact member

theorem mem_walRecords_of_mem_durable {record : WalRecord}
    (member : record ∈ model.durableWalRecords) : record ∈ model.walRecords :=
  (List.takeWhile_prefix _).subset member

def imageOf (model : RecoveryModel) (record : WalRecord) :
    Option (PageId × PageSnapshot) :=
  match record.page, record.pageValue, record.pageVersion with
  | some page, some value, some version =>
      some (page, model.snapshotOf page value record.position version)
  | _, _, _ => none

/-- The store entries repair replays from `records`. -/
def appliedImages (model : RecoveryModel) (records : List WalRecord) :
    List (PageId × PageSnapshot) :=
  records.filterMap fun record =>
    if model.ShouldApply record then model.imageOf record else none

/-- The checkpoint entries repair starts from, in the current lineage. -/
def checkpointImages (model : RecoveryModel) : List (PageId × PageSnapshot) :=
  match model.selectedCheckpoint with
  | some checkpoint =>
      checkpoint.pages.toList.map fun entry => (entry.1, entry.2.rebrand model.lineageId)
  | none => []

/-- The page store a repair of `plan` leaves. -/
def repairedStore (model : RecoveryModel) (plan : List WalRecord) : PageStore :=
  LatestImage.replay PageSnapshot.writtenAt model.pageStore
    (model.checkpointImages ++ model.appliedImages plan)

def withStore (model : RecoveryModel) (store : PageStore) : RecoveryModel :=
  { model with pageStore := store }

end RecoveryModel

open LatestImage in
theorem installLagging_ok {repaired count : Nat} {page : PageId} {snapshot : PageSnapshot}
    (succeeds : installLagging repaired page snapshot model = .ok count final) :
    final = model.withStore
      (install PageSnapshot.writtenAt model.pageStore (page, snapshot)) := by
  rw [installLagging, get_bind] at succeeds
  split at succeeds
  · rename_i lags
    rw [set_bind] at succeeds
    rw [install, if_pos lags]
    exact (check_ok_iff.mp succeeds).2.symm
  · rename_i held
    rw [install, if_neg held]
    exact (ok_iff.mp succeeds).2

open LatestImage in
theorem installLagging_succeeds (model : RecoveryModel) {repaired : Nat} (page : PageId)
    (snapshot : PageSnapshot) (room : repaired < u64Max) :
    ∃ count, count ≤ repaired + 1 ∧
      installLagging repaired page snapshot model = .ok count (model.withStore
        (install PageSnapshot.writtenAt model.pageStore (page, snapshot))) := by
  rw [installLagging, get_bind]
  split
  · rename_i lags
    have counted : checkedCount repaired = some (repaired + 1) :=
      checkedCount_eq_some.mpr ⟨room, rfl⟩
    refine ⟨repaired + 1, le_rfl, ?_⟩
    rw [set_bind, counted, install, if_pos lags]
    rfl
  · rename_i held
    refine ⟨repaired, Nat.le_succ repaired, ?_⟩
    rw [install, if_neg held]
    rfl

open LatestImage in
theorem repairCheckpointPages_ok {repaired count : Nat}
    {entries : List (PageId × PageSnapshot)}
    (succeeds : repairCheckpointPages repaired entries model = .ok count final) :
    final = model.withStore (replay PageSnapshot.writtenAt model.pageStore
      (entries.map fun entry => (entry.1, entry.2.rebrand model.lineageId))) := by
  induction entries generalizing model repaired with
  | nil => exact (ok_iff.mp succeeds).2
  | cons entry entries induction =>
      rw [repairCheckpointPages, get_bind] at succeeds
      rcases bind_ok_iff.mp succeeds with ⟨_, _, installed, rest⟩
      rw [installLagging_ok installed] at rest
      exact induction rest

open LatestImage in
theorem repairCheckpointPages_succeeds (model : RecoveryModel) (repaired : Nat)
    (entries : List (PageId × PageSnapshot)) (room : repaired + entries.length ≤ u64Max) :
    ∃ count, count ≤ repaired + entries.length ∧
      repairCheckpointPages repaired entries model = .ok count (model.withStore
        (replay PageSnapshot.writtenAt model.pageStore
          (entries.map fun entry => (entry.1, entry.2.rebrand model.lineageId)))) := by
  induction entries generalizing model repaired with
  | nil => exact ⟨repaired, le_rfl, rfl⟩
  | cons entry entries induction =>
      rw [List.length_cons] at room
      rcases installLagging_succeeds model entry.1 (entry.2.rebrand model.lineageId)
        (show repaired < u64Max by omega) with ⟨middle, bound, installed⟩
      rcases induction (model.withStore (install PageSnapshot.writtenAt model.pageStore
        (entry.1, entry.2.rebrand model.lineageId))) middle (by omega)
        with ⟨count, total, succeeds⟩
      refine ⟨count, by rw [List.length_cons]; omega, ?_⟩
      rw [repairCheckpointPages, get_bind, bind_of_ok installed]
      exact succeeds

theorem checkPlannedRecord_ok_iff {record : WalRecord} {value : Unit} :
    model.checkPlannedRecord record = .ok value ↔ model.Accepts record := by
  simp only [checkPlannedRecord, Except.bind_ok_iff, rejectIf_ok_iff, not_or, not_not,
    validateRecordShape_ok_iff]
  constructor
  · intro accepted
    rcases accepted with ⟨_, ⟨logEqual, lineageEqual⟩, _, shape, _⟩
    exact ⟨logEqual, lineageEqual, shape⟩
  · intro accepted
    refine ⟨(), ⟨accepted.logId_eq, accepted.lineageId_eq⟩, (), accepted.shape, ?_⟩
    intro orphan
    have shape := accepted.shape
    simp [WalRecord.HasShape, orphan.1, orphan.2] at shape

theorem imageOf_of_applicable {record : WalRecord} (shape : record.HasShape)
    (applies : model.ShouldApply record) :
    ∃ page value version, record.Carries page value version ∧
      model.plannedSnapshot record =
        .ok (model.snapshotOf page value record.position version) ∧
      model.imageOf record =
        some (page, model.snapshotOf page value record.position version) := by
  have present :
      record.page.isSome ∧ record.pageValue.isSome ∧ record.pageVersion.isSome := by
    cases kind : record.kind with
    | transactionPage => simp_all [WalRecord.HasShape]
    | transactionCommit => simp [ShouldApply, kind] at applies
    | rawPage => simp_all [WalRecord.HasShape]
  rcases present with ⟨hasPage, hasValue, hasVersion⟩
  rcases Option.isSome_iff_exists.mp hasPage with ⟨page, pageEq⟩
  rcases Option.isSome_iff_exists.mp hasValue with ⟨value, valueEq⟩
  rcases Option.isSome_iff_exists.mp hasVersion with ⟨version, versionEq⟩
  refine ⟨page, value, version, ⟨pageEq, valueEq, versionEq⟩, ?_, ?_⟩
  · simp only [plannedSnapshot, pageEq, valueEq, versionEq]
    rfl
  · simp only [imageOf, pageEq, valueEq, versionEq]

theorem appliedImages_cons_of_applicable {record : WalRecord} {records : List WalRecord}
    {entry : PageId × PageSnapshot} (applies : model.ShouldApply record)
    (image : model.imageOf record = some entry) :
    model.appliedImages (record :: records) = entry :: model.appliedImages records := by
  simp [appliedImages, applies, image]

theorem appliedImages_cons_of_not {record : WalRecord} {records : List WalRecord}
    (skipped : ¬model.ShouldApply record) :
    model.appliedImages (record :: records) = model.appliedImages records := by
  simp [appliedImages, skipped]

open LatestImage in
theorem repairPlannedRecords_ok {repaired count : Nat} {plan : List WalRecord}
    (succeeds : repairPlannedRecords repaired plan model = .ok count final) :
    (∀ record ∈ plan, model.Accepts record) ∧
      final = model.withStore
        (replay PageSnapshot.writtenAt model.pageStore (model.appliedImages plan)) := by
  induction plan generalizing model repaired with
  | nil => exact ⟨by simp, (ok_iff.mp succeeds).2⟩
  | cons record plan induction =>
      rw [repairPlannedRecords, get_bind] at succeeds
      rcases check_bind_ok_iff.mp succeeds with ⟨_, accepted, rest⟩
      have accepts := checkPlannedRecord_ok_iff.mp accepted
      by_cases applies : model.ShouldApply record
      · rw [if_pos applies] at rest
        rcases imageOf_of_applicable accepts.shape applies with
          ⟨page, value, version, _, planned, image⟩
        rw [planned] at rest
        rcases check_bind_ok_iff.mp rest with ⟨_, equal, installed⟩
        cases equal
        rcases bind_ok_iff.mp installed with ⟨_, _, stored, tail⟩
        rw [installLagging_ok stored] at tail
        rcases induction tail with ⟨tailAccepted, rfl⟩
        refine ⟨List.forall_mem_cons.mpr ⟨accepts, tailAccepted⟩, ?_⟩
        rw [appliedImages_cons_of_applicable applies image]
        rfl
      · rw [if_neg applies] at rest
        rcases induction rest with ⟨tailAccepted, rfl⟩
        refine ⟨List.forall_mem_cons.mpr ⟨accepts, tailAccepted⟩, ?_⟩
        rw [appliedImages_cons_of_not applies]

open LatestImage in
theorem repairPlannedRecords_succeeds (model : RecoveryModel) (repaired : Nat)
    {plan : List WalRecord} (accepted : ∀ record ∈ plan, model.Accepts record)
    (room : repaired + plan.length ≤ u64Max) :
    ∃ count, repairPlannedRecords repaired plan model = .ok count (model.withStore
      (replay PageSnapshot.writtenAt model.pageStore (model.appliedImages plan))) := by
  induction plan generalizing model repaired with
  | nil => exact ⟨repaired, rfl⟩
  | cons record plan induction =>
      rw [List.length_cons] at room
      have accepts := accepted record List.mem_cons_self
      have tailAccepted : ∀ other ∈ plan, model.Accepts other :=
        fun other member => accepted other (List.mem_cons_of_mem record member)
      have passes : check (model.checkPlannedRecord record) model = .ok () model :=
        check_ok_iff.mpr ⟨checkPlannedRecord_ok_iff.mpr accepts, rfl⟩
      by_cases applies : model.ShouldApply record
      · rcases imageOf_of_applicable accepts.shape applies with
          ⟨page, value, version, _, planned, image⟩
        let snapshot := model.snapshotOf page value record.position version
        rcases installLagging_succeeds model page snapshot
          (show repaired < u64Max by omega) with ⟨middle, bound, installed⟩
        rcases induction
          (model.withStore
            (install PageSnapshot.writtenAt model.pageStore (page, snapshot))) middle
          tailAccepted (by omega) with ⟨count, succeeds⟩
        refine ⟨count, ?_⟩
        rw [repairPlannedRecords, get_bind, bind_of_ok passes, if_pos applies, planned,
          appliedImages_cons_of_applicable applies image]
        exact (bind_of_ok installed).trans succeeds
      · rcases induction model repaired tailAccepted (by omega) with ⟨count, succeeds⟩
        refine ⟨count, ?_⟩
        rw [repairPlannedRecords, get_bind, bind_of_ok passes, if_neg applies,
          appliedImages_cons_of_not applies]
        exact succeeds

theorem repairSelectedPages_ok {count : Nat}
    (succeeds : repairSelectedPages model.selectedCheckpoint model = .ok count final) :
    final = model.withStore
      (LatestImage.replay PageSnapshot.writtenAt model.pageStore
        model.checkpointImages) := by
  unfold checkpointImages
  cases selected : model.selectedCheckpoint with
  | none =>
      rw [selected] at succeeds
      exact (ok_iff.mp succeeds).2
  | some checkpoint =>
      rw [selected] at succeeds
      exact repairCheckpointPages_ok succeeds

theorem repairSelectedPages_succeeds {held : Nat}
    (heldBound : ∀ checkpoint ∈ model.selectedCheckpoint, checkpoint.pages.size ≤ held)
    (room : held ≤ u64Max) :
    ∃ count, count ≤ held ∧
      repairSelectedPages model.selectedCheckpoint model = .ok count (model.withStore
        (LatestImage.replay PageSnapshot.writtenAt model.pageStore
          model.checkpointImages)) := by
  unfold checkpointImages
  cases selected : model.selectedCheckpoint with
  | none => exact ⟨0, Nat.zero_le held, rfl⟩
  | some checkpoint =>
      have size := heldBound checkpoint selected
      rw [← Std.ExtTreeMap.length_toList] at size
      rcases repairCheckpointPages_succeeds model 0
        checkpoint.pages.toList (by omega) with ⟨count, bound, succeeds⟩
      exact ⟨count, by omega, succeeds⟩

open LatestImage in
theorem repairCheckpointPages_held {repaired : Nat}
    {entries : List (PageId × PageSnapshot)} (held : ∀ entry ∈ entries,
      Holds PageSnapshot.writtenAt model.pageStore entry.1 entry.2.writtenAt) :
    repairCheckpointPages repaired entries model = .ok repaired model := by
  induction entries with
  | nil => rfl
  | cons entry entries induction =>
      have current : ¬StoreLags model.pageStore entry.1
          (entry.2.rebrand model.lineageId).writtenAt :=
        not_lags_iff.mpr (held entry List.mem_cons_self)
      have installed :
          installLagging repaired entry.1 (entry.2.rebrand model.lineageId) model =
          .ok repaired model := by
        rw [installLagging, get_bind, if_neg current]
        rfl
      rw [repairCheckpointPages, get_bind, bind_of_ok installed]
      exact induction fun other member => held other (List.mem_cons_of_mem entry member)

theorem repairPagesInner_ok {count : Nat}
    (succeeds : repairPagesInner model = .ok count final) :
    ∃ plan, model.replayPlan = some plan ∧ (∀ record ∈ plan, model.Accepts record) ∧
      final = model.withStore (model.repairedStore plan) := by
  rw [repairPagesInner, get_bind] at succeeds
  rcases check_bind_ok_iff.mp succeeds with ⟨plan, planned, rest⟩
  have planned := (okOr_ok_iff _ _ _).mp planned
  rcases bind_ok_iff.mp rest with ⟨repaired, middle, checkpointed, tail⟩
  rw [repairSelectedPages_ok checkpointed] at tail
  rcases repairPlannedRecords_ok tail with ⟨accepted, rfl⟩
  refine ⟨plan, planned, accepted, ?_⟩
  rw [repairedStore, LatestImage.replay_append]
  rfl

theorem repairPages_ok {count : Nat} (succeeds : repairPages model = .ok count final) :
    model.phase = .replayPlanned ∧ ∃ plan, model.replayPlan = some plan ∧
      (∀ record ∈ plan, model.Accepts record) ∧
      final = { model.withStore (model.repairedStore plan) with
        phase := .pagesRepaired } := by
  rw [repairPages, get_bind] at succeeds
  rcases check_bind_ok_iff.mp succeeds with ⟨_, planned, rest⟩
  rcases bind_ok_iff.mp rest with ⟨_, _, repaired, tail⟩
  rcases repairPagesInner_ok repaired with ⟨plan, found, accepted, rfl⟩
  refine ⟨by simpa using requirePhase_ok_iff.mp planned, plan, found, accepted, ?_⟩
  rw [modify_bind] at tail
  exact (ok_iff.mp tail).2

theorem repairPagesFault_fails {value : Unit} :
    repairPagesFault model ≠ .ok value final := by
  intro succeeds
  rw [repairPagesFault, get_bind] at succeeds
  rcases check_bind_ok_iff.mp succeeds with ⟨_, _, faults⟩
  simp at faults

/-- Once the selected pages are in, acceptable planned records and room for the
count make repair succeed. -/
theorem repairPagesInner_of_selected {plan : List WalRecord} {repaired : Nat}
    (planned : model.replayPlan = some plan)
    (accepted : ∀ record ∈ plan, model.Accepts record)
    (selected : repairSelectedPages model.selectedCheckpoint model =
      .ok repaired (model.withStore
        (LatestImage.replay PageSnapshot.writtenAt model.pageStore
          model.checkpointImages)))
    (room : repaired + plan.length ≤ u64Max) :
    ∃ count, repairPagesInner model =
      .ok count (model.withStore (model.repairedStore plan)) := by
  let stored :=
    LatestImage.replay PageSnapshot.writtenAt model.pageStore model.checkpointImages
  rcases repairPlannedRecords_succeeds (model.withStore stored) repaired
    accepted room with ⟨count, succeeds⟩
  have found : check (okOr model.replayPlan
      (ModelError.invalidPhase model.phase "repair_pages_inner (no replay plan)")) model =
      .ok plan model := check_ok_iff.mpr ⟨(okOr_ok_iff _ _ _).mpr planned, rfl⟩
  refine ⟨count, ?_⟩
  rw [repairPagesInner, get_bind, bind_of_ok found, bind_of_ok selected, succeeds,
    repairedStore, LatestImage.replay_append]
  rfl

theorem repairPagesInner_succeeds {plan : List WalRecord} {held : Nat}
    (planned : model.replayPlan = some plan)
    (accepted : ∀ record ∈ plan, model.Accepts record)
    (heldBound : ∀ checkpoint ∈ model.selectedCheckpoint, checkpoint.pages.size ≤ held)
    (room : held + plan.length ≤ u64Max) :
    ∃ count, repairPagesInner model =
      .ok count (model.withStore (model.repairedStore plan)) := by
  rcases repairSelectedPages_succeeds heldBound (by omega) with
    ⟨repaired, bound, selected⟩
  exact repairPagesInner_of_selected planned accepted selected (by omega)

theorem repairPages_of_inner {count : Nat} {plan : List WalRecord}
    (planned : model.phase = .replayPlanned)
    (repaired : repairPagesInner model =
      .ok count (model.withStore (model.repairedStore plan))) :
    repairPages model = .ok count
      { model.withStore (model.repairedStore plan) with phase := .pagesRepaired } := by
  have legal :
      check (model.requirePhase [.replayPlanned] "repair_pages") model = .ok () model :=
    check_ok_iff.mpr ⟨requirePhase_ok_iff.mpr (by simp [planned]), rfl⟩
  rw [repairPages, get_bind, bind_of_ok legal, bind_of_ok repaired]
  rfl

theorem repairPagesAppliedFault_of_inner {count : Nat} {plan : List WalRecord}
    (planned : model.phase = .replayPlanned)
    (repaired : repairPagesInner model =
      .ok count (model.withStore (model.repairedStore plan))) :
    repairPagesAppliedFault model = .ok (.appliedThenError count .repairFault)
      { model.withStore (model.repairedStore plan) with phase := .pagesRepaired } := by
  have legal :
      model.requirePhase [.replayPlanned] "repair_pages_applied_fault" = .ok () :=
    requirePhase_ok_iff.mpr (by simp [planned])
  simp only [repairPagesAppliedFault, legal, repaired]

theorem repairPagesAppliedFault_ok {result : Applied Nat ModelError}
    (succeeds : repairPagesAppliedFault model = .ok result final) :
    (∃ error, result = .unapplied error ∧
        (model.phase ≠ .replayPlanned ∧ final = model ∨
          model.phase = .replayPlanned ∧ repairPagesInner model = .error error final)) ∨
      ∃ count plan, result = .appliedThenError count .repairFault ∧
        model.phase = .replayPlanned ∧ model.replayPlan = some plan ∧
        (∀ record ∈ plan, model.Accepts record) ∧
        final = { model.withStore (model.repairedStore plan) with
          phase := .pagesRepaired } := by
  unfold repairPagesAppliedFault at succeeds
  split at succeeds
  · rename_i error refused
    have wrongPhase : model.phase ≠ .replayPlanned := by
      intro planned
      have legal :
          model.requirePhase [.replayPlanned] "repair_pages_applied_fault" = .ok () :=
        requirePhase_ok_iff.mpr (by simp [planned])
      rw [legal] at refused
      cases refused
    rcases ok_iff.mp succeeds with ⟨rfl, rfl⟩
    exact .inl ⟨error, rfl, .inl ⟨wrongPhase, rfl⟩⟩
  · rename_i legal
    have planned : model.phase = .replayPlanned :=
      by simpa using requirePhase_ok_iff.mp legal
    split at succeeds
    · rename_i count middle repaired
      rcases repairPagesInner_ok repaired with ⟨plan, found, accepted, rfl⟩
      rcases ok_iff.mp succeeds with ⟨rfl, rfl⟩
      exact .inr ⟨count, plan, rfl, planned, found, accepted, rfl⟩
    · rename_i error middle failed
      rcases ok_iff.mp succeeds with ⟨rfl, rfl⟩
      exact .inl ⟨error, rfl, .inr ⟨planned, failed⟩⟩

/-! ## Restoration and completion -/

/-- What one replayed record does to the restored tables. -/
def RestoredTransactions.observe (restored : RestoredTransactions) (record : WalRecord) :
    RestoredTransactions :=
  match record.kind, record.transaction with
  | .transactionPage, some txn =>
      { restored with active := restored.active.observePage txn record.position }
  | .transactionCommit, some txn =>
      { active := restored.active.erase txn
        committed := restored.committed.insert txn record.position }
  | _, _ => restored

theorem restoreRecord_ok_iff {restored next : RestoredTransactions} {record : WalRecord} :
    model.restoreRecord restored record = .ok next ↔
      model.Accepts record ∧ next = restored.observe record := by
  simp only [restoreRecord, Except.bind_ok_iff, rejectIf_ok_iff, not_or, not_not,
    validateRecordShape_ok_iff]
  constructor
  · intro accepted
    rcases accepted with ⟨_, ⟨logEqual, lineageEqual⟩, _, shape, rest⟩
    refine ⟨⟨logEqual, lineageEqual, shape⟩, ?_⟩
    split at rest
    · rename_i kind
      simp only [Except.bind_ok_iff, okOr_ok_iff, Except.pure_ok_iff] at rest
      rcases rest with ⟨txn, owner, rfl⟩
      simp [RestoredTransactions.observe, kind, owner]
    · rename_i kind
      simp only [Except.bind_ok_iff, okOr_ok_iff, Except.pure_ok_iff] at rest
      rcases rest with ⟨txn, owner, rfl⟩
      simp [RestoredTransactions.observe, kind, owner]
    · rename_i kind
      simp only [Except.bind_ok_iff, rejectIf_ok_iff, Except.pure_ok_iff] at rest
      rcases rest with ⟨_, _, rfl⟩
      simp [RestoredTransactions.observe, kind]
  · intro accepted
    rcases accepted with ⟨accepts, rfl⟩
    have shape := accepts.shape
    refine ⟨(), ⟨accepts.logId_eq, accepts.lineageId_eq⟩, (), shape, ?_⟩
    cases kind : record.kind with
    | transactionPage =>
        simp only [WalRecord.HasShape, kind] at shape
        rcases Option.isSome_iff_exists.mp shape.1 with ⟨txn, owner⟩
        simp only [RestoredTransactions.observe, kind, owner]
        rfl
    | transactionCommit =>
        simp only [WalRecord.HasShape, kind] at shape
        rcases Option.isSome_iff_exists.mp shape.1 with ⟨txn, owner⟩
        simp only [RestoredTransactions.observe, kind, owner]
        rfl
    | rawPage =>
        simp only [WalRecord.HasShape, kind] at shape
        have orphan := Option.isNone_iff_eq_none.mp shape.1
        simp only [RestoredTransactions.observe, kind, orphan]
        rfl

namespace RecoveryModel

/-- The tables restoring `records` leaves, from the selected checkpoint's
observations. -/
def restoredFrom (model : RecoveryModel) (records : List WalRecord) :
    RestoredTransactions :=
  records.foldl RestoredTransactions.observe
    { active := model.restorationSeed, committed := ∅ }

/-- The model once its transactions are restored under `epoch`. -/
def afterRestore (model : RecoveryModel) (epoch : U64) (plan : List WalRecord) :
    RecoveryModel :=
  { model with
    currentEpoch := some epoch
    nextEpoch := checkedSucc epoch
    nextSequence := some 1
    epochHighWater := some epoch
    activeTransactions := ∅
    persistedTransactions := (model.restoredFrom plan).active
    committedTransactions := (model.restoredFrom plan).committed
    restorationSummary := some
      { freshEpoch := epoch, activeTransactions := (model.restoredFrom plan).active }
    phase := .transactionsRestored }

def completedEvidence (model : RecoveryModel) : CompletionEvidence where
  frontier := model.flushPosition
  generation := model.walGeneration
  selectedAnchor := model.selectedCheckpoint.map CheckpointSnapshot.anchor
  epochHighWater := model.epochHighWater
  stale := false
  staleReason := none

end RecoveryModel

theorem restoreRecords_ok_iff {records : List WalRecord}
    {initial restored : RestoredTransactions} :
    records.foldlM model.restoreRecord initial = .ok restored ↔
      (∀ record ∈ records, model.Accepts record) ∧
        restored = records.foldl RestoredTransactions.observe initial := by
  have stepIff : ∀ (state : RestoredTransactions) (record : WalRecord)
      (next : RestoredTransactions), model.restoreRecord state record = .ok next ↔
        model.Accepts record ∧ next = state.observe record :=
    fun _ _ _ => restoreRecord_ok_iff
  exact Except.foldlM_ok_iff stepIff

theorem restoreTransactions_ok_iff {summary : RestorationSummary} :
    restoreTransactions model = .ok summary final ↔
      ∃ epoch plan, model.phase = .pagesRepaired ∧ model.freshEpoch = .ok epoch ∧
        model.replayPlan = some plan ∧ (∀ record ∈ plan, model.Accepts record) ∧
        summary = ⟨epoch, (model.restoredFrom plan).active⟩ ∧
        final = model.afterRestore epoch plan := by
  simp only [restoreTransactions, get_bind, check_bind_ok_iff, set_bind, pure_apply,
    ok_iff, requirePhase_ok_iff, List.mem_singleton, okOr_ok_iff, restoreRecords_ok_iff]
  constructor
  · intro succeeds
    rcases succeeds with
      ⟨_, repaired, epoch, fresh, plan, planned, _, ⟨accepted, rfl⟩, rfl, rfl⟩
    exact ⟨epoch, plan, repaired, fresh, planned, accepted, rfl, rfl⟩
  · intro succeeds
    rcases succeeds with ⟨epoch, plan, repaired, fresh, planned, accepted, rfl, rfl⟩
    exact ⟨(), repaired, epoch, fresh, plan, planned, _, ⟨accepted, rfl⟩, rfl, rfl⟩

theorem complete_ok_iff {value : Unit} :
    complete model = .ok value final ↔
      model.phase = .transactionsRestored ∧
        final = { model with
          completionEvidence := some model.completedEvidence
          locks := .allLive
          phase := .completeLive } := by
  simp only [complete, get_bind, check_bind_ok_iff, set_apply, ok_iff, true_and,
    requirePhase_ok_iff, List.mem_singleton, exists_const]
  rfl

end Ntsql.Recovery
