import Ntsql.Transaction.RepairPreparation

/-! # Repair runs

Repairs carried out on a store whose writes may each fail, before or after the
target was stored. A run that fails can be made again. -/

namespace Ntsql.Transaction

open SortedTable

variable {width : Nat}

/-! ## The store -/

inductive RepairStoreError where
  | foreignTargetPagePosition (position : LogSequenceNumber)
  | foreignTargetCommitPosition (position : LogSequenceNumber)
  | foreignPermitPagePosition (position : LogSequenceNumber)
  | foreignPermitCommitPosition (position : LogSequenceNumber)
  | permitPagePositionMismatch (expected actual : LogSequenceNumber)
  | permitCommitPositionMismatch (expected actual : Option LogSequenceNumber)
  | sourceNotMatched (actual : RestartCheckpointPageRepairComparison)
  | sourceComparison (source : RestartCheckpointPageRepairComparisonError)
  | writeFailed
deriving DecidableEq

namespace RecoveryStore

/-- Write the target of a repair, as far as the next outcome lets it. -/
def replaceReplayPage (page : DurablePageWalObservation width) :
    EStateM RepairStoreError (RecoveryStore width) Unit := do
  match ← attempt (replace page) with
  | .ok () => return ()
  | .error _ => throw .writeFailed

/-- `compare_and_replace_replay_page` of the page stores. -/
def compareAndReplaceReplayPage (candidate : RestartCheckpointPageRepairCandidate width)
    (permit : RestartCheckpointPageRepairWritePermit) :
    EStateM RepairStoreError (RecoveryStore width) Unit := do
  let store ← get
  let target := candidate.target
  let expectedCommitPosition := target.kind.commitPosition
  check (rejectIf (store.lineage ≠ target.pagePosition.lineage)
    (.foreignTargetPagePosition target.pagePosition))
  check (forM expectedCommitPosition.toList fun position =>
    rejectIf (store.lineage ≠ position.lineage) (.foreignTargetCommitPosition position))
  check (rejectIf (store.lineage ≠ permit.pagePosition.lineage)
    (.foreignPermitPagePosition permit.pagePosition))
  check (forM permit.commitPosition.toList fun position =>
    rejectIf (store.lineage ≠ position.lineage) (.foreignPermitCommitPosition position))
  check (rejectIf (permit.pagePosition ≠ target.pagePosition)
    (.permitPagePositionMismatch target.pagePosition permit.pagePosition))
  check (rejectIf (permit.commitPosition ≠ expectedCommitPosition)
    (.permitCommitPositionMismatch expectedCommitPosition permit.commitPosition))
  let comparison ← check
    ((compareTransactionRestartCheckpointPageRepairCandidate candidate
      (store.page target.page.pageNumber)).mapError .sourceComparison)
  check (rejectIf (comparison ≠ .sourceMatches) (.sourceNotMatched comparison))
  replaceReplayPage target.page

def observe (store : RecoveryStore width) : ObservePage width Empty :=
  fun pageNumber => .ok (store.page pageNumber)

end RecoveryStore

def repairPorts : RepairPorts (RecoveryStore width) Empty RepairStoreError width where
  lineage store := store.lineage
  observePage pageNumber store := store.observe pageNumber
  compareAndReplaceReplayPage := RecoveryStore.compareAndReplaceReplayPage

section Run

variable {lineage : LogLineage}
  {records : List (DurableTransactionRestartObservation width)}
  {store : RecoveryStore width} {repair : PreparedRestartCheckpointPageRepair width}
  {pageNumber : PageNumber}

/-! ## Comparisons -/

theorem latestImage_eq_some {expected : StoredPageSnapshotObservation width}
    (latest : latestImage records pageNumber = some expected) :
    ∃ target, (replayTargets records records pageNumber).getLast? = some target ∧
      snapshotOf target.page = expected :=
  Option.map_eq_some_iff.mp latest

theorem latestImage_backed {expected : StoredPageSnapshotObservation width}
    (latest : latestImage records pageNumber = some expected) :
    Backed records records pageNumber expected := by
  rcases latestImage_eq_some latest with ⟨target, isLast, rfl⟩
  exact backed_iff.mpr ⟨target, List.mem_of_getLast? isLast, rfl⟩

theorem comparePreparedRestartCheckpointPageSource_ok
    (valid : ValidPrefix lineage records)
    {snapshot : Option (StoredPageSnapshotObservation width)}
    (backed : ∀ stored ∈ snapshot, Backed records records pageNumber stored) :
    comparePreparedRestartCheckpointPageSource lineage pageNumber snapshot snapshot =
      .ok () := by
  cases snapshot with
  | none => rfl
  | some stored =>
      rcases (backed stored rfl).identity valid with ⟨number, own⟩
      simp only [comparePreparedRestartCheckpointPageSource, number, own, rejectIf, ne_eq,
        not_true, if_false, okOr, Except.ok_bind]

theorem target_own (valid : ValidPrefix lineage records)
    {target : RestartCheckpointPageRepairTarget width}
    (among : target ∈ replayTargets records records pageNumber) :
    target.page.pageNumber = pageNumber ∧ target.pagePosition.lineage = lineage ∧
      ∀ position ∈ target.kind.commitPosition, position.lineage = lineage := by
  rcases mem_replayTargets.mp among with ⟨⟨record, isRecord, targeted⟩, number⟩
  refine ⟨number, ?_, ?_⟩
  · rw [RestartCheckpointPageRepairTarget.pagePosition, (replayTarget_image targeted).2]
    exact valid.own record isRecord
  · intro position isPosition
    cases record with
    | page page =>
        cases targeted
        cases isPosition
    | transactionPage owned =>
        rcases Option.map_eq_some_iff.mp targeted with ⟨committed, isCommitted, rfl⟩
        cases isPosition
        exact valid.commit_lineage isCommitted
    | commit commit => cases targeted

theorem compare_target_present {target : RestartCheckpointPageRepairTarget width}
    (precondition : RestartCheckpointPageRepairPrecondition width) :
    compareTransactionRestartCheckpointPageRepairCandidate ⟨precondition, target⟩
      (some (snapshotOf target.page)) = .ok .targetAlreadyPresent := by
  have agrees : SnapshotMatchesPreparedRepairTarget (snapshotOf target.page) target :=
    ⟨rfl, rfl, rfl, rfl⟩
  have here : (snapshotOf target.page).requiredPosition = target.pagePosition := rfl
  have number : (snapshotOf target.page).pageNumber = target.page.pageNumber := rfl
  simp only [compareTransactionRestartCheckpointPageRepairCandidate, number, here, agrees,
    rejectIf, ne_eq, not_true, if_false, if_true]
  rfl

theorem compare_source_matches (valid : ValidPrefix lineage records)
    {target : RestartCheckpointPageRepairTarget width}
    (among : target ∈ replayTargets records records pageNumber)
    {snapshot : Option (StoredPageSnapshotObservation width)}
    (backed : ∀ stored ∈ snapshot, Backed records records pageNumber stored)
    (behind : ∀ stored ∈ snapshot, stored.requiredPosition ≠ target.pagePosition) :
    compareTransactionRestartCheckpointPageRepairCandidate
      ⟨preconditionOf snapshot, target⟩ snapshot = .ok .sourceMatches := by
  cases snapshot with
  | none => rfl
  | some stored =>
      rcases (backed stored rfl).identity valid with ⟨number, own⟩
      rcases target_own valid among with ⟨targetNumber, targetOwn, _⟩
      have apart := behind stored rfl
      simp only [compareTransactionRestartCheckpointPageRepairCandidate, preconditionOf,
        Option.elim_some, number, targetNumber, own, targetOwn, apart, rejectIf, ne_eq,
        not_true, if_false, if_true]
      rfl

theorem compareAndReplaceReplayPage_eq (valid : ValidPrefix lineage records)
    (own : store.lineage = lineage) {target : RestartCheckpointPageRepairTarget width}
    (among : target ∈ replayTargets records records pageNumber)
    {precondition : RestartCheckpointPageRepairPrecondition width}
    (matched : compareTransactionRestartCheckpointPageRepairCandidate
      ⟨precondition, target⟩ (store.page pageNumber) = .ok .sourceMatches) :
    RecoveryStore.compareAndReplaceReplayPage ⟨precondition, target⟩ target.permit store =
      RecoveryStore.replaceReplayPage target.page store := by
  rcases target_own valid among with ⟨number, targetOwn, commitOwn⟩
  subst own
  have commits : ∀ error : LogSequenceNumber → RepairStoreError,
      (forM target.kind.commitPosition.toList fun position =>
        rejectIf (¬store.lineage = position.lineage) (error position)) = .ok () := by
    intro error
    rw [Except.forM_ok_iff]
    intro position isPosition
    rw [rejectIf_ok_iff, not_not]
    exact (commitOwn position (by simpa using isPosition)).symm
  rw [← number] at matched
  have position : target.permit.pagePosition = target.pagePosition := rfl
  have commitPosition : target.permit.commitPosition = target.kind.commitPosition := rfl
  simp only [RecoveryStore.compareAndReplaceReplayPage, Operation.get_bind,
    Operation.check_rejectIf_bind, Operation.check_bind_of_ok (commits _), position,
    commitPosition, targetOwn, ne_eq, not_true, if_false, matched, Except.mapError]
  rfl

/-! ## One repair -/

/-- The page is as it was prepared, or already holds its last image. -/
structure Awaits (records : List (DurableTransactionRestartObservation width))
    (store : RecoveryStore width) (repair : PreparedRestartCheckpointPageRepair width)
    (snapshot : Option (StoredPageSnapshotObservation width)) : Prop where
  decides : Decides records snapshot repair
  backed : ∀ stored ∈ snapshot, Backed records records repair.pageNumber stored
  holds : store.page repair.pageNumber = snapshot ∨
    store.page repair.pageNumber = latestImage records repair.pageNumber

inductive Attempted (records : List (DurableTransactionRestartObservation width))
    (repair : PreparedRestartCheckpointPageRepair width) (store : RecoveryStore width) :
    EStateM.Result (RestartCheckpointPageRepairFailureCause Empty RepairStoreError)
      (RecoveryStore width) RestartCheckpointPageRepairOutcome → Prop
  | kept (outcome : RestartCheckpointPageRepairOutcome)
      (holds : store.page repair.pageNumber = latestImage records repair.pageNumber) :
      Attempted records repair store (.ok outcome store)
  | repaired (target : RestartCheckpointPageRepairTarget width)
      (isLatest : (replayTargets records records repair.pageNumber).getLast? =
        some target)
      (behind : store.page repair.pageNumber ≠ latestImage records repair.pageNumber)
      (outcome : store.nextOutcome = .completes) :
      Attempted records repair store
        (.ok (.repaired repair.pageNumber) (store.advance.put target.page))
  | failedBeforeWrite
      (behind : store.page repair.pageNumber ≠ latestImage records repair.pageNumber)
      (outcome : store.nextOutcome = .failsBeforeWrite) :
      Attempted records repair store
        (.error (.storeWrite repair.pageNumber .writeFailed) store.advance)
  | failedAfterWrite (target : RestartCheckpointPageRepairTarget width)
      (isLatest : (replayTargets records records repair.pageNumber).getLast? =
        some target)
      (behind : store.page repair.pageNumber ≠ latestImage records repair.pageNumber)
      (outcome : store.nextOutcome = .failsAfterWrite) :
      Attempted records repair store (.error (.storeWrite repair.pageNumber .writeFailed)
        (store.advance.put target.page))

theorem attemptCandidate_attempted (valid : ValidPrefix lineage records)
    (own : store.lineage = lineage) {target : RestartCheckpointPageRepairTarget width}
    (isLatest : (replayTargets records records repair.pageNumber).getLast? = some target)
    {snapshot : Option (StoredPageSnapshotObservation width)}
    (backed : ∀ stored ∈ snapshot, Backed records records repair.pageNumber stored)
    (behind : ∀ stored ∈ snapshot, stored.requiredPosition ≠ target.pagePosition)
    (holds : store.page repair.pageNumber = snapshot ∨
      store.page repair.pageNumber = latestImage records repair.pageNumber) :
    Attempted records repair store (attemptCandidate repairPorts repair.pageNumber
      ⟨preconditionOf snapshot, target⟩ (store.page repair.pageNumber) store) := by
  have latest :
      latestImage records repair.pageNumber = some (snapshotOf target.page) := by
    rw [latestImage, isLatest]
    rfl
  have among := List.mem_of_getLast? isLatest
  by_cases isTarget : store.page repair.pageNumber = latestImage records repair.pageNumber
  · have present : compareTransactionRestartCheckpointPageRepairCandidate
        ⟨preconditionOf snapshot, target⟩ (some (snapshotOf target.page)) =
          .ok .targetAlreadyPresent := compare_target_present (preconditionOf snapshot)
    rw [attemptCandidate, isTarget, latest,
      Operation.check_bind_of_ok (Except.mapError_ok_iff.mpr present)]
    exact .kept _ (isTarget.trans rfl)
  · have isSource := holds.resolve_right isTarget
    have matched := compare_source_matches valid among backed behind
    have matchedHere : compareTransactionRestartCheckpointPageRepairCandidate
        ⟨preconditionOf snapshot, target⟩ (store.page repair.pageNumber) =
          .ok .sourceMatches := by
      rw [isSource]
      exact matched
    have replaced := compareAndReplaceReplayPage_eq valid own among matchedHere
    have asked : repairPorts.compareAndReplaceReplayPage ⟨preconditionOf snapshot, target⟩
        target.permit store = RecoveryStore.replaceReplayPage target.page store :=
          replaced
    rw [attemptCandidate, isSource,
      Operation.check_bind_of_ok (Except.mapError_ok_iff.mpr matched)]
    simp only [Operation.bind_apply, Operation.attempt_apply, asked]
    rw [RecoveryStore.replaceReplayPage, Operation.bind_apply, Operation.attempt_apply,
      RecoveryStore.replace]
    cases outcome : store.nextOutcome with
    | completes => exact .repaired target isLatest isTarget outcome
    | failsBeforeWrite => exact .failedBeforeWrite isTarget outcome
    | failsAfterWrite => exact .failedAfterWrite target isLatest isTarget outcome

theorem attemptRepair_attempted (valid : ValidPrefix lineage records)
    (own : store.lineage = lineage)
    {snapshot : Option (StoredPageSnapshotObservation width)}
    (awaits : Awaits records store repair snapshot) :
    Attempted records repair store (attemptRepair repairPorts lineage repair store) := by
  have observed : repairPorts.observePage repair.pageNumber store =
      .ok (store.page repair.pageNumber) := rfl
  have compares (expected : Option (StoredPageSnapshotObservation width))
      (current : store.page repair.pageNumber = expected)
      (latest : latestImage records repair.pageNumber = expected) :
      comparePreparedRestartCheckpointPageSource lineage repair.pageNumber expected
        (store.page repair.pageNumber) = .ok () := by
    rw [current]
    refine comparePreparedRestartCheckpointPageSource_ok valid fun stored isStored => ?_
    exact latestImage_backed (latest.trans isStored)
  rw [attemptRepair, Operation.get_bind, observed, Except.mapError,
    Operation.check_bind_of_ok rfl]
  cases awaits.decides with
  | noRequiredImage resolution latest missing =>
      have current : store.page repair.pageNumber = none :=
        awaits.holds.elim (fun held => held.trans missing) fun held => held.trans latest
      simp only [resolution]
      rw [Operation.check_bind_of_ok
        (Except.mapError_ok_iff.mpr (compares none current latest))]
      exact .kept _ (current.trans latest.symm)
  | current expected resolution latest holds targeted =>
      have current : store.page repair.pageNumber = some expected :=
        awaits.holds.elim (fun held => held.trans holds) fun held => held.trans latest
      have compared := compares (some expected) current latest
      rcases resolution with resolution | resolution
      · simp only [resolution]
        rw [Operation.check_bind_of_ok (Except.mapError_ok_iff.mpr compared)]
        exact .kept _ (current.trans latest.symm)
      · simp only [resolution]
        rw [Operation.check_bind_of_ok (Except.mapError_ok_iff.mpr compared)]
        exact .kept _ (current.trans latest.symm)
  | candidate target resolution isTarget latest behind =>
      simp only [resolution, isTarget, okOr]
      rw [Operation.check_bind_of_ok rfl]
      exact attemptCandidate_attempted valid own latest awaits.backed behind awaits.holds

/-! ## Runs -/

/-- Every repair is awaited, in a store of the lineage. -/
structure AwaitsAll (lineage : LogLineage)
    (records : List (DurableTransactionRestartObservation width))
    (repairs : List (PreparedRestartCheckpointPageRepair width))
    (prepared : PageNumber → Option (StoredPageSnapshotObservation width))
    (store : RecoveryStore width) : Prop where
  own : store.lineage = lineage
  each : ∀ repair ∈ repairs, Awaits records store repair (prepared repair.pageNumber)

/-- A page either is left or comes to hold its last image. -/
def Advances (records : List (DurableTransactionRestartObservation width))
    (repairs : List (PreparedRestartCheckpointPageRepair width))
    (store final : RecoveryStore width) : Prop :=
  ∀ pageNumber, final.page pageNumber = store.page pageNumber ∨
    final.page pageNumber = latestImage records pageNumber ∧
      ∃ repair ∈ repairs, repair.pageNumber = pageNumber

variable {prepared : PageNumber → Option (StoredPageSnapshotObservation width)}
  {repairs : List (PreparedRestartCheckpointPageRepair width)}

theorem put_latest (valid : ValidPrefix lineage records)
    {target : RestartCheckpointPageRepairTarget width}
    (isLatest : (replayTargets records records pageNumber).getLast? = some target)
    (other : PageNumber) :
    (store.advance.put target.page).page other =
      if other = pageNumber then latestImage records pageNumber
      else store.page other := by
  have number := (target_own valid (List.mem_of_getLast? isLatest)).1
  rw [RecoveryStore.put]
  simp only [number, latestImage, isLatest, Option.map_some]
  rfl

theorem advances_put (valid : ValidPrefix lineage records)
    {target : RestartCheckpointPageRepairTarget width}
    (isLatest : (replayTargets records records repair.pageNumber).getLast? =
      some target) :
    Advances records [repair] store (store.advance.put target.page) := by
  intro other
  rw [put_latest valid isLatest]
  split
  · rename_i here
    exact .inr ⟨by rw [here], repair, List.mem_cons_self, here.symm⟩
  · exact .inl rfl

theorem Attempted.advances (valid : ValidPrefix lineage records)
    {result : EStateM.Result
      (RestartCheckpointPageRepairFailureCause Empty RepairStoreError)
      (RecoveryStore width) RestartCheckpointPageRepairOutcome}
    (attempted : Attempted records repair store result) :
    (Operation.leaves result).lineage = store.lineage ∧
      Advances records [repair] store (Operation.leaves result) := by
  cases attempted with
  | kept outcome holds => exact ⟨rfl, fun _ => .inl rfl⟩
  | failedBeforeWrite behind outcome => exact ⟨rfl, fun _ => .inl rfl⟩
  | repaired target isLatest behind outcome => exact ⟨rfl, advances_put valid isLatest⟩
  | failedAfterWrite target isLatest behind outcome =>
      exact ⟨rfl, advances_put valid isLatest⟩

theorem Attempted.ok (valid : ValidPrefix lineage records)
    {outcome : RestartCheckpointPageRepairOutcome} {final : RecoveryStore width}
    (attempted : Attempted records repair store (.ok outcome final)) :
    final.page repair.pageNumber = latestImage records repair.pageNumber ∧
      final.outcomes <:+ store.outcomes := by
  cases attempted with
  | kept outcome holds => exact ⟨holds, List.suffix_rfl⟩
  | repaired target isLatest behind outcome =>
      refine ⟨?_, List.tail_suffix _⟩
      rw [put_latest valid isLatest, if_pos rfl]

theorem Attempted.of_latest
    {result : EStateM.Result
      (RestartCheckpointPageRepairFailureCause Empty RepairStoreError)
      (RecoveryStore width) RestartCheckpointPageRepairOutcome}
    (attempted : Attempted records repair store result)
    (latest : store.page repair.pageNumber = latestImage records repair.pageNumber) :
    ∃ outcome, result = .ok outcome store := by
  cases attempted with
  | kept outcome holds => exact ⟨outcome, rfl⟩
  | repaired target isLatest behind outcome => exact absurd latest behind
  | failedBeforeWrite behind outcome => exact absurd latest behind
  | failedAfterWrite target isLatest behind outcome => exact absurd latest behind

theorem Attempted.succeeds
    {result : EStateM.Result
      (RestartCheckpointPageRepairFailureCause Empty RepairStoreError)
      (RecoveryStore width) RestartCheckpointPageRepairOutcome}
    (attempted : Attempted records repair store result)
    (completes : ∀ outcome ∈ store.outcomes, outcome = .completes) :
    ∃ outcome final, result = .ok outcome final := by
  have next : store.nextOutcome = .completes := by
    rw [RecoveryStore.nextOutcome]
    cases outcomes : store.outcomes with
    | nil => rfl
    | cons first rest => exact completes first (outcomes ▸ List.mem_cons_self)
  cases attempted with
  | kept outcome holds => exact ⟨_, _, rfl⟩
  | repaired target isLatest behind outcome => exact ⟨_, _, rfl⟩
  | failedBeforeWrite behind outcome => exact absurd (next.symm.trans outcome) (by simp)
  | failedAfterWrite target isLatest behind outcome =>
      exact absurd (next.symm.trans outcome) (by simp)

theorem AwaitsAll.tail
    (awaits : AwaitsAll lineage records (repair :: repairs) prepared store) :
    AwaitsAll lineage records repairs prepared store where
  own := awaits.own
  each other among := awaits.each other (List.mem_cons_of_mem repair among)

theorem AwaitsAll.advances {final : RecoveryStore width}
    {attempted : List (PreparedRestartCheckpointPageRepair width)}
    (awaits : AwaitsAll lineage records repairs prepared store)
    (same : final.lineage = store.lineage)
    (advances : Advances records attempted store final) :
    AwaitsAll lineage records repairs prepared final where
  own := same.trans awaits.own
  each repair among := by
    have awaited := awaits.each repair among
    refine ⟨awaited.decides, awaited.backed, ?_⟩
    rcases advances repair.pageNumber with unchanged | advanced
    · rw [unchanged]
      exact awaited.holds
    · exact .inr advanced.1

theorem Advances.refl (records : List (DurableTransactionRestartObservation width))
    (repairs : List (PreparedRestartCheckpointPageRepair width))
    (store : RecoveryStore width) :
    Advances records repairs store store :=
  fun _ => .inl rfl

theorem Advances.trans {middle final : RecoveryStore width}
    {rest : List (PreparedRestartCheckpointPageRepair width)}
    (first : Advances records [repair] store middle)
    (later : Advances records rest middle final) :
    Advances records (repair :: rest) store final := by
  intro pageNumber
  rcases later pageNumber with unchanged | ⟨advanced, other, among, here⟩
  · rcases first pageNumber with same | ⟨advanced, other, among, here⟩
    · exact .inl (unchanged.trans same)
    · rw [List.mem_singleton.mp among] at here
      exact .inr ⟨unchanged.trans advanced, repair, List.mem_cons_self, here⟩
  · exact .inr ⟨advanced, other, List.mem_cons_of_mem repair among, here⟩

theorem attemptRepairs_cons (completed : List RestartCheckpointPageRepairOutcome)
    (repair : PreparedRestartCheckpointPageRepair width)
    (repairs : List (PreparedRestartCheckpointPageRepair width)) :
    attemptRepairs repairPorts lineage completed (repair :: repairs) store =
      (match attemptRepair repairPorts lineage repair store with
        | .ok outcome middle =>
            attemptRepairs repairPorts lineage (completed ++ [outcome]) repairs middle
        | .error cause middle => .error (completed, cause) middle) := by
  rw [attemptRepairs, Operation.bind_apply, Operation.attempt_apply]
  cases attemptRepair repairPorts lineage repair store <;> rfl

/-- A run leaves or advances every page, and one that succeeds has repaired all. -/
theorem attemptRepairs_advances (valid : ValidPrefix lineage records)
    (awaits : AwaitsAll lineage records repairs prepared store)
    (completed : List RestartCheckpointPageRepairOutcome) :
    (Operation.leaves
      (attemptRepairs repairPorts lineage completed repairs store)).lineage =
        store.lineage ∧
      Advances records repairs store
        (Operation.leaves (attemptRepairs repairPorts lineage completed repairs store)) ∧
      ∀ outcomes final, attemptRepairs repairPorts lineage completed repairs store =
          .ok outcomes final →
        ∀ repair ∈ repairs,
          final.page repair.pageNumber = latestImage records repair.pageNumber := by
  induction repairs generalizing store completed with
  | nil =>
      exact ⟨rfl, Advances.refl records [] store, fun _ _ _ _ among => by cases among⟩
  | cons repair repairs induction =>
      have attempted := attemptRepair_attempted valid awaits.own
        (awaits.each repair List.mem_cons_self)
      have kept := attempted.advances valid
      rw [attemptRepairs_cons]
      cases result : attemptRepair repairPorts lineage repair store with
      | error cause middle =>
          rw [result] at kept
          refine ⟨kept.1, kept.2.trans (Advances.refl records repairs middle), ?_⟩
          intro outcomes final succeeds
          cases succeeds
      | ok outcome middle =>
          rw [result] at kept attempted
          have awaited : AwaitsAll lineage records repairs prepared middle :=
            awaits.tail.advances kept.1 kept.2
          rcases induction awaited (completed ++ [outcome]) with ⟨same, advances, all⟩
          refine ⟨same.trans kept.1, kept.2.trans advances, ?_⟩
          intro outcomes final succeeds other among
          rcases List.mem_cons.mp among with rfl | later
          · have here := attempted.ok valid
            have succeeds :
                attemptRepairs repairPorts lineage (completed ++ [outcome]) repairs
                middle = .ok outcomes final := succeeds
            rw [succeeds] at advances
            rcases advances other.pageNumber with unchanged | advanced
            · exact unchanged.trans here.1
            · exact advanced.1
          · exact all outcomes final succeeds other later

theorem attemptRepairs_succeeds (valid : ValidPrefix lineage records)
    (awaits : AwaitsAll lineage records repairs prepared store)
    (completes : ∀ outcome ∈ store.outcomes, outcome = .completes)
    (completed : List RestartCheckpointPageRepairOutcome) :
    ∃ outcomes final, attemptRepairs repairPorts lineage completed repairs store =
      .ok outcomes final := by
  induction repairs generalizing store completed with
  | nil => exact ⟨_, _, rfl⟩
  | cons repair repairs induction =>
      have attempted := attemptRepair_attempted valid awaits.own
        (awaits.each repair List.mem_cons_self)
      rcases attempted.succeeds completes with ⟨outcome, middle, result⟩
      rw [result] at attempted
      have kept := attempted.advances valid
      have awaited := awaits.tail.advances kept.1 kept.2
      have still : ∀ outcome ∈ middle.outcomes, outcome = .completes :=
        fun outcome among => completes outcome ((attempted.ok valid).2.subset among)
      rw [attemptRepairs_cons, result]
      exact induction awaited still _

end Run

/-! ## From a checkpoint -/

section Result

variable {lineage : LogLineage}
  {records : List (DurableTransactionRestartObservation width)}
  {base store : RecoveryStore width} {baseline : RestartCheckpointCompletenessBaseline}
  {checkpointFrontier : Option U64}

def HasRecord (records : List (DurableTransactionRestartObservation width))
    (pageNumber : PageNumber) : Prop :=
  ∃ record ∈ records, ∃ page, record.pageImage = some page ∧ page.pageNumber = pageNumber

def HasRecordWithin (records : List (DurableTransactionRestartObservation width))
    (frontier : Option U64) (pageNumber : PageNumber) : Prop :=
  ∃ record ∈ records, (∃ bound ∈ frontier, record.position.get ≤ bound) ∧
    ∃ page, record.pageImage = some page ∧ page.pageNumber = pageNumber

/-- The store that a checkpoint was derived against, except that pages without a
record up to it may since hold an image of their own that counts. -/
structure AdvancedStore (lineage : LogLineage)
    (records : List (DurableTransactionRestartObservation width)) (frontier : Option U64)
    (base store : RecoveryStore width) : Prop where
  own : store.lineage = lineage
  unmoved : ∀ pageNumber, HasRecordWithin records frontier pageNumber →
    store.page pageNumber = base.page pageNumber
  advanced : ∀ pageNumber, HasRecord records pageNumber →
    ¬HasRecordWithin records frontier pageNumber →
      ∀ stored ∈ store.page pageNumber, Backed records records pageNumber stored

theorem PagesOf.congr {StoreError : Type}
    {selected : List (DurableTransactionRestartObservation width)}
    {observePage other : ObservePage width StoreError} {numbers : List PageNumber}
    {pages : List RestartPageEntry}
    (isPages : PagesOf selected selected observePage numbers pages)
    (same : ∀ pageNumber ∈ numbers, other pageNumber = observePage pageNumber) :
    PagesOf selected selected other numbers pages := by
  induction isPages with
  | nil => exact .nil
  | @cons pageNumber entry numbers pages here _ induction =>
      rcases here with ⟨snapshot, observed, shows, isEntry⟩
      refine .cons ⟨snapshot, ?_, shows, isEntry⟩
        (induction fun other among => same other (List.mem_cons_of_mem pageNumber among))
      rw [same pageNumber List.mem_cons_self, observed]

theorem mem_selected_numbers
    {selected : List (DurableTransactionRestartObservation width)}
    (valid : ValidPrefix lineage records) (selects : selected <+: records)
    {pageNumber : PageNumber} :
    pageNumber ∈ restartPageNumbers [] selected ↔
      HasRecordWithin records ((lastPosition selected).map (·.get)) pageNumber := by
  rw [mem_restartPageNumbers]
  constructor
  · intro listed
    rcases listed with ⟨_, none, _⟩ | ⟨record, isRecord, page, image, number⟩
    · cases none
    · rcases ((valid.of_prefix selects).bounded isRecord).2 with ⟨bound, isBound, below⟩
      exact ⟨record, selects.subset isRecord, ⟨bound, isBound, below⟩, page,
        image, number⟩
  · intro within
    rcases within with ⟨record, isRecord, ⟨bound, isBound, below⟩, page, image, number⟩
    rcases Option.map_eq_some_iff.mp isBound with ⟨position, isLast, rfl⟩
    rcases Option.map_eq_some_iff.mp isLast with ⟨last, isTail, rfl⟩
    have among :=
      valid.mem_selected_of_le selects (List.mem_of_getLast? isTail) isRecord below
    exact .inr ⟨record, among, page, image, number⟩

theorem CheckpointOf.of_advanced
    {selected : List (DurableTransactionRestartObservation width)}
    (checkpoint : CheckpointOf lineage selected base.observe baseline)
    (unmoved : ∀ pageNumber ∈ restartPageNumbers [] selected,
      store.page pageNumber = base.page pageNumber) :
    CheckpointOf lineage selected store.observe baseline := by
  rcases checkpoint.complete with ⟨analysis, analyzed, samePages, sameStart⟩
  rcases analyzeRestartCompletenessEvidence_ok_iff.mp analyzed with
    ⟨valid, isFrontier, ownLineage, ownFrontier, table, isPages, isStart⟩
  have sameObserved : ∀ pageNumber ∈ restartPageNumbers [] selected,
      store.observe pageNumber = base.observe pageNumber := by
    intro pageNumber listed
    rw [RecoveryStore.observe, RecoveryStore.observe, unmoved pageNumber listed]
  have again := isPages.congr sameObserved
  exact ⟨checkpoint.persistent, checkpoint.frontier, checkpoint.transactions, analysis,
    analyzeRestartCompletenessEvidence_ok_iff.mpr
      ⟨valid, isFrontier, ownLineage, ownFrontier, table, again, isStart⟩,
        samePages, sameStart⟩

theorem planSelectedRestartCheckpointReplayEvidence_ok
    (valid : ValidPrefix lineage records)
    {selected : List (DurableTransactionRestartObservation width)}
    (selects : selected <+: records)
    (checkpoint : CheckpointOf lineage selected store.observe baseline) :
    ∃ before window analysis, planSelectedRestartCheckpointReplayEvidence lineage
        (lastPosition records) records store.observe baseline =
          .ok ⟨analysis, window, []⟩ ∧
      analysis.lineage = lineage ∧ TableOf records analysis.transactions ∧
      WindowOf records selected before window baseline := by
  rcases selectReplayWindow_windowOf valid selects checkpoint with
    ⟨before, window, selectsWindow, windowOf⟩
  rcases exists_tableOf records with ⟨transactions, table⟩
  have rederived : deriveRestartCheckpointCompletenessBaselineEvidence lineage
      (lastPosition records) records store.observe
        baseline.transactionBaseline.durableFrontier =
        .ok baseline :=
    (deriveRestartCheckpointCompletenessBaselineEvidence_ok_iff valid).mpr
      ⟨selected, selects, checkpoint.frontier, checkpoint⟩
  have analyzed :
      analyzeDurableTransactionRestartEvidence lineage (lastPosition records) records =
      .ok ⟨lineage, lastPosition records, transactions⟩ :=
    analyzeDurableTransactionRestartEvidence_ok_iff.mpr ⟨valid, rfl, rfl, rfl, table⟩
  refine ⟨before, window, ⟨lineage, lastPosition records, transactions⟩, ?_, rfl,
    table, windowOf⟩
  rw [planSelectedRestartCheckpointReplayEvidence, rederived, analyzed, selectsWindow]
  simp only [Except.mapError, Except.ok_bind, rejectIf, ne_eq, not_true, if_false]
  rfl

theorem AdvancedStore.backed
    {selected : List (DurableTransactionRestartObservation width)}
    (valid : ValidPrefix lineage records) (selects : selected <+: records)
    (checkpoint : CheckpointOf lineage selected base.observe baseline)
    (advanced : AdvancedStore lineage records
      ((lastPosition selected).map (·.get)) base store)
    {pageNumber : PageNumber} (has : HasRecord records pageNumber) :
    ∀ stored ∈ store.page pageNumber, Backed records records pageNumber stored := by
  by_cases within :
    HasRecordWithin records ((lastPosition selected).map (·.get)) pageNumber
  · intro stored isStored
    rw [advanced.unmoved pageNumber within] at isStored
    rcases checkpoint.complete with ⟨analysis, analyzed, _, _⟩
    rcases analyzeRestartCompletenessEvidence_ok_iff.mp analyzed with
      ⟨_, _, _, _, _, isPages, _⟩
    have listed := (mem_selected_numbers valid selects).mpr within
    rw [← isPages.numbers] at listed
    rcases List.mem_map.mp listed with ⟨entry, among, rfl⟩
    rcases isPages.row among with ⟨snapshot, observed, shows, _⟩
    have same : base.page entry.pageNumber = snapshot := Except.ok.inj observed
    rcases selects with ⟨rest, rfl⟩
    exact Backed.of_selected ⟨rest, rfl⟩ valid (shows stored (same ▸ isStored))
  · exact advanced.advanced pageNumber has within

/-- Restart from a checkpoint: the window is planned, and the repairs of its
pages are prepared and can be carried out. -/
structure Repairs (lineage : LogLineage)
    (records : List (DurableTransactionRestartObservation width))
    (store : RecoveryStore width) (baseline : RestartCheckpointCompletenessBaseline)
    (planned : MaterializedRestartCheckpointReplay width)
    (repairs : List (PreparedRestartCheckpointPageRepair width)) : Prop where
  plans : planSelectedRestartCheckpointReplayEvidence lineage
    (lastPosition records) records store.observe baseline = .ok planned
  prepares :
    prepareTransactionRestartCheckpointPageRepairs store.lineage store.observe baseline
    planned = .ok repairs
  own : planned.currentAnalysis.lineage = lineage
  within : ∀ record ∈ planned.replayObservations, record ∈ records
  numbers : repairs.map (·.pageNumber) = replayPageNumbers planned.replayObservations
  awaits : AwaitsAll lineage records repairs store.page store
  untouched : ∀ pageNumber, HasRecord records pageNumber →
    pageNumber ∉ replayPageNumbers planned.replayObservations →
      store.page pageNumber = latestImage records pageNumber

theorem Repairs.latest {planned : MaterializedRestartCheckpointReplay width}
    {repairs : List (PreparedRestartCheckpointPageRepair width)}
    (ready : Repairs lineage records store baseline planned repairs)
    {final : RecoveryStore width} (advances : Advances records repairs store final)
    (repaired : ∀ repair ∈ repairs,
      final.page repair.pageNumber = latestImage records repair.pageNumber) :
    ∀ pageNumber, HasRecord records pageNumber →
      final.page pageNumber = latestImage records pageNumber := by
  intro pageNumber has
  by_cases replayed : pageNumber ∈ replayPageNumbers planned.replayObservations
  · rw [← ready.numbers] at replayed
    rcases List.mem_map.mp replayed with ⟨repair, among, rfl⟩
    exact repaired repair among
  · rcases advances pageNumber with unchanged | ⟨held, _⟩
    · rw [unchanged]
      exact ready.untouched pageNumber has replayed
    · exact held

theorem Repairs.analyzed {planned : MaterializedRestartCheckpointReplay width}
    {repairs : List (PreparedRestartCheckpointPageRepair width)}
    (ready : Repairs lineage records store baseline planned repairs) :
    analyzeDurableTransactionRestartEvidence lineage (lastPosition records) records =
      .ok planned.currentAnalysis := by
  have plans := ready.plans
  simp only [planSelectedRestartCheckpointReplayEvidence, Except.bind_ok_iff,
    Except.mapError_ok_iff, Except.pure_ok_iff] at plans
  rcases plans with ⟨_, _, _, _, analysis, analyzed, window, _, rfl⟩
  exact analyzed

theorem Repairs.hasRecord {planned : MaterializedRestartCheckpointReplay width}
    {repairs : List (PreparedRestartCheckpointPageRepair width)}
    (ready : Repairs lineage records store baseline planned repairs)
    {repair : PreparedRestartCheckpointPageRepair width} (among : repair ∈ repairs) :
    HasRecord records repair.pageNumber := by
  have listed : repair.pageNumber ∈ replayPageNumbers planned.replayObservations := by
    rw [← ready.numbers]
    exact List.mem_map_of_mem among
  rcases mem_replayPageNumbers.mp listed with ⟨record, isRecord, found⟩
  exact ⟨record, ready.within record isRecord, found⟩

theorem AdvancedStore.backed_of_derived (valid : ValidPrefix lineage records)
    (derived : deriveRestartCheckpointCompletenessBaselineEvidence lineage
      (lastPosition records) records base.observe checkpointFrontier = .ok baseline)
    (advanced : AdvancedStore lineage records checkpointFrontier base store)
    {pageNumber : PageNumber} (has : HasRecord records pageNumber) :
    ∀ stored ∈ store.page pageNumber, Backed records records pageNumber stored := by
  rcases (deriveRestartCheckpointCompletenessBaselineEvidence_ok_iff valid).mp
    derived with ⟨selected, selects, rfl, checkpoint⟩
  exact advanced.backed valid selects checkpoint has

theorem decided_each {page : PageNumber → Option (StoredPageSnapshotObservation width)}
    {numbers : List PageNumber}
    {repairs : List (PreparedRestartCheckpointPageRepair width)}
    (decided : List.Forall₂ (fun pageNumber repair => repair.pageNumber = pageNumber ∧
      Decides records (page pageNumber) repair) numbers repairs) :
    repairs.map (·.pageNumber) = numbers ∧
      ∀ repair ∈ repairs, Decides records (page repair.pageNumber) repair := by
  induction decided with
  | nil => exact ⟨rfl, fun _ among => by cases among⟩
  | cons here _ induction =>
      rcases here with ⟨rfl, decides⟩
      rw [List.map_cons, induction.1]
      exact ⟨rfl, List.forall_mem_cons.mpr ⟨decides, induction.2⟩⟩

theorem exists_repairs (valid : ValidPrefix lineage records)
    (derived : deriveRestartCheckpointCompletenessBaselineEvidence lineage
      (lastPosition records) records base.observe checkpointFrontier = .ok baseline)
    (advanced : AdvancedStore lineage records checkpointFrontier base store) :
    ∃ planned repairs, Repairs lineage records store baseline planned repairs := by
  rcases (deriveRestartCheckpointCompletenessBaselineEvidence_ok_iff valid).mp
    derived with ⟨selected, selects, rfl, checkpoint⟩
  have counted : ∀ pageNumber, HasRecord records pageNumber →
      ∀ stored ∈ store.page pageNumber, Backed records records pageNumber stored :=
    fun _ has => advanced.backed valid selects checkpoint has
  have unmoved : ∀ pageNumber ∈ restartPageNumbers [] selected,
      store.page pageNumber = base.page pageNumber := fun pageNumber listed =>
    advanced.unmoved pageNumber ((mem_selected_numbers valid selects).mp listed)
  have current := checkpoint.of_advanced unmoved
  rcases planSelectedRestartCheckpointReplayEvidence_ok valid selects current with
    ⟨before, window, analysis, plans, own, table, windowOf⟩
  rcases current.complete with ⟨completeness, analyzed, samePages, _⟩
  rcases analyzeRestartCompletenessEvidence_ok_iff.mp analyzed with
    ⟨_, _, _, _, _, isPages, _⟩
  rw [← samePages] at isPages
  have split := windowOf.split
  subst split
  have has : ∀ pageNumber ∈ replayPageNumbers window,
      HasRecord (before ++ window) pageNumber := by
    intro pageNumber listed
    rcases mem_replayPageNumbers.mp listed with ⟨record, among, found⟩
    exact ⟨record, List.mem_append_right before among, found⟩
  rcases prepare_ok valid selects windowOf table own isPages [] store.page
    (fun _ _ _ => rfl)
    (fun pageNumber listed _ => counted pageNumber (has pageNumber listed)) with
    ⟨repairs, prepares, decided⟩
  rcases decided_each decided with ⟨numbers, each⟩
  refine ⟨⟨analysis, window, []⟩, repairs, plans, ?_, own,
    fun record among => List.mem_append_right before among, numbers, ?_, ?_⟩
  · rw [advanced.own]
    exact prepares
  · refine ⟨advanced.own, fun repair among => ⟨each repair among, ?_, .inl rfl⟩⟩
    have listed : repair.pageNumber ∈ replayPageNumbers window := by
      rw [← numbers]
      exact List.mem_map_of_mem among
    exact counted repair.pageNumber (has repair.pageNumber listed)
  · intro pageNumber hasRecord unlisted
    rcases hasRecord with ⟨record, isRecord, page, image, number⟩
    have early : record ∈ before := by
      refine (List.mem_append.mp isRecord).resolve_right fun late => unlisted ?_
      exact mem_replayPageNumbers.mpr ⟨record, late, page, image, number⟩
    have nothing : replayTargets (before ++ window) window pageNumber = [] := by
      rw [List.eq_nil_iff_forall_not_mem]
      intro target isTarget
      rcases mem_replayTargets.mp isTarget with ⟨⟨other, isOther, targeted⟩, here⟩
      exact unlisted (mem_replayPageNumbers.mpr
        ⟨other, isOther, target.page, (replayTarget_image targeted).1, here⟩)
    have listed : pageNumber ∈ restartPageNumbers [] selected :=
      mem_restartPageNumbers.mpr
        (.inr ⟨record, windowOf.within record early, page, image, number⟩)
    exact (latestImage_of_untouched valid selects windowOf isPages listed
      nothing rfl).symm

theorem restartStateOf_latestImage
    (records : List (DurableTransactionRestartObservation width))
    (pageNumber : PageNumber) :
    let state := restartStateOf (requiredImage records records pageNumber)
      ((latestImage records pageNumber).map (·.requiredPosition.get))
    state.observe = .storeCurrent ∨ state.observe = .noRequiredImage := by
  have pages := congrArg List.getLast? (replayTargets_pages records records pageNumber)
  rw [List.getLast?_map, List.getLast?_map] at pages
  simp only [latestImage, requiredImage]
  cases last : (requirements records records pageNumber).getLast? with
  | none =>
      right
      simp [restartStateOf, RestartPageState.observe]
  | some image =>
      left
      rw [last] at pages
      rcases Option.map_eq_some_iff.mp pages with ⟨target, isTarget, here⟩
      have position :
          (snapshotOf target.page).requiredPosition.get = image.2.pagePosition := by
        rw [requirements_position (List.mem_of_getLast? last)]
        exact congrArg (fun page => page.position.get) here
      simp [isTarget, restartStateOf, position, RestartPageState.observe]

/-- The whole prefix finds every page current, or without an image that counts. -/
theorem analysis_of_latest (valid : ValidPrefix lineage records)
    (latest : ∀ pageNumber, HasRecord records pageNumber →
      store.page pageNumber = latestImage records pageNumber) :
    ∃ completeness,
      analyzeRestartCompletenessEvidence lineage (lastPosition records) records
        store.observe = .ok completeness ∧
      ∀ entry ∈ completeness.pages,
        entry.state.observe = .storeCurrent ∨ entry.state.observe = .noRequiredImage := by
  have held : ∀ pageNumber ∈ restartPageNumbers [] records,
      store.page pageNumber = latestImage records pageNumber := by
    intro pageNumber listed
    rcases mem_restartPageNumbers.mp listed with ⟨_, none, _⟩ | has
    · cases none
    · exact latest pageNumber has
  let rowOf (pageNumber : PageNumber) : RestartPageEntry :=
    ⟨pageNumber, restartStateOf (requiredImage records records pageNumber)
      ((store.page pageNumber).map (·.requiredPosition.get))⟩
  have isPages : PagesOf records records store.observe (restartPageNumbers [] records)
      ((restartPageNumbers [] records).map rowOf) := by
    rw [PagesOf, List.forall₂_map_right_iff, List.forall₂_same]
    intro pageNumber listed
    refine ⟨store.page pageNumber, rfl, fun stored isStored => ?_, rfl⟩
    exact latestImage_backed ((held pageNumber listed).symm.trans isStored)
  rcases exists_tableOf records with ⟨transactions, table⟩
  let analysis : RestartAnalysis := ⟨lineage, lastPosition records, transactions⟩
  let pages := (restartPageNumbers [] records).map rowOf
  refine ⟨⟨analysis, pages, replayStartOf ((lastPosition records).map (·.get))
    (lowestNeed (analysis.needs pages))⟩, ?_, ?_⟩
  · exact analyzeRestartCompletenessEvidence_ok_iff.mpr
      ⟨valid, rfl, rfl, rfl, table, isPages, rfl⟩
  · intro entry among
    rcases List.mem_map.mp among with ⟨pageNumber, listed, rfl⟩
    simp only [rowOf]
    rw [held pageNumber listed]
    exact restartStateOf_latestImage records pageNumber

theorem attemptPreparedTransactionRestartCheckpointPageRepairs_eq
    {replayLineage : LogLineage}
    {repairs : List (PreparedRestartCheckpointPageRepair width)}
    (own : store.lineage = replayLineage)
    (completed : List RestartCheckpointPageRepairOutcome) :
    attemptPreparedTransactionRestartCheckpointPageRepairs repairPorts
      replayLineage completed repairs store =
      attemptRepairs repairPorts replayLineage completed repairs store := by
  subst own
  have same : repairPorts.lineage store = store.lineage := rfl
  simp only [attemptPreparedTransactionRestartCheckpointPageRepairs, Operation.get_bind,
    same, Operation.check_rejectIf_bind, ne_eq, not_true, if_false]

/-- Restart from a checkpoint brings every page of the log to the last image that
counts, and leaves the pages without a record in the window. -/
theorem checkpoint_repair_restores_latest_images (valid : ValidPrefix lineage records)
    (derived : deriveRestartCheckpointCompletenessBaselineEvidence lineage
      (lastPosition records) records base.observe checkpointFrontier = .ok baseline)
    (advanced : AdvancedStore lineage records checkpointFrontier base store)
    (completes : ∀ outcome ∈ store.outcomes, outcome = .completes) :
    ∃ planned repairs outcomes final,
      planSelectedRestartCheckpointReplayEvidence lineage (lastPosition records) records
        store.observe baseline = .ok planned ∧
      prepareTransactionRestartCheckpointPageRepairs store.lineage store.observe
        baseline planned = .ok repairs ∧
      attemptPreparedTransactionRestartCheckpointPageRepairs repairPorts
        planned.currentAnalysis.lineage [] repairs store = .ok outcomes final ∧
      (∀ pageNumber, HasRecord records pageNumber →
        final.page pageNumber = latestImage records pageNumber) ∧
      (∀ pageNumber, ¬HasRecord planned.replayObservations pageNumber →
        final.page pageNumber = store.page pageNumber) ∧
      ∃ completeness,
        analyzeRestartCompletenessEvidence lineage (lastPosition records) records
          final.observe = .ok completeness ∧
        ∀ entry ∈ completeness.pages,
          entry.state.observe = .storeCurrent ∨
            entry.state.observe = .noRequiredImage := by
  rcases exists_repairs valid derived advanced with ⟨planned, repairs, ready⟩
  rcases attemptRepairs_succeeds valid ready.awaits completes [] with
    ⟨outcomes, final, succeeds⟩
  rcases attemptRepairs_advances valid ready.awaits [] with ⟨_, advances, repaired⟩
  rw [succeeds] at advances
  have listed : ∀ pageNumber, pageNumber ∈ replayPageNumbers planned.replayObservations ↔
      HasRecord planned.replayObservations pageNumber := fun _ => mem_replayPageNumbers
  have unchanged : ∀ pageNumber, ¬HasRecord planned.replayObservations pageNumber →
      final.page pageNumber = store.page pageNumber := by
    intro pageNumber without
    rcases advances pageNumber with same | ⟨_, repair, among, here⟩
    · exact same
    · refine absurd ((listed pageNumber).mp ?_) without
      rw [← ready.numbers, ← here]
      exact List.mem_map_of_mem among
  have latest := ready.latest advances (repaired outcomes final succeeds)
  refine ⟨planned, repairs, outcomes, final, ready.plans, ready.prepares, ?_,
    latest, unchanged, analysis_of_latest valid latest⟩
  rw [ready.own,
    attemptPreparedTransactionRestartCheckpointPageRepairs_eq ready.awaits.own]
  exact succeeds

end Result

section Example

def repairedBaseline : RestartCheckpointCompletenessBaseline where
  transactionBaseline := ⟨.min, some 1,
    [⟨materializedTransaction, some 1, some 1, 1, .uncommitted⟩]⟩
  pages := [⟨.min, .noRequiredImage⟩]
  replayStart := .atPosition 1 (.uncommittedTransaction materializedTransaction)

/-- A store of the lineage that holds at most one page. -/
def repairedStore (held : Option (StoredPageSnapshotObservation 1)) :
    RecoveryStore 1 where
  lineage := materializedLineage
  page := fun pageNumber => if pageNumber = .min then held else none
  outcomes := []

theorem materializedRecords_valid :
    ValidPrefix materializedLineage materializedRecords where
  own := by decide
  ordered := by decide
  final :=
    by simp [materializedRecords, DurableTransactionRestartObservation.commitRecord]

theorem AdvancedStore.refl {base : RecoveryStore width}
    {records : List (DurableTransactionRestartObservation width)} {frontier : Option U64}
    (holds : ∀ pageNumber, HasRecord records pageNumber →
      ¬HasRecordWithin records frontier pageNumber →
        ∀ stored ∈ base.page pageNumber, Backed records records pageNumber stored) :
    AdvancedStore base.lineage records frontier base base :=
  ⟨rfl, fun _ _ => rfl, holds⟩

theorem repairedBaseline_derived :
    deriveRestartCheckpointCompletenessBaselineEvidence materializedLineage
      (lastPosition materializedRecords) materializedRecords
        (repairedStore none).observe (some 1) = .ok repairedBaseline := by
  decide +kernel

theorem repairedStore_advanced :
    AdvancedStore materializedLineage materializedRecords (some 1) (repairedStore none)
      (repairedStore none) :=
  AdvancedStore.refl fun pageNumber _ _ stored isStored => by
    have nothing : (repairedStore none).page pageNumber = none := ite_self none
    rw [nothing] at isStored
    cases isStored

/-- The page that was committed after the checkpoint. -/
def latePage : DurablePageWalObservation 1 :=
  ⟨.min, ⟨0⟩, Bytes.singleton 8, ⟨materializedLineage, 1⟩, u64_one_ne_zero⟩

def latePlan : MaterializedRestartCheckpointReplay 1 where
  currentAnalysis := ⟨materializedLineage, some ⟨materializedLineage, 2⟩,
    [⟨materializedTransaction, some ⟨materializedLineage, 1⟩,
      some ⟨materializedLineage, 1⟩, 1, .committed ⟨materializedLineage, 2⟩⟩]⟩
  replayObservations := materializedRecords
  retainedObservations := []

def lateRepair : PreparedRestartCheckpointPageRepair 1 where
  pageNumber := .min
  sourceExpectation := .missingAtCheckpoint
  target := some
    ⟨.committedTransaction materializedTransaction ⟨materializedLineage, 2⟩, latePage⟩
  unchangedCheckpointCurrent := false
  resolution := .candidate none

theorem latePlan_planned :
    planSelectedRestartCheckpointReplayEvidence materializedLineage
      (lastPosition materializedRecords) materializedRecords (repairedStore none).observe
      repairedBaseline = .ok latePlan := by
  decide +kernel

theorem lateRepair_prepared :
    prepareTransactionRestartCheckpointPageRepairs materializedLineage
      (repairedStore none).observe repairedBaseline latePlan = .ok [lateRepair] := by
  decide +kernel

theorem lateRepair_attempted :
    attemptPreparedTransactionRestartCheckpointPageRepairs repairPorts
      materializedLineage [] [lateRepair] (repairedStore none) =
      .ok [.repaired .min] ((repairedStore none).advance.put latePage) := rfl

/-- A page that was committed after the checkpoint is written, and no other. -/
theorem late_commit_is_repaired :
    planSelectedRestartCheckpointReplayEvidence materializedLineage
      (lastPosition materializedRecords) materializedRecords (repairedStore none).observe
      repairedBaseline = .ok latePlan ∧
    prepareTransactionRestartCheckpointPageRepairs materializedLineage
      (repairedStore none).observe repairedBaseline latePlan = .ok [lateRepair] ∧
    ∃ final, attemptPreparedTransactionRestartCheckpointPageRepairs repairPorts
        materializedLineage [] [lateRepair] (repairedStore none) =
          .ok [.repaired .min] final ∧
      final.page .min = some (snapshotOf latePage) ∧
      (∀ pageNumber, pageNumber ≠ .min → final.page pageNumber = none) ∧
      ∃ completeness, analyzeRestartCompletenessEvidence materializedLineage
          (lastPosition materializedRecords) materializedRecords final.observe =
            .ok completeness ∧
        ∀ entry ∈ completeness.pages,
          entry.state.observe = .storeCurrent ∨
            entry.state.observe = .noRequiredImage := by
  rcases checkpoint_repair_restores_latest_images materializedRecords_valid
    repairedBaseline_derived repairedStore_advanced (fun _ among => by cases among) with
    ⟨planned, repairs, outcomes, final, plans, prepares, attempted, latest,
      unchanged, complete⟩
  cases latePlan_planned.symm.trans plans
  cases lateRepair_prepared.symm.trans prepares
  cases lateRepair_attempted.symm.trans attempted
  refine ⟨plans, prepares, _, attempted, ?_, ?_, complete⟩
  · exact latest .min ⟨_, List.mem_cons_self, _, rfl, rfl⟩
  · intro pageNumber apart
    refine (unchanged pageNumber ?_).trans (ite_self none)
    intro replayed
    rcases replayed with ⟨record, among, page, image, rfl⟩
    rcases List.mem_pair.mp among with rfl | rfl
    · cases image
      exact apart rfl
    · cases image

/-! ## A contradicting image -/

/-- The transaction that commits first, without a page. -/
def emptyTransaction : DurableTransactionIdentityObservation := ⟨.min, .min⟩

def suffixTransaction : DurableTransactionIdentityObservation :=
  ⟨.min, ⟨2, u64_two_ne_zero⟩⟩

/-- The page is first written behind the checkpoint frontier `1`. -/
def suffixRecords : List (DurableTransactionRestartObservation 1) :=
  [.commit ⟨emptyTransaction, ⟨materializedLineage, 1⟩, u64_one_ne_zero⟩,
    .transactionPage ⟨suffixTransaction,
      ⟨.min, ⟨0⟩, Bytes.singleton 8, ⟨materializedLineage, 2⟩, u64_two_ne_zero⟩⟩,
    .commit ⟨suffixTransaction, ⟨materializedLineage, 3⟩, by decide⟩]

/-- An image of the lineage at the position of the page record, unlike the record. -/
def contradictingSnapshot : StoredPageSnapshotObservation 1 where
  pageNumber := .min
  pageVersion := ⟨0⟩
  image := Bytes.singleton 9
  requiredPosition := ⟨materializedLineage, 2⟩
  requiredPosition_ne_zero := u64_two_ne_zero

def suffixBaseline : RestartCheckpointCompletenessBaseline where
  transactionBaseline := ⟨.min, some 1, [⟨emptyTransaction, none, none, 0, .committed 1⟩]⟩
  pages := []
  replayStart := .afterFrontier (some 1)

def suffixPlan : MaterializedRestartCheckpointReplay 1 where
  currentAnalysis := ⟨materializedLineage, some ⟨materializedLineage, 3⟩,
    [⟨emptyTransaction, none, none, 0, .committed ⟨materializedLineage, 1⟩⟩,
      ⟨suffixTransaction, some ⟨materializedLineage, 2⟩, some ⟨materializedLineage, 2⟩, 1,
        .committed ⟨materializedLineage, 3⟩⟩]⟩
  replayObservations := suffixRecords.drop 1
  retainedObservations := []

theorem suffixRecords_valid : ValidPrefix materializedLineage suffixRecords where
  own := by decide
  ordered := by decide
  final := by decide

/-- The checkpoint at frontier `1` looks at no page, so the store it is derived
against may hold an image that contradicts the log. Preparation finds it. -/
theorem contradicting_image_is_not_repaired :
    ValidPrefix materializedLineage suffixRecords ∧
      deriveRestartCheckpointCompletenessBaselineEvidence materializedLineage
        (lastPosition suffixRecords) suffixRecords
        (repairedStore (some contradictingSnapshot)).observe
          (some 1) = .ok suffixBaseline ∧
      planSelectedRestartCheckpointReplayEvidence materializedLineage
        (lastPosition suffixRecords) suffixRecords
        (repairedStore (some contradictingSnapshot)).observe suffixBaseline =
          .ok suffixPlan ∧
      prepareTransactionRestartCheckpointPageRepairs materializedLineage
        (repairedStore (some contradictingSnapshot)).observe suffixBaseline suffixPlan =
          .error (.evidence
            (.snapshotPayloadContradiction .min ⟨materializedLineage, 2⟩)) :=
  ⟨suffixRecords_valid, by decide +kernel, by decide +kernel, by decide +kernel⟩

end Example

end Ntsql.Transaction
