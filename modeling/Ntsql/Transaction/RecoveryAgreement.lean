import Ntsql.Transaction.RepairRun

/-! # Recovery and checkpoint repair agree

Where transactions own every page record, the scan of recovery and the window of
checkpoint repair end in the same pages, and either leaves alone what the other
has done. -/

namespace Ntsql.Transaction

variable {width : Nat} {lineage : LogLineage}
  {whole records : List (DurableTransactionRestartObservation width)}
  {store : RecoveryStore width} {pageNumber : PageNumber}

/-! ## The latest image -/

/-- Every page record has an owner. -/
def OwnedOnly (records : List (DurableTransactionRestartObservation width)) : Prop :=
  ∀ record ∈ records, ∀ page, record ≠ .page page

theorem committedAt_iff (valid : ValidPrefix lineage records)
    {page : DurableTransactionPageObservation width}
    (among : page ∈ ownedPages records pageNumber) {position : LogSequenceNumber} :
    CommittedAt (commitRecords records) page position ↔
      commitPosition records page.owner = some position := by
  have listed : ∀ other, CommittedAt (commitRecords records) page other →
      commitPosition records page.owner = some other := by
    intro other committed
    rw [commitPosition, committed.1]
    rfl
  refine ⟨listed position, fun committed => ?_⟩
  rcases valid.settled among with uncommitted | ⟨other, committedAt⟩
  · rw [commitPosition, uncommitted] at committed
    cases committed
  · rw [listed other committedAt] at committed
    cases committed
    exact committedAt

theorem replayTargets_of_owned
    {observations : List (DurableTransactionRestartObservation width)}
    (owned : OwnedOnly observations) :
    replayTargets whole observations pageNumber =
      (ownedPages observations pageNumber).filterMap fun page =>
        replayTarget whole (.transactionPage page) := by
  induction observations with
  | nil => rfl
  | cons record observations induction =>
      have rest :=
        induction fun other among => owned other (List.mem_cons_of_mem record among)
      have split : replayTargets whole (record :: observations) pageNumber =
          replayTargets whole [record] pageNumber ++
            replayTargets whole observations pageNumber := by
        rw [← replayTargets_append]
        rfl
      have splitPages : ownedPages (record :: observations) pageNumber =
          ownedPages [record] pageNumber ++ ownedPages observations pageNumber := by
        simp [ownedPages, ← List.filter_append, ← List.filterMap_append]
      rw [split, rest, splitPages, List.filterMap_append]
      refine congrArg (· ++ _) ?_
      cases record with
      | page page => exact absurd rfl (owned _ List.mem_cons_self page)
      | commit commit => rfl
      | transactionPage page =>
          by_cases number : page.page.pageNumber = pageNumber
          · cases committed : commitPosition whole page.owner <;>
              simp [replayTargets, ownedPages, replayTarget, committed, number,
                DurableTransactionRestartObservation.ownedPage]
          · cases committed : commitPosition whole page.owner <;>
              simp [replayTargets, ownedPages, replayTarget, committed, number,
                DurableTransactionRestartObservation.ownedPage]

theorem mem_owned_target (valid : ValidPrefix lineage records)
    {page : DurableTransactionPageObservation width}
    (among : page ∈ ownedPages records pageNumber)
    {target : RestartCheckpointPageRepairTarget width}
    (targeted : replayTarget records (.transactionPage page) = some target) :
    target.page = page.page ∧
      ∃ position, CommittedAt (commitRecords records) page position := by
  rcases Option.map_eq_some_iff.mp targeted with ⟨position, committed, rfl⟩
  exact ⟨rfl, position, (committedAt_iff valid among).mpr committed⟩

theorem untargeted_iff (valid : ValidPrefix lineage records)
    {page : DurableTransactionPageObservation width}
    (among : page ∈ ownedPages records pageNumber) :
    replayTarget records (.transactionPage page) = none ↔
      ∀ position, ¬CommittedAt (commitRecords records) page position := by
  rw [replayTarget, Option.map_eq_none_iff, Option.eq_none_iff_forall_ne_some]
  exact forall_congr' fun position => not_congr (committedAt_iff valid among).symm

theorem isLatestImage_latestImage (valid : ValidPrefix lineage records)
    (owned : OwnedOnly records) (pageNumber : PageNumber) :
    IsLatestImage records pageNumber (latestImage records pageNumber) := by
  rw [latestImage, replayTargets_of_owned owned]
  cases last : ((ownedPages records pageNumber).filterMap fun page =>
      replayTarget records (.transactionPage page)).getLast? with
  | none =>
      rw [List.getLast?_eq_none_iff, List.filterMap_eq_nil_iff] at last
      exact fun page among => (untargeted_iff valid among).mp (last page among)
  | some target =>
      rw [List.getLast?_filterMap, List.findSome?_eq_some_iff] at last
      rcases last with ⟨later, page, earlier, split, targeted, none⟩
      have ordered :
          ownedPages records pageNumber = earlier.reverse ++ page :: later.reverse := by
        have turned := congrArg List.reverse split
        simpa using turned
      have isPage : page ∈ ownedPages records pageNumber := by simp [ordered]
      rcases mem_owned_target valid isPage targeted with ⟨same, position, committed⟩
      refine ⟨⟨page, position⟩, ⟨committed, earlier.reverse, later.reverse, ordered, ?_⟩,
        ?_⟩
      · intro other among
        have isOther : other ∈ ownedPages records pageNumber := by
          rw [ordered]
          exact List.mem_append_right _ (List.mem_cons_of_mem page among)
        exact (untargeted_iff valid isOther).mp (none other (List.mem_reverse.mp among))
      · exact congrArg snapshotOf same

theorem committedSnapshot_of_backed (valid : ValidPrefix lineage records)
    (owned : OwnedOnly records) {stored : StoredPageSnapshotObservation width}
    (backed : Backed records records pageNumber stored) :
    CommittedSnapshot (ownedPages records pageNumber) (commitRecords records) stored := by
  rcases backed_iff.mp backed with ⟨target, among, record⟩
  rw [replayTargets_of_owned owned] at among
  rcases List.mem_filterMap.mp among with ⟨page, isPage, targeted⟩
  rcases mem_owned_target valid isPage targeted with ⟨same, committed⟩
  exact ⟨page, isPage, same ▸ record, committed⟩

theorem mem_transactionPageNumbers_of_owned (owned : OwnedOnly records) :
    pageNumber ∈ transactionPageNumbers records ↔ HasRecord records pageNumber := by
  rw [mem_transactionPageNumbers]
  constructor
  · intro some
    rcases List.exists_mem_of_ne_nil _ some with ⟨page, isPage⟩
    rcases mem_ownedPages.mp isPage with ⟨isRecord, number⟩
    exact ⟨_, isRecord, page.page, rfl, number⟩
  · intro has
    rcases has with ⟨record, isRecord, page, image, number⟩
    cases record with
    | page other => exact absurd rfl (owned _ isRecord other)
    | commit commit => cases image
    | transactionPage other =>
        cases image
        exact List.ne_nil_of_mem (mem_ownedPages.mpr ⟨isRecord, number⟩)

/-! ## Recovery of the pages of a prefix -/

/-- Recovery brings the pages it is given to their latest images, and no other. -/
theorem recoverPages_recovers (valid : ValidPrefix lineage records)
    (own : store.lineage = lineage) {pageNumbers : List PageNumber}
    (committed : ∀ pageNumber ∈ pageNumbers, ∀ stored ∈ store.page pageNumber,
      CommittedSnapshot (ownedPages records pageNumber) (commitRecords records) stored)
    (distinct : pageNumbers.Nodup)
    (completes : ∀ outcome ∈ store.outcomes, outcome = .completes)
    (completed : List (CommittedTransactionPageRecoveryOutcome width)) :
    ∃ outcomes final,
      recoverPages (prefixPorts lineage records) completed pageNumbers store =
        .ok outcomes final ∧ final.lineage = lineage ∧
      (∀ pageNumber ∈ pageNumbers, IsLatestImage records pageNumber
        (final.page pageNumber)) ∧
      ∀ pageNumber ∉ pageNumbers, final.page pageNumber = store.page pageNumber := by
  induction pageNumbers generalizing completed store with
  | nil => exact ⟨_, _, rfl, own, by simp, fun _ _ => rfl⟩
  | cons first rest induction =>
      have recovers := recoverPage_recovers valid own (committed first List.mem_cons_self)
      rcases recovers.succeeds completes with ⟨outcome, middle, result⟩
      rw [result] at recovers
      rcases recovers.ok with ⟨isLatest, framed, suffix⟩
      rcases List.nodup_cons.mp distinct with ⟨apart, distinct⟩
      have ownMiddle : middle.lineage = lineage := recovers.own.trans own
      have still : ∀ pageNumber ∈ rest, ∀ stored ∈ middle.page pageNumber,
          CommittedSnapshot (ownedPages records pageNumber) (commitRecords records)
            stored := by
        intro pageNumber among
        rw [framed pageNumber fun same => apart (same ▸ among)]
        exact committed pageNumber (List.mem_cons_of_mem first among)
      rcases induction ownMiddle still distinct
        (fun outcome among => completes outcome (suffix.subset among))
        (completed ++ [outcome]) with ⟨outcomes, final, succeeds, ownFinal, listed, kept⟩
      refine ⟨outcomes, final, ?_, ownFinal, ?_, ?_⟩
      · rw [recoverPages_cons, result]
        exact succeeds
      · intro pageNumber among
        rcases List.mem_cons.mp among with rfl | later
        · rw [kept pageNumber apart]
          exact isLatest
        · exact listed pageNumber later
      · intro pageNumber absent
        rw [List.mem_cons, not_or] at absent
        rw [kept pageNumber absent.2, framed pageNumber absent.1]

theorem IsLatestImage.committed {stored : StoredPageSnapshotObservation width}
    (isLatest : IsLatestImage records pageNumber (some stored)) :
    CommittedSnapshot (ownedPages records pageNumber) (commitRecords records) stored := by
  rcases isLatest with ⟨latest, isLatest, rfl⟩
  exact ⟨latest.observation, isLatest.mem, by rw [snapshotOf_record], _,
    isLatest.committed⟩

theorem recoverPages_of_latest (valid : ValidPrefix lineage records)
    (own : store.lineage = lineage) {pageNumbers : List PageNumber}
    (latest : ∀ pageNumber ∈ pageNumbers, IsLatestImage records pageNumber
      (store.page pageNumber))
    (completed : List (CommittedTransactionPageRecoveryOutcome width)) :
    ∃ outcomes, recoverPages (prefixPorts lineage records) completed pageNumbers store =
      .ok outcomes store := by
  induction pageNumbers generalizing completed with
  | nil => exact ⟨_, rfl⟩
  | cons first rest induction =>
      have isLatest := latest first List.mem_cons_self
      have committed : ∀ stored ∈ store.page first,
          CommittedSnapshot (ownedPages records first) (commitRecords records) stored :=
        fun stored isStored => IsLatestImage.committed (isStored ▸ isLatest)
      have recovers := recoverPage_recovers valid own committed
      rcases recovers.of_isLatestImage valid isLatest with ⟨outcome, result, _⟩
      rcases induction (fun pageNumber among =>
        latest pageNumber (List.mem_cons_of_mem first among))
        (completed ++ [outcome]) with ⟨outcomes, succeeds⟩
      exact ⟨outcomes, by rw [recoverPages_cons, result]; exact succeeds⟩

/-! ## Agreement -/

section Agreement

variable {baseline : RestartCheckpointCompletenessBaseline}
  {checkpointFrontier : Option U64}

theorem attemptRepairs_of_latest (valid : ValidPrefix lineage records)
    {repairs : List (PreparedRestartCheckpointPageRepair width)}
    {prepared : PageNumber → Option (StoredPageSnapshotObservation width)}
    (awaits : AwaitsAll lineage records repairs prepared store)
    (latest : ∀ repair ∈ repairs,
      store.page repair.pageNumber = latestImage records repair.pageNumber)
    (completed : List RestartCheckpointPageRepairOutcome) :
    ∃ outcomes, attemptRepairs repairPorts lineage completed repairs store =
      .ok outcomes store := by
  induction repairs generalizing completed with
  | nil => exact ⟨_, rfl⟩
  | cons repair repairs induction =>
      have attempted := attemptRepair_attempted valid awaits.own
        (awaits.each repair List.mem_cons_self)
      rcases attempted.of_latest (latest repair List.mem_cons_self) with ⟨outcome, result⟩
      rw [attemptRepairs_cons, result]
      exact induction awaits.tail
        (fun other among => latest other (List.mem_cons_of_mem repair among)) _

theorem derived_of_plan {planned : MaterializedRestartCheckpointReplay width}
    (plans : planSelectedRestartCheckpointReplayEvidence lineage
      (lastPosition records) records store.observe baseline = .ok planned) :
    deriveRestartCheckpointCompletenessBaselineEvidence lineage
      (lastPosition records) records
      store.observe baseline.transactionBaseline.durableFrontier = .ok baseline := by
  simp only [planSelectedRestartCheckpointReplayEvidence, Except.bind_ok_iff,
    Except.mapError_ok_iff, rejectIf_ok_iff, ne_eq, not_not] at plans
  rcases plans with ⟨rederived, derived, _, rfl, _⟩
  exact derived

/-- Restart from the checkpoint once every page holds its last image writes nothing. -/
theorem repairs_of_latest (valid : ValidPrefix lineage records)
    (own : store.lineage = lineage) (latest : ∀ pageNumber, HasRecord records pageNumber →
      store.page pageNumber = latestImage records pageNumber)
    {planned : MaterializedRestartCheckpointReplay width}
    (plans : planSelectedRestartCheckpointReplayEvidence lineage
      (lastPosition records) records store.observe baseline = .ok planned) :
    ∃ repairs outcomes,
      prepareTransactionRestartCheckpointPageRepairs store.lineage store.observe
        baseline planned = .ok repairs ∧
      attemptPreparedTransactionRestartCheckpointPageRepairs repairPorts
        planned.currentAnalysis.lineage [] repairs store = .ok outcomes store := by
  have advanced :
      AdvancedStore lineage records baseline.transactionBaseline.durableFrontier store
      store :=
    ⟨own, fun _ _ => rfl, fun pageNumber has _ stored isStored =>
      latestImage_backed ((latest pageNumber has).symm.trans isStored)⟩
  rcases exists_repairs valid (derived_of_plan plans) advanced with
    ⟨again, repairs, ready⟩
  cases plans.symm.trans ready.plans
  rcases attemptRepairs_of_latest valid ready.awaits
    (fun repair among => latest repair.pageNumber (ready.hasRecord among)) [] with
    ⟨outcomes, attempted⟩
  refine ⟨repairs, outcomes, ready.prepares, ?_⟩
  rw [ready.own, attemptPreparedTransactionRestartCheckpointPageRepairs_eq own]
  exact attempted

/-- Recovery of the whole prefix and repair from a checkpoint end in the same
pages, and each leaves alone what the other has done. -/
theorem recovery_and_checkpoint_repair_agree (valid : ValidPrefix lineage records)
    (owned : OwnedOnly records)
    (derived : deriveRestartCheckpointCompletenessBaselineEvidence lineage
      (lastPosition records) records store.observe checkpointFrontier = .ok baseline)
    (advanced : AdvancedStore lineage records checkpointFrontier store store)
    (completes : ∀ outcome ∈ store.outcomes, outcome = .completes) :
    ∃ planned repairs reports recovered outcomes repaired,
      recoverPrefix lineage records store = .ok reports recovered ∧
      planSelectedRestartCheckpointReplayEvidence lineage (lastPosition records) records
        store.observe baseline = .ok planned ∧
      prepareTransactionRestartCheckpointPageRepairs store.lineage store.observe
        baseline planned = .ok repairs ∧
      attemptPreparedTransactionRestartCheckpointPageRepairs repairPorts
        planned.currentAnalysis.lineage [] repairs store = .ok outcomes repaired ∧
      (∀ pageNumber, HasRecord records pageNumber →
        recovered.page pageNumber = repaired.page pageNumber) ∧
      (∃ again, recoverPrefix lineage records repaired = .ok again repaired) ∧
      (∃ again, attemptPreparedTransactionRestartCheckpointPageRepairs repairPorts
        planned.currentAnalysis.lineage [] repairs recovered = .ok again recovered) ∧
      ((∃ refused, planSelectedRestartCheckpointReplayEvidence lineage
        (lastPosition records) records recovered.observe baseline = .error refused) ∨
        ∃ replanned prepared again,
          planSelectedRestartCheckpointReplayEvidence lineage
            (lastPosition records) records recovered.observe baseline = .ok replanned ∧
          prepareTransactionRestartCheckpointPageRepairs recovered.lineage
            recovered.observe baseline replanned = .ok prepared ∧
          attemptPreparedTransactionRestartCheckpointPageRepairs repairPorts
            replanned.currentAnalysis.lineage [] prepared recovered =
              .ok again recovered) := by
  rcases exists_repairs valid derived advanced with ⟨planned, repairs, ready⟩
  rcases attemptRepairs_succeeds valid ready.awaits completes [] with
    ⟨outcomes, repaired, attempted⟩
  rcases attemptRepairs_advances valid ready.awaits [] with ⟨same, advances, each⟩
  rw [attempted, Operation.leaves_ok] at same advances
  have repairedLatest := ready.latest advances (each outcomes repaired attempted)
  have committed : ∀ pageNumber ∈ transactionPageNumbers records,
      ∀ stored ∈ store.page pageNumber,
        CommittedSnapshot (ownedPages records pageNumber) (commitRecords records)
          stored := by
    intro pageNumber listed stored isStored
    have has := (mem_transactionPageNumbers_of_owned owned).mp listed
    exact committedSnapshot_of_backed valid owned
      (advanced.backed_of_derived valid derived has stored isStored)
  have distinct : (transactionPageNumbers records).Nodup :=
    transactionPageNumbers_increasing.imp fun before same => before.ne (congrArg _ same)
  rcases recoverPages_recovers valid advanced.own committed distinct completes [] with
    ⟨reports, recovered, recovers, ownRecovered, isLatest, _⟩
  have recoveredLatest : ∀ pageNumber, HasRecord records pageNumber →
      recovered.page pageNumber = latestImage records pageNumber := by
    intro pageNumber has
    exact (isLatest pageNumber
      ((mem_transactionPageNumbers_of_owned owned).mpr has)).unique valid
      (isLatestImage_latestImage valid owned pageNumber)
  have ownRepaired : repaired.lineage = lineage := same.trans advanced.own
  have current : ∀ pageNumber ∈ transactionPageNumbers records,
      IsLatestImage records pageNumber (repaired.page pageNumber) := by
    intro pageNumber listed
    rw [repairedLatest pageNumber ((mem_transactionPageNumbers_of_owned owned).mp listed)]
    exact isLatestImage_latestImage valid owned pageNumber
  have held : ∀ repair ∈ repairs,
      recovered.page repair.pageNumber = latestImage records repair.pageNumber :=
        fun repair among =>
    recoveredLatest repair.pageNumber (ready.hasRecord among)
  have awaited : AwaitsAll lineage records repairs store.page recovered :=
    ⟨ownRecovered, fun repair among => ⟨(ready.awaits.each repair among).decides,
      (ready.awaits.each repair among).backed, .inr (held repair among)⟩⟩
  rcases recoverPages_of_latest valid ownRepaired current [] with
    ⟨reportsAgain, recoversAgain⟩
  rcases attemptRepairs_of_latest valid awaited held [] with
    ⟨outcomesAgain, attemptedAgain⟩
  refine ⟨planned, repairs, reports, recovered, outcomes, repaired, ?_, ready.plans,
    ready.prepares, ?_, ?_, ⟨reportsAgain, ?_⟩, ⟨outcomesAgain, ?_⟩, ?_⟩
  · rw [recoverPrefix_eq_recoverPages advanced.own]
    exact recovers
  · rw [ready.own, attemptPreparedTransactionRestartCheckpointPageRepairs_eq advanced.own]
    exact attempted
  · intro pageNumber has
    rw [recoveredLatest pageNumber has, repairedLatest pageNumber has]
  · rw [recoverPrefix_eq_recoverPages ownRepaired]
    exact recoversAgain
  · rw [ready.own, attemptPreparedTransactionRestartCheckpointPageRepairs_eq ownRecovered]
    exact attemptedAgain
  · cases plans :
      planSelectedRestartCheckpointReplayEvidence lineage (lastPosition records) records
        recovered.observe baseline with
    | error refused => exact .inl ⟨refused, rfl⟩
    | ok replanned =>
        rcases repairs_of_latest valid ownRecovered recoveredLatest plans with
          ⟨prepared, again, prepares, attempts⟩
        exact .inr ⟨replanned, prepared, again, rfl, prepares, attempts⟩

end Agreement

section Example

theorem materializedRecords_owned : OwnedOnly materializedRecords := by
  intro record among page isRaw
  subst isRaw
  simp [materializedRecords] at among

def lateTarget : CommittedTransactionPageRecoveryTarget 1 :=
  ownedRecoveryTarget ⟨⟨materializedTransaction, latePage⟩, ⟨materializedLineage, 2⟩⟩

theorem lateTarget_recovered :
    (match recoverPrefix materializedLineage materializedRecords (repairedStore none) with
      | .ok reports _ => some reports
      | .error _ _ => none) = some [.recovered lateTarget] := by
  decide +kernel

/-- The page of a late commit is brought to its image by either, and neither
writes it a second time. -/
theorem late_commit_is_recovered_alike :
    planSelectedRestartCheckpointReplayEvidence materializedLineage
      (lastPosition materializedRecords) materializedRecords (repairedStore none).observe
      repairedBaseline = .ok latePlan ∧
    prepareTransactionRestartCheckpointPageRepairs materializedLineage
      (repairedStore none).observe repairedBaseline latePlan = .ok [lateRepair] ∧
    ∃ recovered repaired,
      recoverPrefix materializedLineage materializedRecords (repairedStore none) =
        .ok [.recovered lateTarget] recovered ∧
      attemptPreparedTransactionRestartCheckpointPageRepairs repairPorts
        materializedLineage []
        [lateRepair] (repairedStore none) = .ok [.repaired .min] repaired ∧
      recovered.page .min = some (snapshotOf latePage) ∧
      repaired.page .min = some (snapshotOf latePage) ∧
      (∃ again, recoverPrefix materializedLineage materializedRecords repaired =
        .ok again repaired) ∧
      ∃ again, attemptPreparedTransactionRestartCheckpointPageRepairs repairPorts
        materializedLineage [] [lateRepair] recovered = .ok again recovered := by
  rcases recovery_and_checkpoint_repair_agree materializedRecords_valid
    materializedRecords_owned
    repairedBaseline_derived repairedStore_advanced (fun _ among => by cases among) with
    ⟨planned, repairs, reports, recovered, outcomes, repaired, recovers, plans, prepares,
      attempted, agree, recoversAgain, attemptsAgain, _⟩
  cases latePlan_planned.symm.trans plans
  cases lateRepair_prepared.symm.trans prepares
  cases lateRepair_attempted.symm.trans attempted
  have reported := lateTarget_recovered
  rw [recovers] at reported
  cases reported
  have same := agree .min ⟨_, List.mem_cons_self, _, rfl, rfl⟩
  exact ⟨plans, prepares, recovered, _, recovers, attempted, same, rfl, recoversAgain,
    attemptsAgain⟩

theorem suffixRecords_owned : OwnedOnly suffixRecords := by
  intro record among page isRaw
  subst isRaw
  simp [suffixRecords] at among

/-- Neither accepts an image that contradicts the log on a page first written
behind the frontier of the checkpoint. -/
theorem contradicting_image_is_not_recovered :
    ValidPrefix materializedLineage suffixRecords ∧ OwnedOnly suffixRecords ∧
      deriveRestartCheckpointCompletenessBaselineEvidence materializedLineage
        (lastPosition suffixRecords) suffixRecords
        (repairedStore (some contradictingSnapshot)).observe
          (some 1) = .ok suffixBaseline ∧
      planSelectedRestartCheckpointReplayEvidence materializedLineage
        (lastPosition suffixRecords) suffixRecords
        (repairedStore (some contradictingSnapshot)).observe suffixBaseline =
          .ok suffixPlan ∧
      (∀ repairs, prepareTransactionRestartCheckpointPageRepairs materializedLineage
        (repairedStore (some contradictingSnapshot)).observe suffixBaseline suffixPlan ≠
          .ok repairs) ∧
      ∀ reports final, recoverPrefix materializedLineage suffixRecords
        (repairedStore (some contradictingSnapshot)) ≠ .ok reports final := by
  refine ⟨suffixRecords_valid, suffixRecords_owned, by decide +kernel,
    by decide +kernel, ?_, ?_⟩
  · intro repairs prepared
    have failed : prepareTransactionRestartCheckpointPageRepairs materializedLineage
        (repairedStore (some contradictingSnapshot)).observe suffixBaseline suffixPlan =
          .error (.evidence
            (.snapshotPayloadContradiction .min ⟨materializedLineage, 2⟩)) := by
      decide +kernel
    cases prepared.symm.trans failed
  · intro reports final recovers
    have failed : (match recoverPrefix materializedLineage suffixRecords
        (repairedStore (some contradictingSnapshot)) with
      | .ok _ _ => true
      | .error _ _ => false) = false := by
      decide +kernel
    rw [recovers] at failed
    cases failed

end Example

end Ntsql.Transaction
