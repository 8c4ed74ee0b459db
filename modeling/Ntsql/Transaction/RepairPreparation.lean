import Ntsql.Transaction.ReplayWindow

/-! # Preparation decides for the latest image

For each page of the window, preparation finds the last image that counts in the
whole prefix and decides, from what the store holds, whether it is to be written. -/

namespace Ntsql.Transaction

open SortedTable

variable {width : Nat} {StoreError : Type} {lineage : LogLineage}
  {whole records selected before window observations :
    List (DurableTransactionRestartObservation width)}
  {pageNumber : PageNumber}

/-! ## Targets -/

/-- The repair target a record makes, if it counts among the records of `whole`. -/
def replayTarget (whole : List (DurableTransactionRestartObservation width)) :
    DurableTransactionRestartObservation width →
      Option (RestartCheckpointPageRepairTarget width)
  | .page page => some ⟨.raw, page⟩
  | .transactionPage owned => (commitPosition whole owned.owner).map fun committed =>
      ⟨.committedTransaction owned.owner committed, owned.page⟩
  | .commit _ => none

/-- The targets of a page, in order. -/
def replayTargets (whole observations : List (DurableTransactionRestartObservation width))
    (pageNumber : PageNumber) : List (RestartCheckpointPageRepairTarget width) :=
  (observations.filterMap (replayTarget whole)).filter fun target =>
    target.page.pageNumber = pageNumber

/-- What the store should hold of a page: the last image that counts. -/
def latestImage (records : List (DurableTransactionRestartObservation width))
    (pageNumber : PageNumber) : Option (StoredPageSnapshotObservation width) :=
  (replayTargets records records pageNumber).getLast?.map fun target =>
    snapshotOf target.page

theorem replayTarget_page (whole : List (DurableTransactionRestartObservation width))
    (record : DurableTransactionRestartObservation width) :
    (replayTarget whole record).map (·.page) = (requirement whole record).map (·.1) := by
  cases record with
  | page page => rfl
  | transactionPage owned =>
      rw [replayTarget, requirement]
      cases commitPosition whole owned.owner <;> rfl
  | commit commit => rfl

theorem replayTarget_image {record : DurableTransactionRestartObservation width}
    {target : RestartCheckpointPageRepairTarget width}
    (targeted : replayTarget whole record = some target) :
    record.pageImage = some target.page ∧ target.page.position = record.position := by
  cases record with
  | page page =>
      cases targeted
      exact ⟨rfl, rfl⟩
  | transactionPage owned =>
      rcases Option.map_eq_some_iff.mp targeted with ⟨committed, _, rfl⟩
      exact ⟨rfl, rfl⟩
  | commit commit => cases targeted

theorem replayTargets_pages (whole observations :
    List (DurableTransactionRestartObservation width)) (pageNumber : PageNumber) :
    (replayTargets whole observations pageNumber).map (·.page) =
      (requirements whole observations pageNumber).map (·.1) := by
  induction observations with
  | nil => rfl
  | cons record observations induction =>
      have same := replayTarget_page whole record
      simp only [replayTargets, requirements, List.filterMap_cons] at induction ⊢
      cases targeted : replayTarget whole record with
      | none =>
          rw [targeted] at same
          rw [Option.map_eq_none_iff.mp same.symm]
          exact induction
      | some target =>
          rw [targeted] at same
          rcases Option.map_eq_some_iff.mp same.symm with ⟨image, isImage, here⟩
          rw [isImage]
          by_cases number : target.page.pageNumber = pageNumber
          · have imageNumber : image.1.pageNumber = pageNumber :=
              by rw [here]; exact number
            rw [List.filter_cons_of_pos (by simpa using number),
              List.filter_cons_of_pos (by simpa using imageNumber), List.map_cons,
              List.map_cons, here, induction]
          · have imageNumber : image.1.pageNumber ≠ pageNumber :=
              by rw [here]; exact number
            rw [List.filter_cons_of_neg (by simpa using number),
              List.filter_cons_of_neg (by simpa using imageNumber), induction]

theorem replayTargets_append (whole first second :
    List (DurableTransactionRestartObservation width)) (pageNumber : PageNumber) :
    replayTargets whole (first ++ second) pageNumber =
      replayTargets whole first pageNumber ++ replayTargets whole second pageNumber := by
  simp [replayTargets]

theorem mem_replayTargets {target : RestartCheckpointPageRepairTarget width} :
    target ∈ replayTargets whole observations pageNumber ↔
      (∃ record ∈ observations, replayTarget whole record = some target) ∧
        target.page.pageNumber = pageNumber := by
  simp only [replayTargets, List.mem_filter, List.mem_filterMap, decide_eq_true_eq]

theorem replayTargets_ordered (valid : ValidPrefix lineage observations)
    (pageNumber : PageNumber) :
    (replayTargets whole observations pageNumber).Pairwise fun earlier later =>
      earlier.pagePosition.get < later.pagePosition.get := by
  rw [replayTargets]
  apply List.Pairwise.filter
  rw [List.pairwise_filterMap]
  apply valid.ordered.imp
  intro earlier later before first isFirst second isSecond
  rw [RestartCheckpointPageRepairTarget.pagePosition, (replayTarget_image isFirst).2,
    RestartCheckpointPageRepairTarget.pagePosition, (replayTarget_image isSecond).2]
  exact before

theorem backed_iff {snapshot : StoredPageSnapshotObservation width} :
    Backed whole observations pageNumber snapshot ↔
      ∃ target ∈ replayTargets whole observations pageNumber,
        target.page = snapshot.record := by
  have pages :
      snapshot.record ∈ (replayTargets whole observations pageNumber).map (·.page) ↔
      snapshot.record ∈ (requirements whole observations pageNumber).map (·.1) := by
    rw [replayTargets_pages]
  simpa only [List.mem_map, Backed] using pages.symm

/-! ## Records of the window -/

theorem ValidPrefix.eq_of_position (valid : ValidPrefix lineage records)
    {left right : DurableTransactionRestartObservation width} (leftAmong : left ∈ records)
    (rightAmong : right ∈ records) (same : left.position.get = right.position.get) :
    left = right := by
  have increasing : Increasing (fun record : DurableTransactionRestartObservation width =>
      record.position.get) records := valid.ordered
  exact increasing.unique leftAmong rightAmong same

theorem ownedReplayObservationAtPosition_eq_some_iff (valid : ValidPrefix lineage window)
    {position : U64} {index : Nat} {record : DurableTransactionRestartObservation width} :
    ownedReplayObservationAtPosition window position = some (index, record) ↔
      window[index]? = some record ∧ record.position.get = position := by
  have increasing : Increasing (fun record : DurableTransactionRestartObservation width =>
      record.position.get) window := valid.ordered
  rw [ownedReplayObservationAtPosition]
  constructor
  · intro found
    split at found
    · rename_i searched isFound
      rcases increasing.binarySearchByKey_ok_iff.mp isFound with ⟨row, indexed, here⟩
      rw [indexed] at found
      cases found
      exact ⟨indexed, here⟩
    · cases found
  · intro holds
    rw [increasing.binarySearchByKey_ok_iff.mpr ⟨record, holds.1, holds.2⟩]
    simp [holds.1]

theorem matchingLaterCommit_of_committed (valid : ValidPrefix lineage (before ++ window))
    {owned : DurableTransactionPageObservation width} {index : Nat}
    (indexed : window[index]? = some (.transactionPage owned))
    {position : LogSequenceNumber}
    (committed : commitPosition (before ++ window) owned.owner = some position) :
    MatchingLaterCommit index window owned.owner position := by
  have isPage := List.mem_of_getElem? indexed
  have owns : owned.position ∈ ownedPositions (before ++ window) owned.owner :=
    mem_ownedPositions.mpr ⟨owned, List.mem_append_right _ isPage, rfl, rfl⟩
  have later := valid.owned_lt_commit owns committed
  rcases exists_commit committed with ⟨commit, isCommit, owner, rfl⟩
  have inWindow : .commit commit ∈ window := by
    rcases List.mem_append.mp isCommit with early | late
    · have earlier := (List.pairwise_append.mp valid.ordered).2.2 _ early _ isPage
      exact absurd earlier later.asymm
    · exact late
  rcases List.mem_iff_getElem?.mp inWindow with ⟨commitIndex, commitIndexed⟩
  have found : ownedReplayObservationAtPosition window commit.position.get =
      some (commitIndex, .commit commit) :=
    (ownedReplayObservationAtPosition_eq_some_iff valid.append_right).mpr
      ⟨commitIndexed, rfl⟩
  rw [MatchingLaterCommit, found]
  refine ⟨?_, owner, rfl⟩
  rcases List.getElem?_eq_some_iff.mp indexed with ⟨bound, isRecord⟩
  rcases List.getElem?_eq_some_iff.mp commitIndexed with ⟨commitBound, isCommitRecord⟩
  have related := List.pairwise_iff_getElem.mp valid.append_right.ordered
  rcases lt_trichotomy index commitIndex with before | same | after
  · exact before
  · subst same
    rw [isRecord] at isCommitRecord
    cases isCommitRecord
  · have ordered := related commitIndex index commitBound bound after
    rw [isRecord, isCommitRecord] at ordered
    exact absurd ordered later.asymm

theorem preparedReplayPageTarget_ok (valid : ValidPrefix lineage (before ++ window))
    {analysis : RestartAnalysis}
    (table : TableOf (before ++ window) analysis.transactions) {index : Nat}
    {record : DurableTransactionRestartObservation width}
    (indexed : window[index]? = some record) :
    preparedReplayPageTarget index window analysis record =
      .ok (replayTarget (before ++ window) record) := by
  have among : record ∈ before ++ window :=
    List.mem_append_right _ (List.mem_of_getElem? indexed)
  cases record with
  | page page => rfl
  | commit commit => rfl
  | transactionPage owned =>
      have entry : currentRestartTransaction analysis owned.owner owned.position =
          .ok (entryOf (before ++ window) owned.owner) := by
        rw [currentRestartTransaction, table.search_eq,
          transactionEntry_of_owner among rfl]
        rfl
      rw [preparedReplayPageTarget, entry, Except.ok_bind, entryOf, transactionState,
        replayTarget]
      cases committed : commitPosition (before ++ window) owned.owner with
      | none => rfl
      | some position =>
          have matching := matchingLaterCommit_of_committed valid indexed committed
          simp only [rejectIf, matching, not_true, if_false]
          rfl

/-! ## The target table -/

/-- The repair of a page once some records of the window are read. -/
def targetedRepair (whole done : List (DurableTransactionRestartObservation width))
    (pageNumber : PageNumber) : PreparedRestartCheckpointPageRepair width :=
  { PreparedRestartCheckpointPageRepair.new pageNumber with
    target := (replayTargets whole done pageNumber).getLast? }

theorem targetedRepair_append_other
    {done : List (DurableTransactionRestartObservation width)}
    {record : DurableTransactionRestartObservation width}
    (other : ∀ target ∈ replayTarget whole record, target.page.pageNumber ≠ pageNumber) :
    targetedRepair whole (done ++ [record]) pageNumber =
      targetedRepair whole done pageNumber := by
  have nothing : replayTargets whole [record] pageNumber = [] := by
    rw [List.eq_nil_iff_forall_not_mem]
    intro target among
    rcases mem_replayTargets.mp among with ⟨⟨found, isFound, targeted⟩, number⟩
    rw [List.mem_singleton.mp isFound] at targeted
    exact other target targeted number
  rw [targetedRepair, targetedRepair, replayTargets_append, nothing, List.append_nil]

theorem targetedRepair_append {done : List (DurableTransactionRestartObservation width)}
    {record : DurableTransactionRestartObservation width}
    {target : RestartCheckpointPageRepairTarget width}
    (targeted : replayTarget whole record = some target)
    (number : target.page.pageNumber = pageNumber) :
    targetedRepair whole (done ++ [record]) pageNumber =
      { targetedRepair whole done pageNumber with target := some target } := by
  have single : replayTargets whole [record] pageNumber = [target] := by
    simp [replayTargets, targeted, number]
  rw [targetedRepair, targetedRepair, replayTargets_append, single]
  simp

theorem modify_eq_map {Repair : Type} {numbers : List PageNumber}
    (increasing : numbers.Pairwise fun earlier later => earlier.get < later.get)
    {repairIndex : Nat} (atIndex : numbers[repairIndex]? = some pageNumber)
    {change : Repair → Repair} {old new : PageNumber → Repair}
    (here : change (old pageNumber) = new pageNumber)
    (elsewhere : ∀ other, other ≠ pageNumber → new other = old other) :
    (numbers.map old).modify repairIndex change = numbers.map new := by
  apply List.ext_getElem?
  intro index
  rw [List.getElem?_modify, List.getElem?_map, List.getElem?_map]
  cases number : numbers[index]? with
  | none => split <;> rfl
  | some other =>
      split
      · rename_i same
        subst same
        rw [atIndex] at number
        cases number
        exact congrArg some here
      · rename_i apart
        have distinct : other ≠ pageNumber := by
          intro same
          rcases List.getElem?_eq_some_iff.mp number with ⟨bound, isOther⟩
          rcases List.getElem?_eq_some_iff.mp atIndex with ⟨repairBound, isHere⟩
          have related := List.pairwise_iff_getElem.mp increasing
          rcases lt_or_gt_of_ne apart with below | above
          · have ordered := related repairIndex index repairBound bound below
            rw [isOther, isHere, same] at ordered
            exact lt_irrefl _ ordered
          · have ordered := related index repairIndex bound repairBound above
            rw [isOther, isHere, same] at ordered
            exact lt_irrefl _ ordered
        exact congrArg some (elsewhere other distinct).symm

theorem targetReplayObservation_ok (valid : ValidPrefix lineage (before ++ window))
    {analysis : RestartAnalysis}
    (table : TableOf (before ++ window) analysis.transactions) {numbers : List PageNumber}
    (increasing : numbers.Pairwise fun earlier later => earlier.get < later.get)
    (done : List (DurableTransactionRestartObservation width)) {index : Nat}
    {record : DurableTransactionRestartObservation width}
    (indexed : window[index]? = some record)
    (listed : ∀ page, record.pageImage = some page → page.pageNumber ∈ numbers) :
    targetReplayObservation window analysis
        (numbers.map (targetedRepair (before ++ window) done)) (record, index) =
      .ok (numbers.map (targetedRepair (before ++ window) (done ++ [record]))) := by
  have prepared := preparedReplayPageTarget_ok valid table indexed
  cases image : record.pageImage with
  | none =>
      have untargeted : replayTarget (before ++ window) record = none := by
        cases targeted : replayTarget (before ++ window) record with
        | none => rfl
        | some target =>
            rw [(replayTarget_image targeted).1] at image
            cases image
      simp only [targetReplayObservation, image, Except.pure_ok_iff]
      refine List.map_congr_left fun pageNumber _ => ?_
      rw [targetedRepair_append_other (by simp [untargeted])]
  | some page =>
      rcases List.mem_iff_getElem?.mp (listed page image) with ⟨repairIndex, atIndex⟩
      have searched : binarySearchByKey
          (fun repair : PreparedRestartCheckpointPageRepair width =>
            repair.pageNumber.get)
          page.pageNumber.get (numbers.map (targetedRepair (before ++ window) done)) =
            .ok repairIndex := by
        have ordered : Increasing
            (fun repair : PreparedRestartCheckpointPageRepair width =>
              repair.pageNumber.get)
            (numbers.map (targetedRepair (before ++ window) done)) :=
          List.pairwise_map.mpr increasing
        refine ordered.binarySearchByKey_ok_iff.mpr
          ⟨targetedRepair (before ++ window) done page.pageNumber, ?_, rfl⟩
        rw [List.getElem?_map, atIndex]
        rfl
      simp only [targetReplayObservation, image, searched, Except.mapError,
        Except.ok_bind, prepared]
      cases targeted : replayTarget (before ++ window) record with
      | none =>
          rw [Except.pure_ok_iff]
          refine List.map_congr_left fun pageNumber _ => ?_
          rw [targetedRepair_append_other (by simp [targeted])]
      | some target =>
          have samePage : target.page = page :=
            Option.some.inj ((replayTarget_image targeted).1.symm.trans image)
          rw [Except.pure_ok_iff]
          refine modify_eq_map increasing atIndex ?_ fun pageNumber apart => ?_
          · exact (targetedRepair_append targeted (congrArg (·.pageNumber) samePage)).symm
          · refine targetedRepair_append_other fun other isOther number => apart ?_
            rw [targeted] at isOther
            cases isOther
            exact number.symm.trans (congrArg (·.pageNumber) samePage)

/-- After the window is read, each page has the target of its last image. -/
theorem foldlM_targetReplayObservation_ok (valid : ValidPrefix lineage (before ++ window))
    {analysis : RestartAnalysis}
    (table : TableOf (before ++ window) analysis.transactions) {numbers : List PageNumber}
    (increasing : numbers.Pairwise fun earlier later => earlier.get < later.get)
    (listed : ∀ record ∈ window, ∀ page, record.pageImage = some page →
      page.pageNumber ∈ numbers)
    (rest done : List (DurableTransactionRestartObservation width))
    (split : window = done ++ rest) :
    (rest.zipIdx done.length).foldlM (targetReplayObservation window analysis)
        (numbers.map (targetedRepair (before ++ window) done)) =
      .ok (numbers.map (targetedRepair (before ++ window) window)) := by
  induction rest generalizing done with
  | nil =>
      rw [List.append_nil] at split
      rw [split]
      rfl
  | cons record rest induction =>
      have indexed : window[done.length]? = some record := by simp [split]
      have step := targetReplayObservation_ok valid table increasing done indexed
        (listed record (List.mem_of_getElem? indexed))
      rw [List.zipIdx_cons, List.foldlM_cons, step, Except.ok_bind]
      have next := induction (done ++ [record]) (by simp [split])
      rw [List.length_append] at next
      exact next

/-! ## The images the store lacked -/

variable {baseline : RestartCheckpointCompletenessBaseline}
  {observePage : ObservePage width StoreError}

theorem dirtyCheckpointRequiredImageIsOwned_ok
    (valid : ValidPrefix lineage (before ++ window)) {analysis : RestartAnalysis}
    (table : TableOf (before ++ window) analysis.transactions)
    (selects : selected <+: before ++ window)
    {record : DurableTransactionRestartObservation width}
    {page : DurablePageWalObservation width} {required : RestartRequiredPageImage}
    (counts : requirement selected record = some (page, required))
    (among : record ∈ window) :
    dirtyCheckpointRequiredImageIsOwned page.pageNumber required window analysis =
      .ok true := by
  rcases List.mem_iff_getElem?.mp among with ⟨index, indexed⟩
  have found : ownedReplayObservationAtPosition window required.pagePosition =
      some (index, record) :=
    (ownedReplayObservationAtPosition_eq_some_iff valid.append_right).mpr
      ⟨indexed, (requirement_position counts).2.symm⟩
  cases record with
  | page raw =>
      cases counts
      simp only [dirtyCheckpointRequiredImageIsOwned, found, Except.pure_ok_iff,
        decide_true]
  | commit commit => cases counts
  | transactionPage owned =>
      have prepared := preparedReplayPageTarget_ok valid table indexed
      rcases Option.map_eq_some_iff.mp counts with ⟨committed, isCommitted, same⟩
      cases same
      have committedWhole := valid.commitPosition_of_selected selects isCommitted
      simp only [dirtyCheckpointRequiredImageIsOwned, found, and_self, if_true, prepared,
        Except.ok_bind, replayTarget, committedWhole, Option.map_some,
        RequiredTargetMatches, Except.pure_ok_iff, decide_true]

theorem validateOwnedDirtyCheckpointImages_ok
    (valid : ValidPrefix lineage (before ++ window)) {analysis : RestartAnalysis}
    (table : TableOf (before ++ window) analysis.transactions)
    (selects : selected <+: before ++ window)
    (windowOf : WindowOf (before ++ window) selected before window baseline)
    {numbers : List PageNumber}
    (isPages : PagesOf selected selected observePage numbers baseline.pages) :
    validateOwnedDirtyCheckpointImages baseline window analysis = .ok () := by
  rw [validateOwnedDirtyCheckpointImages, Except.forM_ok_iff]
  intro entry isEntry
  rw [Except.forM_ok_iff]
  intro required isDirty
  have isDirty : required ∈ entry.state.dirtyImage := by simpa using isDirty
  rcases isPages.required_record isEntry
    (RestartPageState.requiredImage_of_dirty isDirty) with
    ⟨record, isRecord, page, counts, number, position⟩
  rcases windowOf.dirty entry isEntry required isDirty with ⟨other, inWindow, here⟩
  have same :=
    valid.eq_of_position (selects.subset isRecord) (List.mem_append_right _ inWindow)
    (position.trans here.symm)
  have owned :=
    dirtyCheckpointRequiredImageIsOwned_ok valid table selects counts (same ▸ inWindow)
  rw [number] at owned
  rw [owned]
  rfl

/-! ## Backed snapshots -/

theorem validateReplayBackedSnapshot_ok (valid : ValidPrefix lineage (before ++ window))
    {analysis : RestartAnalysis}
    (table : TableOf (before ++ window) analysis.transactions)
    {snapshot : StoredPageSnapshotObservation width}
    {record : DurableTransactionRestartObservation width} (among : record ∈ window)
    {target : RestartCheckpointPageRepairTarget width}
    (targeted : replayTarget (before ++ window) record = some target)
    (same : target.page = snapshot.record) :
    validateReplayBackedSnapshot snapshot window analysis = .ok () := by
  rcases List.mem_iff_getElem?.mp among with ⟨index, indexed⟩
  rcases replayTarget_image targeted with ⟨image, position⟩
  have here : record.position = snapshot.requiredPosition := by
    rw [← position, same]
    rfl
  have found :
      ownedReplayPageAtPosition snapshot.pageNumber snapshot.requiredPosition window =
      some (index, record) := by
    rw [ownedReplayPageAtPosition, (ownedReplayObservationAtPosition_eq_some_iff
      valid.append_right).mpr ⟨indexed, by rw [here]⟩]
    refine Option.filter_eq_some_iff.mpr ⟨rfl, ?_⟩
    have holds : ∃ page ∈ record.pageImage, page.pageNumber = snapshot.pageNumber ∧
        page.position = snapshot.requiredPosition :=
      ⟨target.page, image, by rw [same]; rfl, by rw [same]; rfl⟩
    simpa using holds
  have prepared := preparedReplayPageTarget_ok valid table indexed
  have payload : SnapshotPayloadMatches snapshot target.page := by
    rw [same]
    exact ⟨rfl, rfl⟩
  rw [validateReplayBackedSnapshot, found, okOr, Except.ok_bind]
  cases record with
  | page page =>
      cases targeted
      simp only [payload, not_true, rejectIf, if_false]
  | transactionPage owned =>
      have samePage : owned.page = target.page := Option.some.inj image
      have payload : SnapshotPayloadMatches snapshot owned.page := samePage ▸ payload
      simp only [payload, not_true, rejectIf, if_false, prepared, targeted,
        Except.ok_bind, reduceCtorEq]
  | commit commit => cases targeted

theorem validateIfOwned_ok (valid : ValidPrefix lineage (before ++ window))
    {analysis : RestartAnalysis}
    (table : TableOf (before ++ window) analysis.transactions)
    {snapshot : StoredPageSnapshotObservation width}
    (backed : Backed (before ++ window) (before ++ window) pageNumber snapshot) :
    validateIfOwned pageNumber snapshot window analysis = .ok () := by
  rw [validateIfOwned]
  split
  · rfl
  · rename_i owned
    rcases Option.ne_none_iff_exists'.mp owned with ⟨⟨index, other⟩, found⟩
    rcases Option.filter_eq_some_iff.mp found with ⟨atPosition, _⟩
    rcases (ownedReplayObservationAtPosition_eq_some_iff valid.append_right).mp
      atPosition with ⟨indexed, here⟩
    rcases backed_iff.mp backed with ⟨target, among, same⟩
    rcases (mem_replayTargets.mp among).1 with ⟨record, isRecord, targeted⟩
    have inWindow := List.mem_of_getElem? indexed
    have position : record.position = snapshot.requiredPosition := by
      rw [← (replayTarget_image targeted).2, same]
      rfl
    have isOther := valid.eq_of_position isRecord (List.mem_append_right _ inWindow)
      (by rw [position, here])
    exact validateReplayBackedSnapshot_ok valid table (isOther ▸ inWindow) targeted same

/-! ## Decisions -/

/-- The decision about a page that the store shows as `snapshot`. -/
inductive Decides (records : List (DurableTransactionRestartObservation width))
    (snapshot : Option (StoredPageSnapshotObservation width))
    (repair : PreparedRestartCheckpointPageRepair width) : Prop
  | noRequiredImage (resolution : repair.resolution = .noRequiredImage)
      (latest : latestImage records repair.pageNumber = none) (missing : snapshot = none)
  | current (expected : StoredPageSnapshotObservation width)
      (resolution : repair.resolution = .checkpointCurrent expected ∨
        repair.resolution = .alreadyCurrent expected)
      (latest : latestImage records repair.pageNumber = some expected)
      (holds : snapshot = some expected)
      (targeted : repair.resolution = .alreadyCurrent expected → ∃ target,
        repair.target = some target ∧
          (replayTargets records records repair.pageNumber).getLast? = some target)
  | candidate (target : RestartCheckpointPageRepairTarget width)
      (resolution : repair.resolution = .candidate snapshot)
      (isTarget : repair.target = some target)
      (latest : (replayTargets records records repair.pageNumber).getLast? = some target)
      (behind : ∀ stored ∈ snapshot, stored.requiredPosition ≠ target.pagePosition)

theorem Backed.identity (valid : ValidPrefix lineage records)
    {snapshot : StoredPageSnapshotObservation width}
    (backed : Backed records records pageNumber snapshot) :
    snapshot.pageNumber = pageNumber ∧ snapshot.requiredPosition.lineage = lineage := by
  rcases backed_iff.mp backed with ⟨target, among, same⟩
  rcases mem_replayTargets.mp among with ⟨⟨record, isRecord, targeted⟩, number⟩
  constructor
  · rw [same] at number
    exact number
  · have own := valid.own record isRecord
    rw [← (replayTarget_image targeted).2, same] at own
    exact own

theorem position_le_of_getLast? (valid : ValidPrefix lineage observations)
    {target last : RestartCheckpointPageRepairTarget width}
    (among : target ∈ replayTargets whole observations pageNumber)
    (isLast : (replayTargets whole observations pageNumber).getLast? = some last) :
    target.pagePosition.get ≤ last.pagePosition.get := by
  have ordered :
      (replayTargets whole observations pageNumber).Pairwise fun earlier later =>
      earlier.pagePosition.get < later.pagePosition.get :=
        replayTargets_ordered valid pageNumber
  rcases List.getLast?_eq_some_iff.mp isLast with ⟨front, split⟩
  rw [split] at among ordered
  rcases List.mem_append.mp among with before | here
  · exact ((List.pairwise_append.mp ordered).2.2 target before last List.mem_cons_self).le
  · rw [List.mem_singleton.mp here]

theorem target_eq_of_position (valid : ValidPrefix lineage records)
    {left right : RestartCheckpointPageRepairTarget width}
    (leftAmong : left ∈ replayTargets records records pageNumber)
    (rightAmong : right ∈ replayTargets records records pageNumber)
    (same : left.pagePosition.get = right.pagePosition.get) : left = right := by
  rcases (mem_replayTargets.mp leftAmong).1 with ⟨first, isFirst, firstTargeted⟩
  rcases (mem_replayTargets.mp rightAmong).1 with ⟨second, isSecond, secondTargeted⟩
  have samePosition : first.position.get = second.position.get := by
    rw [← (replayTarget_image firstTargeted).2, ← (replayTarget_image secondTargeted).2]
    exact same
  rw [valid.eq_of_position isFirst isSecond samePosition, secondTargeted] at firstTargeted
  exact (Option.some.inj firstTargeted).symm

theorem snapshot_identified (valid : ValidPrefix lineage records)
    {snapshot : Option (StoredPageSnapshotObservation width)}
    (backed : ∀ stored ∈ snapshot, Backed records records pageNumber stored) :
    (forM snapshot.toList (validatePreparedSnapshotIdentity lineage pageNumber) :
      Except RestartCheckpointRepairPreparationEvidenceError PUnit) = .ok () := by
  rw [Except.forM_ok_iff]
  intro stored isStored
  rcases (backed stored (by simpa using isStored)).identity valid with ⟨number, own⟩
  simp only [validatePreparedSnapshotIdentity, number, own, rejectIf, ne_eq, not_true,
    if_false]
  rfl

theorem resolve_targeted (valid : ValidPrefix lineage (before ++ window))
    {analysis : RestartAnalysis}
    (table : TableOf (before ++ window) analysis.transactions)
    {repair : PreparedRestartCheckpointPageRepair width}
    {snapshot : Option (StoredPageSnapshotObservation width)}
    (changed : repair.unchangedCheckpointCurrent = false)
    (latest :
      (replayTargets (before ++ window) (before ++ window) repair.pageNumber).getLast? =
      repair.target)
    (expects : checkSourceExpectation repair snapshot = .ok ())
    (backed : ∀ stored ∈ snapshot,
      Backed (before ++ window) (before ++ window) repair.pageNumber stored)
    (suffix : repair.sourceExpectation = .suffixOnly →
      ∀ target ∈ replayTargets (before ++ window) (before ++ window) repair.pageNumber,
        target ∈ replayTargets (before ++ window) window repair.pageNumber) :
    ∃ resolution,
      resolvePreparedRestartCheckpointPageRepair lineage repair snapshot window
        analysis = .ok { repair with resolution } ∧
      Decides (before ++ window) snapshot { repair with resolution } := by
  rw [resolvePreparedRestartCheckpointPageRepair, snapshot_identified valid backed,
    Except.ok_bind, expects, Except.ok_bind, changed]
  simp only [Bool.false_eq_true, if_false]
  cases isTarget : repair.target with
  | none =>
      rw [isTarget, List.getLast?_eq_none_iff] at latest
      cases snapshot with
      | some stored =>
          rcases backed_iff.mp (backed stored rfl) with ⟨target, among, _⟩
          rw [latest] at among
          cases among
      | none =>
          refine ⟨.noRequiredImage, rfl, .noRequiredImage rfl ?_ rfl⟩
          rw [latestImage, latest]
          rfl
  | some target =>
      rw [isTarget] at latest
      cases snapshot with
      | none =>
          exact ⟨.candidate none, rfl, .candidate target rfl rfl latest (by simp)⟩
      | some stored =>
          rcases backed_iff.mp (backed stored rfl) with ⟨held, isHeld, same⟩
          have heldPosition : held.pagePosition = stored.requiredPosition := by
            rw [RestartCheckpointPageRepairTarget.pagePosition, same]
            rfl
          have bound := position_le_of_getLast? valid isHeld latest
          by_cases here : stored.requiredPosition = target.pagePosition
          · have isTarget :=
              target_eq_of_position valid isHeld (List.mem_of_getLast? latest)
              (by rw [heldPosition, here])
            have agrees : SnapshotMatchesPreparedRepairTarget stored target := by
              rw [SnapshotMatchesPreparedRepairTarget,
                RestartCheckpointPageRepairTarget.pagePosition, ← isTarget, same]
              exact ⟨rfl, rfl, rfl, rfl⟩
            refine ⟨.alreadyCurrent stored, ?_, .current stored (.inr rfl) ?_ rfl
              fun _ => ⟨target, rfl, latest⟩⟩
            · simp only [resolveTargeted, here, if_true, agrees, not_true, rejectIf,
                if_false]
              rfl
            · rw [latestImage, latest, Option.map_some, ← isTarget, same]
              rfl
          · refine ⟨.candidate (some stored), ?_, .candidate target rfl rfl latest ?_⟩
            · have notAfter : ¬target.pagePosition.get < stored.requiredPosition.get := by
                rw [← heldPosition]
                exact not_lt.mpr bound
              simp only [resolveTargeted, here, if_false, rejectIf, notAfter]
              cases expectation : repair.sourceExpectation with
              | missingAtCheckpoint => rfl
              | exactCheckpointSnapshot position =>
                  simp only [validateIfOwned_ok valid table (backed stored rfl)]
                  rfl
              | suffixOnly =>
                  rcases (mem_replayTargets.mp (suffix expectation held isHeld)).1 with
                    ⟨record, inWindow, targeted⟩
                  simp only [
                    validateReplayBackedSnapshot_ok valid table inWindow targeted same]
                  rfl
            · intro other isOther
              cases isOther
              exact here

theorem resolve_unchanged (valid : ValidPrefix lineage (before ++ window))
    {analysis : RestartAnalysis}
    (table : TableOf (before ++ window) analysis.transactions)
    {repair : PreparedRestartCheckpointPageRepair width}
    {stored : StoredPageSnapshotObservation width}
    (unchanged : repair.unchangedCheckpointCurrent = true)
    (expects : checkSourceExpectation repair (some stored) = .ok ())
    (backed : Backed (before ++ window) (before ++ window) repair.pageNumber stored)
    (latest : latestImage (before ++ window) repair.pageNumber = some stored) :
    ∃ resolution,
      resolvePreparedRestartCheckpointPageRepair lineage repair (some stored) window
        analysis = .ok { repair with resolution } ∧
      Decides (before ++ window) (some stored) { repair with resolution } := by
  have backedStored : ∀ other ∈ some stored,
      Backed (before ++ window) (before ++ window) repair.pageNumber other := by
    simpa using backed
  have identified := snapshot_identified valid backedStored
  refine ⟨.checkpointCurrent stored, ?_, .current stored (.inl rfl) latest rfl (by simp)⟩
  rw [resolvePreparedRestartCheckpointPageRepair, identified, Except.ok_bind, expects,
    Except.ok_bind, unchanged]
  simp only [if_true, resolveUnchanged, okOr, Except.ok_bind,
    validateIfOwned_ok valid table backed]
  rfl

/-! ## Pages at the checkpoint -/

section Checkpoint

variable (valid : ValidPrefix lineage (before ++ window))
  (selects : selected <+: before ++ window)
  (windowOf : WindowOf (before ++ window) selected before window baseline)

include selects in
theorem Backed.of_selected {snapshot : StoredPageSnapshotObservation width}
    (valid : ValidPrefix lineage (before ++ window))
    (backed : Backed selected selected pageNumber snapshot) :
    Backed (before ++ window) (before ++ window) pageNumber snapshot := by
  rcases backed with ⟨image, among, same⟩
  rcases mem_requirements.mp among with ⟨⟨record, isRecord, counts⟩, number⟩
  exact ⟨image, mem_requirements.mpr ⟨⟨record, selects.subset isRecord,
    valid.requirement_of_selected selects counts⟩, number⟩, same⟩

include windowOf in
theorem backed_of_before {target : RestartCheckpointPageRepairTarget width}
    (among : target ∈ replayTargets (before ++ window) before pageNumber) :
    Backed selected selected pageNumber (snapshotOf target.page) := by
  rcases mem_replayTargets.mp among with ⟨⟨record, isRecord, targeted⟩, number⟩
  have counted := replayTarget_page (before ++ window) record
  rw [targeted, windowOf.settled record isRecord] at counted
  rcases Option.map_eq_some_iff.mp counted.symm with ⟨image, counts, same⟩
  refine ⟨image,
    mem_requirements.mpr ⟨⟨record, windowOf.within record isRecord, counts⟩, ?_⟩, same⟩
  rw [same]
  exact number

/-- If nothing before the window is needed, the last target is the window's. -/
theorem latest_of_window
    (uncovered : replayTargets (before ++ window) before pageNumber = [] ∨
      replayTargets (before ++ window) window pageNumber ≠ []) :
    (replayTargets (before ++ window) (before ++ window) pageNumber).getLast? =
      (replayTargets (before ++ window) window pageNumber).getLast? := by
  rw [replayTargets_append, List.getLast?_append]
  rcases uncovered with nothing | some
  · rw [nothing]
    cases (replayTargets (before ++ window) window pageNumber).getLast? <;> rfl
  · rcases Option.ne_none_iff_exists'.mp
      (fun none => some (List.getLast?_eq_none_iff.mp none)) with ⟨target, isLast⟩
    rw [isLast]
    rfl

include valid selects windowOf in
theorem targets_of_dirty {numbers : List PageNumber}
    (isPages : PagesOf selected selected observePage numbers baseline.pages)
    {entry : RestartPageEntry} (among : entry ∈ baseline.pages)
    {required : RestartRequiredPageImage} (dirty : required ∈ entry.state.dirtyImage) :
    replayTargets (before ++ window) window entry.pageNumber ≠ [] := by
  rcases isPages.required_record among
    (RestartPageState.requiredImage_of_dirty dirty) with
    ⟨record, isRecord, page, counts, number, position⟩
  rcases windowOf.dirty entry among required dirty with ⟨other, inWindow, here⟩
  have same :=
    valid.eq_of_position (selects.subset isRecord) (List.mem_append_right _ inWindow)
    (position.trans here.symm)
  have counted := replayTarget_page (before ++ window) record
  rw [valid.requirement_of_selected selects counts] at counted
  rcases Option.map_eq_some_iff.mp counted with ⟨target, targeted, samePage⟩
  refine List.ne_nil_of_mem
    (mem_replayTargets.mpr ⟨⟨record, same ▸ inWindow, targeted⟩, ?_⟩)
  rw [samePage]
  exact number

theorem StoreShows.missing_of_unrequired (validSelected : ValidPrefix lineage selected)
    {snapshot : Option (StoredPageSnapshotObservation width)}
    (shows : StoreShows selected selected pageNumber snapshot)
    (unrequired : requiredImage selected selected pageNumber = none) :
      snapshot = none := by
  rw [Option.eq_none_iff_forall_ne_some]
  intro stored isStored
  rcases (shows stored isStored).le_required validSelected with ⟨image, isImage, _⟩
  rw [unrequired] at isImage
  cases isImage

include valid selects windowOf in
theorem targets_before_of_unrequired
    (unrequired : requiredImage selected selected pageNumber = none) :
    replayTargets (before ++ window) before pageNumber = [] := by
  rw [List.eq_nil_iff_forall_not_mem]
  intro target isTarget
  rcases (backed_of_before windowOf isTarget).le_required (valid.of_prefix selects) with
    ⟨image, isImage, _⟩
  rw [unrequired] at isImage
  cases isImage

include valid selects windowOf in
theorem latestImage_of_unchanged {stored : StoredPageSnapshotObservation width}
    (backed : Backed selected selected pageNumber stored)
    {required : RestartRequiredPageImage}
    (isRequired : requiredImage selected selected pageNumber = some required)
    (current : stored.requiredPosition.get = required.pagePosition)
    (unchanged : UnchangedAtCheckpoint
      (replayTargets (before ++ window) window pageNumber).getLast? required) :
    latestImage (before ++ window) pageNumber = some stored := by
  rcases backed_iff.mp (Backed.of_selected selects valid backed) with ⟨held, isHeld, same⟩
  have heldPosition : held.pagePosition = stored.requiredPosition := by
    rw [RestartCheckpointPageRepairTarget.pagePosition, same]
    rfl
  rcases Option.ne_none_iff_exists'.mp (fun none : (replayTargets (before ++ window)
      (before ++ window) pageNumber).getLast? = none =>
        List.ne_nil_of_mem isHeld (List.getLast?_eq_none_iff.mp none)) with ⟨last, isLast⟩
  have above := position_le_of_getLast? valid isHeld isLast
  have below : last.pagePosition.get ≤ required.pagePosition := by
    by_cases inWindow : replayTargets (before ++ window) window pageNumber = []
    · have early := List.mem_of_getLast? isLast
      rw [replayTargets_append, inWindow, List.append_nil] at early
      have validSelected := valid.of_prefix selects
      rcases (backed_of_before windowOf early).le_required validSelected with
        ⟨image, isImage, bound⟩
      rw [isRequired] at isImage
      cases isImage
      exact bound
    · rw [latest_of_window (.inr inWindow)] at isLast
      exact unchanged last isLast
  have isHeldLast := target_eq_of_position valid isHeld (List.mem_of_getLast? isLast)
    (le_antisymm above (by rw [heldPosition, current]; exact below))
  rw [latestImage, isLast, Option.map_some, ← isHeldLast, same]
  rfl

theorem selectedCheckpointPageEntry_cases
    (isPages : PagesOf selected selected observePage
      (restartPageNumbers [] selected) baseline.pages) (pageNumber : PageNumber) :
    (selectedCheckpointPageEntry baseline pageNumber = none ∧
        pageNumber ∉ restartPageNumbers [] selected) ∨
      ∃ entry, selectedCheckpointPageEntry baseline pageNumber = some entry ∧
        entry ∈ baseline.pages ∧ entry.pageNumber = pageNumber := by
  have increasing : Increasing (fun entry : RestartPageEntry => entry.pageNumber.get)
      baseline.pages := by
    have ordered : (restartPageNumbers [] selected).Pairwise fun earlier later =>
        earlier.get < later.get := restartPageNumbers_increasing []
    rw [← isPages.numbers, List.pairwise_map] at ordered
    exact ordered
  cases found : selectedCheckpointPageEntry baseline pageNumber with
  | none =>
      refine .inl ⟨rfl, fun listed => ?_⟩
      rw [← isPages.numbers] at listed
      rcases List.mem_map.mp listed with ⟨entry, among, rfl⟩
      exact increasing.search_eq_none.mp found entry among rfl
  | some entry =>
      rcases increasing.search_eq_some.mp found with ⟨among, here⟩
      exact .inr ⟨entry, rfl, among, NonZeroU64.ext here⟩

theorem Backed.listed {snapshot : StoredPageSnapshotObservation width}
    (backed : Backed selected selected pageNumber snapshot) :
    pageNumber ∈ restartPageNumbers [] selected := by
  rcases backed_iff.mp backed with ⟨target, among, _⟩
  rcases mem_replayTargets.mp among with ⟨⟨record, isRecord, targeted⟩, number⟩
  exact mem_restartPageNumbers.mpr
    (.inr ⟨record, isRecord, target.page, (replayTarget_image targeted).1, number⟩)

theorem checkSourceExpectation_exact {repair : PreparedRestartCheckpointPageRepair width}
    {stored : StoredPageSnapshotObservation width}
    (expectation : repair.sourceExpectation =
      .exactCheckpointSnapshot stored.requiredPosition.get) :
    checkSourceExpectation repair (some stored) = .ok () := by
  simp [checkSourceExpectation, expectation]

/-- A repair that expects a source, with the target the window has for the page. -/
def expectingRepair
    (whole observations : List (DurableTransactionRestartObservation width))
    (pageNumber : PageNumber)
    (expectation : PreparedRestartCheckpointPageSourceExpectation) :
    PreparedRestartCheckpointPageRepair width :=
  { targetedRepair whole observations pageNumber with
    sourceExpectation := expectation, unchangedCheckpointCurrent := false }

/-- The repair of a page that is to be left as the checkpoint found it. -/
def unchangedRepair
    (whole observations : List (DurableTransactionRestartObservation width))
    (pageNumber : PageNumber) (storedPosition : U64) :
      PreparedRestartCheckpointPageRepair width :=
  { targetedRepair whole observations pageNumber with
    sourceExpectation := .exactCheckpointSnapshot storedPosition
    target := none
    unchangedCheckpointCurrent := true }

def ResolvesTo (lineage : LogLineage)
    (whole observations : List (DurableTransactionRestartObservation width))
    (analysis : RestartAnalysis) (snapshot : Option (StoredPageSnapshotObservation width))
    (repair : PreparedRestartCheckpointPageRepair width) : Prop :=
  ∃ resolved,
    resolvePreparedRestartCheckpointPageRepair lineage repair snapshot observations
      analysis = .ok resolved ∧
    resolved.pageNumber = repair.pageNumber ∧ Decides whole snapshot resolved

include valid in
theorem resolve_expecting {analysis : RestartAnalysis}
    (table : TableOf (before ++ window) analysis.transactions)
    {snapshot : Option (StoredPageSnapshotObservation width)}
    {expectation : PreparedRestartCheckpointPageSourceExpectation}
    (uncovered : replayTargets (before ++ window) before pageNumber = [] ∨
      replayTargets (before ++ window) window pageNumber ≠ [])
    (expects : checkSourceExpectation
      (expectingRepair (before ++ window) window pageNumber expectation)
        snapshot = .ok ())
    (backed : ∀ stored ∈ snapshot, Backed (before ++ window)
      (before ++ window) pageNumber stored)
    (suffix : expectation = .suffixOnly → replayTargets
      (before ++ window) before pageNumber = []) :
    ResolvesTo lineage (before ++ window) window analysis snapshot
      (expectingRepair (before ++ window) window pageNumber expectation) := by
  have inWindow (onlySuffix : expectation = .suffixOnly) :
      ∀ target ∈ replayTargets (before ++ window) (before ++ window) pageNumber,
        target ∈ replayTargets (before ++ window) window pageNumber := by
    intro target isTarget
    rw [replayTargets_append, suffix onlySuffix] at isTarget
    exact isTarget
  have resolved :=
    resolve_targeted valid table rfl (latest_of_window uncovered) expects backed inWindow
  rcases resolved with ⟨resolution, resolves, decides⟩
  exact ⟨_, resolves, rfl, decides⟩

include valid windowOf in
theorem resolve_unlisted {analysis : RestartAnalysis}
    (table : TableOf (before ++ window) analysis.transactions)
    {snapshot : Option (StoredPageSnapshotObservation width)}
    (unlisted : pageNumber ∉ restartPageNumbers [] selected)
    (backed : ∀ stored ∈ snapshot, Backed (before ++ window)
      (before ++ window) pageNumber stored) :
    ResolvesTo lineage (before ++ window) window analysis snapshot
      (expectingRepair (before ++ window) window pageNumber .suffixOnly) := by
  have nothing : replayTargets (before ++ window) before pageNumber = [] := by
    rw [List.eq_nil_iff_forall_not_mem]
    intro target isTarget
    exact unlisted (backed_of_before windowOf isTarget).listed
  exact resolve_expecting valid table (.inl nothing) rfl backed fun _ => nothing

include valid selects windowOf in
theorem resolve_current {analysis : RestartAnalysis}
    (table : TableOf (before ++ window) analysis.transactions)
    {stored : StoredPageSnapshotObservation width} {required : RestartRequiredPageImage}
    (backed : Backed selected selected pageNumber stored)
    (isRequired : requiredImage selected selected pageNumber = some required)
    (current : stored.requiredPosition.get = required.pagePosition) :
    ResolvesTo lineage (before ++ window) window analysis (some stored)
      (if UnchangedAtCheckpoint
        (replayTargets (before ++ window) window pageNumber).getLast? required
      then unchangedRepair (before ++ window) window pageNumber
        stored.requiredPosition.get
      else expectingRepair (before ++ window) window pageNumber
        (.exactCheckpointSnapshot stored.requiredPosition.get)) := by
  have backedNow := Backed.of_selected selects valid backed
  split
  · rename_i unchanged
    have latest :=
      latestImage_of_unchanged valid selects windowOf backed isRequired current unchanged
    have expects :
        checkSourceExpectation (unchangedRepair (before ++ window) window pageNumber
        stored.requiredPosition.get) (some stored) = .ok () :=
          checkSourceExpectation_exact rfl
    rcases resolve_unchanged valid table rfl expects backedNow latest with
      ⟨resolution, resolves, decides⟩
    exact ⟨_, resolves, rfl, decides⟩
  · rename_i changed
    have some : replayTargets (before ++ window) window pageNumber ≠ [] := by
      intro nothing
      rw [nothing] at changed
      exact changed (by simp [UnchangedAtCheckpoint])
    exact resolve_expecting valid table (.inr some) (checkSourceExpectation_exact rfl)
      (by simpa using backedNow) (by simp)

include valid selects windowOf in
theorem resolve_listed {analysis : RestartAnalysis}
    (table : TableOf (before ++ window) analysis.transactions)
    (isPages : PagesOf selected selected observePage
      (restartPageNumbers [] selected) baseline.pages)
    {entry : RestartPageEntry} (among : entry ∈ baseline.pages)
    (found : selectedCheckpointPageEntry baseline entry.pageNumber = some entry)
    {snapshot : Option (StoredPageSnapshotObservation width)}
    (observed : observePage entry.pageNumber = .ok snapshot) :
    ResolvesTo lineage (before ++ window) window analysis snapshot
      (combineRestartCheckpointPageRepairEvidence baseline
        (targetedRepair (before ++ window) window entry.pageNumber)) := by
  rcases isPages.row among with ⟨other, isOther, shows, isEntry⟩
  have same : other = snapshot := Except.ok.inj (isOther.symm.trans observed)
  subst same
  have state := congrArg RestartPageEntry.state isEntry
  have found : selectedCheckpointPageEntry baseline
      (targetedRepair (before ++ window) window entry.pageNumber).pageNumber =
        some entry := found
  rw [combineRestartCheckpointPageRepairEvidence, found, Option.map_some]
  cases isRequired : requiredImage selected selected entry.pageNumber with
  | none =>
      have missing := shows.missing_of_unrequired (valid.of_prefix selects) isRequired
      have nothing := targets_before_of_unrequired valid selects windowOf isRequired
      rw [isRequired] at state
      have unrequired : entry.state = .noRequiredImage := state
      rw [missing, unrequired]
      exact resolve_expecting valid table (.inl nothing) rfl (by simp) (by simp)
  | some required =>
      have inWindow (dirty : required ∈ entry.state.dirtyImage) :=
        targets_of_dirty valid selects windowOf isPages among dirty
      rw [isRequired] at state
      cases other with
      | none =>
          have missing : entry.state = .storeMissing required := state
          have dirty := inWindow (by rw [missing]; rfl)
          rw [missing]
          exact resolve_expecting valid table (.inr dirty) rfl (by simp) (by simp)
      | some stored =>
          have backed := shows stored rfl
          rw [Option.map_some, restartStateOf] at state
          split at state
          · rename_i current
            rw [state]
            exact resolve_current valid selects windowOf table backed isRequired current
          · have dirty := inWindow (by rw [state]; rfl)
            have backedNow := Backed.of_selected selects valid backed
            rw [state]
            exact resolve_expecting valid table (.inr dirty)
              (checkSourceExpectation_exact rfl) (by simpa using backedNow) (by simp)

include valid selects windowOf in
theorem resolve_ok {analysis : RestartAnalysis}
    (table : TableOf (before ++ window) analysis.transactions)
    (isPages : PagesOf selected selected observePage
      (restartPageNumbers [] selected) baseline.pages)
    {snapshot : Option (StoredPageSnapshotObservation width)}
    (unmoved : pageNumber ∈ restartPageNumbers [] selected → observePage pageNumber =
      .ok snapshot)
    (advanced : pageNumber ∉ restartPageNumbers [] selected →
      ∀ stored ∈ snapshot,
        Backed (before ++ window) (before ++ window) pageNumber stored) :
    ResolvesTo lineage (before ++ window) window analysis snapshot
      (combineRestartCheckpointPageRepairEvidence baseline
        (targetedRepair (before ++ window) window pageNumber)) := by
  rcases selectedCheckpointPageEntry_cases isPages pageNumber with
    ⟨absent, unlisted⟩ | ⟨entry, found, among, rfl⟩
  · have absent : selectedCheckpointPageEntry baseline
        (targetedRepair (before ++ window) window pageNumber).pageNumber = none := absent
    rw [combineRestartCheckpointPageRepairEvidence, absent]
    exact resolve_unlisted valid windowOf table unlisted (advanced unlisted)
  · have listed : entry.pageNumber ∈ restartPageNumbers [] selected := by
      rw [← isPages.numbers]
      exact List.mem_map_of_mem among
    exact resolve_listed valid selects windowOf table isPages among found (unmoved listed)

include valid selects windowOf in
theorem latestImage_of_untouched {numbers : List PageNumber}
    (isPages : PagesOf selected selected observePage numbers baseline.pages)
    (listed : pageNumber ∈ numbers)
    (untouched : replayTargets (before ++ window) window pageNumber = [])
    {snapshot : Option (StoredPageSnapshotObservation width)}
    (observed : observePage pageNumber = .ok snapshot) :
    latestImage (before ++ window) pageNumber = snapshot := by
  rw [← isPages.numbers] at listed
  rcases List.mem_map.mp listed with ⟨entry, among, rfl⟩
  rcases isPages.row among with ⟨found, isFound, shows, isEntry⟩
  have same : found = snapshot := Except.ok.inj (isFound.symm.trans observed)
  subst same
  have state := congrArg RestartPageEntry.state isEntry
  have clean (required : RestartRequiredPageImage) : required ∉ entry.state.dirtyImage :=
    fun dirty => targets_of_dirty valid selects windowOf isPages among dirty untouched
  cases isRequired : requiredImage selected selected entry.pageNumber with
  | none =>
      have nothing := targets_before_of_unrequired valid selects windowOf isRequired
      rw [shows.missing_of_unrequired (valid.of_prefix selects) isRequired, latestImage,
        replayTargets_append, nothing, untouched]
      rfl
  | some required =>
      rw [isRequired] at state
      cases found with
      | none =>
          have missing : entry.state = .storeMissing required := state
          exact absurd (by rw [missing]; rfl) (clean required)
      | some stored =>
          rw [Option.map_some, restartStateOf] at state
          split at state
          · rename_i current
            refine latestImage_of_unchanged valid selects windowOf
              (shows stored rfl) isRequired current ?_
            rw [untouched]
            simp [UnchangedAtCheckpoint]
          · exact absurd (by rw [state]; rfl) (clean required)

theorem combine_pageNumber (repair : PreparedRestartCheckpointPageRepair width) :
    (combineRestartCheckpointPageRepairEvidence baseline repair).pageNumber =
      repair.pageNumber := by
  rw [combineRestartCheckpointPageRepairEvidence]
  split
  all_goals try split
  all_goals rfl

theorem replayPageNumbers_increasing (replayObservations :
    List (DurableTransactionRestartObservation width)) :
    (replayPageNumbers replayObservations).Pairwise fun earlier later =>
      earlier.get < later.get :=
  sortedNumbers_increasing _

theorem mem_replayPageNumbers {replayObservations :
    List (DurableTransactionRestartObservation width)} :
    pageNumber ∈ replayPageNumbers replayObservations ↔
      ∃ record ∈ replayObservations, ∃ page, record.pageImage = some page ∧
        page.pageNumber = pageNumber := by
  simp only [replayPageNumbers, List.mem_dedup, List.mem_mergeSort, List.mem_map,
    List.mem_filterMap]
  constructor
  · intro found
    rcases found with ⟨page, ⟨record, among, image⟩, here⟩
    exact ⟨record, among, page, image, here⟩
  · intro found
    rcases found with ⟨record, among, page, image, here⟩
    exact ⟨page, ⟨record, among, image⟩, here⟩

include valid selects windowOf in
/-- Preparation decides about every page of the window, for its last image. -/
theorem prepare_ok {analysis : RestartAnalysis}
    (table : TableOf (before ++ window) analysis.transactions)
    (own : analysis.lineage = lineage)
    (isPages : PagesOf selected selected observePage
      (restartPageNumbers [] selected) baseline.pages)
    (retained : List (DurableTransactionRestartObservation width))
    (page : PageNumber → Option (StoredPageSnapshotObservation width))
    (unmoved : ∀ pageNumber ∈ replayPageNumbers window,
      pageNumber ∈ restartPageNumbers [] selected → observePage pageNumber =
        .ok (page pageNumber))
    (advanced : ∀ pageNumber ∈ replayPageNumbers window,
      pageNumber ∉ restartPageNumbers [] selected → ∀ stored ∈ page pageNumber,
        Backed (before ++ window) (before ++ window) pageNumber stored) :
    ∃ repairs, prepareTransactionRestartCheckpointPageRepairs lineage
        (fun pageNumber => (.ok (page pageNumber) : Except StoreError _)) baseline
        ⟨analysis, window, retained⟩ = .ok repairs ∧
      List.Forall₂ (fun pageNumber repair => repair.pageNumber = pageNumber ∧
        Decides (before ++ window) (page pageNumber) repair) (replayPageNumbers window)
          repairs := by
  have targeted := foldlM_targetReplayObservation_ok valid table
    (replayPageNumbers_increasing window)
    (fun record among found image =>
      mem_replayPageNumbers.mpr ⟨record, among, found, image, rfl⟩)
    window [] rfl
  have validated :=
    validateOwnedDirtyCheckpointImages_ok valid table selects windowOf isPages
  have each : ∀ pageNumber ∈ replayPageNumbers window, ∃ repair,
      (resolvePreparedRestartCheckpointPageRepair lineage
        (combineRestartCheckpointPageRepairEvidence baseline
          (targetedRepair (before ++ window) window pageNumber)) (page pageNumber) window
            analysis).mapError
              (.evidence : RestartCheckpointRepairPreparationEvidenceError →
              RestartCheckpointRepairPreparationError StoreError) = .ok repair ∧
        repair.pageNumber = pageNumber ∧
          Decides (before ++ window) (page pageNumber) repair := by
    intro pageNumber listed
    rcases resolve_ok valid selects windowOf table isPages (unmoved pageNumber listed)
      (advanced pageNumber listed) with ⟨repair, resolves, number, decides⟩
    rw [combine_pageNumber] at number
    exact ⟨repair, Except.mapError_ok_iff.mpr resolves, number, decides⟩
  rcases Except.exists_mapM_ok each with ⟨repairs, mapped, holds⟩
  refine ⟨repairs, ?_, holds⟩
  have started : (replayPageNumbers window).map PreparedRestartCheckpointPageRepair.new =
      (replayPageNumbers window).map (targetedRepair (before ++ window) []) := rfl
  rw [prepareTransactionRestartCheckpointPageRepairs]
  simp only [own, ne_eq, not_true, rejectIf, if_false, Except.ok_bind, started]
  rw [List.length_nil] at targeted
  rw [targeted, Except.mapError, Except.ok_bind, validated, Except.mapError,
    Except.ok_bind, List.map_map, List.mapM_map]
  refine Eq.trans
    (congrArg (fun action => List.mapM action (replayPageNumbers window)) ?_) mapped
  funext pageNumber
  simp only [Function.comp_apply, combine_pageNumber]
  rfl

end Checkpoint

end Ntsql.Transaction
