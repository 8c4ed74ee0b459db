import Ntsql.Transaction.PrefixGrowth

/-! # Required page images

The images of a page that count are the raw ones and those of transactions with
a durable commit. The page table compares the last of them with the store. -/

namespace Ntsql.Transaction

open SortedTable

variable {width : Nat} {StoreError : Type} {lineage : LogLineage}
  {whole observations : List (DurableTransactionRestartObservation width)}
  {pageNumber : PageNumber}

/-! ## The images that count -/

/-- The image a record brings, if it counts among the records of `whole`. -/
def requirement (whole : List (DurableTransactionRestartObservation width)) :
    DurableTransactionRestartObservation width →
      Option (DurablePageWalObservation width × RestartRequiredPageImage)
  | .page page => some (page, .raw page.position.get)
  | .transactionPage owned => (commitPosition whole owned.owner).map fun committed =>
      (owned.page, .committedTransaction owned.owner owned.position.get committed.get)
  | .commit _ => none

def requirements (whole observations : List (DurableTransactionRestartObservation width))
    (pageNumber : PageNumber) :
    List (DurablePageWalObservation width × RestartRequiredPageImage) :=
  (observations.filterMap (requirement whole)).filter fun image =>
    image.1.pageNumber = pageNumber

/-- The last image of a page that counts. -/
def requiredImage (whole observations : List (DurableTransactionRestartObservation width))
    (pageNumber : PageNumber) : Option RestartRequiredPageImage :=
  (requirements whole observations pageNumber).getLast?.map (·.2)

/-- The snapshot is an image of the page that counts. -/
def Backed (whole observations : List (DurableTransactionRestartObservation width))
    (pageNumber : PageNumber) (snapshot : StoredPageSnapshotObservation width) : Prop :=
  ∃ image ∈ requirements whole observations pageNumber, image.1 = snapshot.record

theorem requirement_position {record : DurableTransactionRestartObservation width}
    {image : DurablePageWalObservation width × RestartRequiredPageImage}
    (counts : requirement whole record = some image) :
    image.1.position = record.position ∧ image.2.pagePosition = record.position.get := by
  cases record with
  | page page =>
      cases counts
      exact ⟨rfl, rfl⟩
  | transactionPage owned =>
      rcases Option.map_eq_some_iff.mp counts with ⟨committed, _, rfl⟩
      exact ⟨rfl, rfl⟩
  | commit commit => cases counts

theorem mem_requirements
    {image : DurablePageWalObservation width × RestartRequiredPageImage} :
    image ∈ requirements whole observations pageNumber ↔
      (∃ record ∈ observations, requirement whole record = some image) ∧
        image.1.pageNumber = pageNumber := by
  simp only [requirements, List.mem_filter, List.mem_filterMap, decide_eq_true_eq]

theorem requirements_position
    {image : DurablePageWalObservation width × RestartRequiredPageImage}
    (among : image ∈ requirements whole observations pageNumber) :
    image.2.pagePosition = image.1.position.get := by
  rcases (mem_requirements.mp among).1 with ⟨record, _, counts⟩
  rcases requirement_position counts with ⟨position, pagePosition⟩
  rw [pagePosition, position]

theorem requirements_append (whole first second :
    List (DurableTransactionRestartObservation width)) (pageNumber : PageNumber) :
    requirements whole (first ++ second) pageNumber =
      requirements whole first pageNumber ++ requirements whole second pageNumber := by
  simp [requirements]

theorem requirements_ordered (valid : ValidPrefix lineage observations)
    (pageNumber : PageNumber) :
    (requirements whole observations pageNumber).Pairwise fun earlier later =>
      earlier.1.position.get < later.1.position.get := by
  rw [requirements]
  apply List.Pairwise.filter
  rw [List.pairwise_filterMap]
  apply valid.ordered.imp
  intro earlier later before first isFirst second isSecond
  rw [(requirement_position isFirst).1, (requirement_position isSecond).1]
  exact before

/-! ## The scan for the last image -/

theorem requirePageImage_ok {analysis : RestartAnalysis}
    (table : TableOf whole analysis.transactions)
    (required : Option RestartRequiredPageImage)
    {record : DurableTransactionRestartObservation width} (among : record ∈ whole) :
    requirePageImage analysis pageNumber required record =
      .ok ((requiredImage whole [record] pageNumber).or required) := by
  cases record with
  | page page =>
      by_cases here : page.pageNumber = pageNumber <;>
        simp [requirePageImage, requiredImage, requirements, requirement, here] <;> rfl
  | transactionPage owned =>
      by_cases here : owned.page.pageNumber = pageNumber
      · have entry :
            restartTransactionEntry analysis pageNumber owned.owner owned.position.get =
            .ok (entryOf whole owned.owner) := by
          rw [restartTransactionEntry, table.search_eq,
            transactionEntry_of_owner among rfl]
          rfl
        simp only [requirePageImage, if_pos here, entry, Except.ok_bind, entryOf,
          transactionState]
        cases committed : commitPosition whole owned.owner <;>
          simp [requiredImage, requirements, requirement, here, committed] <;> rfl
      · simp only [requirePageImage, if_neg here]
        cases committed : commitPosition whole owned.owner <;>
          simp [requiredImage, requirements, requirement, here, committed] <;> rfl
  | commit commit => rfl

theorem requiredImage_append (whole first second :
    List (DurableTransactionRestartObservation width)) (pageNumber : PageNumber) :
    requiredImage whole (first ++ second) pageNumber =
      (requiredImage whole second pageNumber).or
        (requiredImage whole first pageNumber) := by
  simp only [requiredImage, requirements_append, List.getLast?_append]
  cases (requirements whole second pageNumber).getLast? <;> rfl

theorem latestRequiredRestartPageImage_ok {analysis : RestartAnalysis}
    (table : TableOf whole analysis.transactions)
    (within : ∀ record ∈ observations, record ∈ whole) :
    latestRequiredRestartPageImage analysis pageNumber observations =
      .ok (requiredImage whole observations pageNumber) := by
  induction observations using List.reverseRecOn with
  | nil => rfl
  | append_singleton observations record induction =>
      have before :=
        induction fun other among => within other (List.mem_append_left _ among)
      rw [latestRequiredRestartPageImage] at before ⊢
      rw [List.foldlM_append, before, Except.ok_bind, List.foldlM_cons,
        requirePageImage_ok table _
        (within record (List.mem_append_right _ List.mem_cons_self)),
          requiredImage_append]
      rfl

/-! ## The stored snapshot -/

/-- A page record at the stored position holds the snapshot exactly when number
and payload agree. -/
theorem eq_snapshot_record_iff {snapshot : StoredPageSnapshotObservation width}
    {page : DurablePageWalObservation width}
    (position : page.position = snapshot.requiredPosition)
    (number : snapshot.pageNumber = pageNumber) :
    page = snapshot.record ↔
      page.pageNumber = pageNumber ∧ SnapshotPayloadMatches snapshot page := by
  subst number
  rcases page with ⟨pageNumber, pageVersion, image, pagePosition, nonzero⟩
  simp only at position
  subst position
  simp only [StoredPageSnapshotObservation.record, DurablePageWalObservation.mk.injEq,
    SnapshotPayloadMatches, and_true]
  exact and_congr_right fun _ => and_congr eq_comm eq_comm

theorem checkSnapshotBacking_ok_iff {analysis : RestartAnalysis}
    (table : TableOf whole analysis.transactions)
    {snapshot : StoredPageSnapshotObservation width}
    {record : DurableTransactionRestartObservation width} (among : record ∈ whole)
    (position : record.position = snapshot.requiredPosition)
    (number : snapshot.pageNumber = pageNumber) (value : Unit) :
    checkSnapshotBacking analysis pageNumber snapshot record = .ok value ↔
      ∃ image, requirement whole record = some image ∧ image.1 = snapshot.record := by
  cases record with
  | page page =>
      simp only [checkSnapshotBacking, requirement, Except.bind_ok_iff, rejectIf_ok_iff,
        not_not, Option.some.injEq, exists_eq_left',
        eq_snapshot_record_iff position number]
      simp only [exists_const]
  | transactionPage owned =>
      have entry : restartTransactionEntry analysis pageNumber owned.owner
          snapshot.requiredPosition.get = .ok (entryOf whole owned.owner) := by
        rw [restartTransactionEntry, table.search_eq, transactionEntry_of_owner among rfl]
        rfl
      have position : owned.page.position = snapshot.requiredPosition := position
      simp only [checkSnapshotBacking, Except.bind_ok_iff, rejectIf_ok_iff, not_not,
        entry, Except.ok.injEq, exists_eq_left', entryOf, transactionState, requirement,
        Option.map_eq_some_iff]
      cases committed : commitPosition whole owned.owner with
      | none => simp
      | some commit =>
          simp only [reduceCtorEq, not_false_eq_true, and_true, Option.some.injEq,
            exists_eq_left', eq_snapshot_record_iff position number]
          simp only [exists_const]
  | commit commit =>
      simp [checkSnapshotBacking, requirement, throw, throwThe, MonadExceptOf.throw]

theorem validateRestartPageSnapshot_ok_iff {analysis : RestartAnalysis}
    (table : TableOf whole analysis.transactions)
    (within : ∀ record ∈ observations, record ∈ whole)
    (valid : ValidPrefix lineage observations)
    (frontier : analysis.durableFrontier = lastPosition observations)
    {snapshot : StoredPageSnapshotObservation width} {position : U64} :
    validateRestartPageSnapshot lineage analysis observations pageNumber snapshot =
        .ok position ↔
      Backed whole observations pageNumber snapshot ∧
        position = snapshot.requiredPosition.get := by
  have increasing : Increasing (fun record : DurableTransactionRestartObservation width =>
      record.position.get) observations := valid.ordered
  simp only [validateRestartPageSnapshot, Except.bind_ok_iff, rejectIf_ok_iff, not_not,
    okOr_ok_iff, not_lt, increasing.search_eq_some, Except.pure_ok_iff, exists_const]
  constructor
  · intro validated
    rcases validated with
      ⟨number, own, last, isLast, _, record, ⟨among, here⟩, ⟨⟩, checked, rfl⟩
    have position := LogSequenceNumber.ext_of_own (valid.own record among) own.symm here
    rcases (checkSnapshotBacking_ok_iff table (within record among) position number _).mp
      checked with ⟨image, counts, same⟩
    refine ⟨⟨image, mem_requirements.mpr ⟨⟨record, among, counts⟩, ?_⟩, same⟩, rfl⟩
    rw [same]
    exact number
  · intro backed
    rcases backed with ⟨⟨image, among, same⟩, rfl⟩
    rcases mem_requirements.mp among with ⟨⟨record, isRecord, counts⟩, number⟩
    have position : record.position = snapshot.requiredPosition := by
      rw [← (requirement_position counts).1, same]
      rfl
    rw [same] at number
    have number : snapshot.pageNumber = pageNumber := number
    cases last : observations.getLast? with
    | none => simp [List.getLast?_eq_none_iff.mp last] at isRecord
    | some final =>
        refine ⟨number, ?_, final.position,
          by rw [frontier, lastPosition, last]; rfl, ?_, record,
          ⟨isRecord, by rw [position]⟩, (), ?_, rfl⟩
        · rw [← position, valid.own record isRecord]
        · rw [← position]
          exact valid.position_le_last isRecord last
        · exact (checkSnapshotBacking_ok_iff table (within record isRecord) position
            number _).mpr ⟨image, counts, same⟩

/-! ## The state of a page -/

/-- How the store stands to the last image that counts. -/
def restartStateOf : Option RestartRequiredPageImage → Option U64 → RestartPageState
  | none, _ => .noRequiredImage
  | some required, none => .storeMissing required
  | some required, some storedPosition =>
      if storedPosition = required.pagePosition then .storeCurrent required storedPosition
      else .storeBehind storedPosition required

theorem Backed.le_required (valid : ValidPrefix lineage observations)
    {snapshot : StoredPageSnapshotObservation width}
    (backed : Backed whole observations pageNumber snapshot) :
    ∃ required, requiredImage whole observations pageNumber = some required ∧
      snapshot.requiredPosition.get ≤ required.pagePosition := by
  rcases backed with ⟨image, among, same⟩
  have ordered :
      (requirements whole observations pageNumber).Pairwise fun earlier later =>
      earlier.1.position.get < later.1.position.get :=
        requirements_ordered valid pageNumber
  have here : image.1.position.get = snapshot.requiredPosition.get := by
    rw [same]
    rfl
  cases last : (requirements whole observations pageNumber).getLast? with
  | none => simp [List.getLast?_eq_none_iff.mp last] at among
  | some final =>
      have isFinal := requirements_position (List.mem_of_getLast? last)
      refine ⟨final.2, by rw [requiredImage, last]; rfl, ?_⟩
      rw [← here, isFinal]
      rcases List.getLast?_eq_some_iff.mp last with ⟨front, split⟩
      rw [split] at among ordered
      rcases List.mem_append.mp among with before | isLast
      · exact ((List.pairwise_append.mp ordered).2.2 image before final
          List.mem_cons_self).le
      · rw [List.mem_singleton.mp isLast]

theorem restartPageState_ok_iff {required : Option RestartRequiredPageImage}
    {storedPosition : Option U64} {state : RestartPageState}
    (bounded : ∀ stored ∈ storedPosition, ∃ image, required = some image ∧
      stored ≤ image.pagePosition) :
    restartPageState pageNumber required storedPosition = .ok state ↔
      state = restartStateOf required storedPosition := by
  cases storedPosition with
  | none =>
      cases required <;> simp [restartPageState, restartStateOf, pure,
        Except.pure, eq_comm]
  | some stored =>
      rcases bounded stored rfl with ⟨image, rfl, below⟩
      simp only [restartPageState, restartStateOf]
      by_cases current : stored = image.pagePosition
      · rw [if_pos current, if_pos current, Except.pure_ok_iff, eq_comm]
      · rw [if_neg current, if_neg current, if_pos (lt_of_le_of_ne below current),
          Except.pure_ok_iff, eq_comm]

/-- The store shows nothing of the page, or an image that counts. -/
def StoreShows (whole observations : List (DurableTransactionRestartObservation width))
    (pageNumber : PageNumber)
    (snapshot : Option (StoredPageSnapshotObservation width)) : Prop :=
  ∀ stored ∈ snapshot, Backed whole observations pageNumber stored

theorem analyzeRestartPage_ok_iff {analysis : RestartAnalysis}
    (table : TableOf whole analysis.transactions)
    (within : ∀ record ∈ observations, record ∈ whole)
    (valid : ValidPrefix lineage observations)
    (frontier : analysis.durableFrontier = lastPosition observations)
    {observePage : ObservePage width StoreError} {entry : RestartPageEntry} :
    analyzeRestartPage lineage analysis observations observePage pageNumber = .ok entry ↔
      ∃ snapshot, observePage pageNumber = .ok snapshot ∧
        StoreShows whole observations pageNumber snapshot ∧
        entry = ⟨pageNumber, restartStateOf (requiredImage whole observations pageNumber)
          (snapshot.map (·.requiredPosition.get))⟩ := by
  simp only [analyzeRestartPage, latestRequiredRestartPageImage_ok table within,
    Except.bind_ok_iff, Except.mapError_ok_iff, Except.ok.injEq, exists_eq_left']
  refine exists_congr fun snapshot => and_congr_right fun _ => ?_
  cases snapshot with
  | none =>
      have bounded : ∀ stored ∈ (none : Option U64), ∃ image,
          requiredImage whole observations pageNumber = some image ∧
            stored ≤ image.pagePosition := by simp
      simp only [Except.bind_ok_iff, Except.mapError_ok_iff, Except.pure_ok_iff,
        exists_eq_left', restartPageState_ok_iff bounded, exists_eq_left, StoreShows,
        Option.not_mem_none, false_implies, implies_true, true_and, Option.map_none]
      exact eq_comm
  | some snapshot =>
      have shows : StoreShows whole observations pageNumber (some snapshot) ↔
          Backed whole observations pageNumber snapshot := by simp [StoreShows]
      simp only [shows, Except.bind_ok_iff, Except.mapError_ok_iff, Except.map_ok_iff,
        validateRestartPageSnapshot_ok_iff table within valid frontier, Option.map_some,
        Except.pure_ok_iff]
      constructor
      · intro analyzed
        rcases analyzed with ⟨_, ⟨_, ⟨backed, rfl⟩, rfl⟩, state, isState, rfl⟩
        rw [restartPageState_ok_iff (by simpa using backed.le_required valid)] at isState
        exact ⟨backed, by rw [isState]⟩
      · intro holds
        rcases holds with ⟨backed, rfl⟩
        exact ⟨_, ⟨_, ⟨backed, rfl⟩, rfl⟩, _,
          (restartPageState_ok_iff (by simpa using backed.le_required valid)).mpr rfl,
            rfl⟩

end Ntsql.Transaction
