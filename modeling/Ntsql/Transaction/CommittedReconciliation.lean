import Ntsql.Transaction.PageReconciliation

/-! # What committed-relative reconciliation decides

Reconciliation succeeds exactly on consistent evidence, and then relates the
snapshot to the last committed owned page. -/

namespace Ntsql.Transaction

open OrderedScan

variable {width : Nat}

theorem DurablePageWalObservation.ext_of_payload
    {left right : DurablePageWalObservation width}
    (number : left.pageNumber = right.pageNumber) (payload : SamePagePayload left right)
    (position : left.position = right.position) : left = right := by
  cases left
  cases right
  simp only [DurablePageWalObservation.mk.injEq]
  exact ⟨number, payload.1, payload.2, position⟩

theorem LogSequenceNumber.ext_of_own {left right : LogSequenceNumber}
    {lineage : LogLineage} (leftOwn : left.lineage = lineage)
    (rightOwn : right.lineage = lineage)
    (equal : left.get = right.get) : left = right := by
  rw [LogSequenceNumber.eq_position leftOwn, LogSequenceNumber.eq_position rightOwn,
    equal]

namespace OrderedPages

variable {lineage : LogLineage} {pageNumber : PageNumber}
  {pages : List (DurablePageWalObservation width)}

theorem eq_of_position (ordered : OrderedPages lineage pageNumber pages)
    {left right : DurablePageWalObservation width} (leftAmong : left ∈ pages)
    (rightAmong : right ∈ pages) (position : left.position.get = right.position.get) :
    left = right := by
  have distinct : (pages.map (·.position.get)).Nodup :=
    List.pairwise_map.mpr (ordered.ordered.imp ne_of_lt)
  exact List.inj_on_of_nodup_map distinct leftAmong rightAmong position

theorem mem_of_payload (ordered : OrderedPages lineage pageNumber pages)
    {physical page : DurablePageWalObservation width} (among : physical ∈ pages)
    (number : page.pageNumber = pageNumber) (own : page.position.lineage = lineage)
    (position : physical.position.get = page.position.get)
    (payload : SamePagePayload physical page) : page ∈ pages := by
  have samePosition :=
    LogSequenceNumber.ext_of_own (ordered.own physical among) own position
  have sameNumber := (ordered.number physical among).trans number.symm
  rw [← DurablePageWalObservation.ext_of_payload sameNumber payload samePosition]
  exact among

end OrderedPages

/-! ## Physical reconciliation -/

/-- A record at the snapshot's position holds what the snapshot holds. -/
def AgreesWith (snapshot : Option (StoredPageSnapshotObservation width))
    (observation : DurablePageWalObservation width) : Prop :=
  ∀ stored ∈ snapshot, observation.position.get = stored.requiredPosition.get →
    SamePagePayload observation stored.record

/-- Whether a record is at the snapshot's position. -/
def atSnapshot (snapshot : Option (StoredPageSnapshotObservation width))
    (observation : DurablePageWalObservation width) : Bool :=
  snapshot.any fun stored => observation.position.get = stored.requiredPosition.get

theorem backSnapshot_ok_iff (pageNumber : PageNumber)
    (snapshot : Option (StoredPageSnapshotObservation width))
    (observation : DurablePageWalObservation width) (backed after : Bool) :
    backSnapshot pageNumber snapshot observation backed = .ok after ↔
      AgreesWith snapshot observation ∧
        after = (backed || atSnapshot snapshot observation) := by
  cases snapshot with
  | none => simp [backSnapshot, AgreesWith, atSnapshot, eq_comm]
  | some stored =>
      by_cases same : observation.position.get = stored.requiredPosition.get
      · simp only [backSnapshot, AgreesWith, atSnapshot, same, if_true,
          Except.bind_ok_iff, rejectIf_ok_iff, not_not, Except.pure_ok_iff, exists_const,
          Option.mem_def, Option.some.injEq, forall_eq', true_implies, Option.any_some,
          decide_true, Bool.or_true, @eq_comm _ true]
      · simp [backSnapshot, AgreesWith, atSnapshot, same, eq_comm]

/-- What the physical scan keeps of a record it accepts. -/
def advancePhysical (snapshot : Option (StoredPageSnapshotObservation width))
    (kept : PhysicalScan)
    (observation : DurablePageWalObservation width) : PhysicalScan where
  latestPosition := some observation.position.get
  snapshotBacked := kept.snapshotBacked || atSnapshot snapshot observation

theorem foldl_advancePhysical_snapshotBacked
    (snapshot : Option (StoredPageSnapshotObservation width))
    (observations : List (DurablePageWalObservation width)) (kept : PhysicalScan) :
    (observations.foldl (advancePhysical snapshot) kept).snapshotBacked =
      (kept.snapshotBacked || observations.any (atSnapshot snapshot)) := by
  induction observations generalizing kept with
  | nil => simp
  | cons observation observations induction =>
      simp [induction, advancePhysical, Bool.or_assoc]

theorem foldl_advancePhysical_latestPosition
    (snapshot : Option (StoredPageSnapshotObservation width))
    (observations : List (DurablePageWalObservation width)) (kept : PhysicalScan) :
    (observations.foldl (advancePhysical snapshot) kept).latestPosition =
      (observations.getLast?.map (·.position.get)).or kept.latestPosition := by
  induction observations generalizing kept with
  | nil => simp
  | cons observation observations induction =>
      rw [List.foldl_cons, induction]
      cases observations with
      | nil => simp [advancePhysical]
      | cons next observations => simp [List.getLast?_cons]

/-- What the physical scan keeps, if it accepts the record. -/
def keepPhysical (pageNumber : PageNumber)
    (snapshot : Option (StoredPageSnapshotObservation width)) (kept : PhysicalScan)
    (observation : DurablePageWalObservation width) : Option PhysicalScan :=
  (backSnapshot pageNumber snapshot observation kept.snapshotBacked).toOption.map
    (PhysicalScan.mk (some observation.position.get))

theorem keepPhysical_some_iff {pageNumber : PageNumber}
    {snapshot : Option (StoredPageSnapshotObservation width)} (kept : PhysicalScan)
    (observation : DurablePageWalObservation width) (after : PhysicalScan) :
    keepPhysical pageNumber snapshot kept observation = some after ↔
      AgreesWith snapshot observation ∧
        after = advancePhysical snapshot kept observation := by
  have backed := backSnapshot_ok_iff pageNumber snapshot observation kept.snapshotBacked
  rw [keepPhysical]
  cases result : backSnapshot pageNumber snapshot observation kept.snapshotBacked with
  | error error =>
      have refused : ¬AgreesWith snapshot observation := by
        intro agrees
        have accepted := (backed _).mpr ⟨agrees, rfl⟩
        rw [result] at accepted
        cases accepted
      simp [Except.toOption, refused]
  | ok value =>
      rcases (backed value).mp result with ⟨agrees, rfl⟩
      simp [Except.toOption, agrees, advancePhysical, eq_comm]

theorem scanPhysicalPage_accepts (lineage : LogLineage) (pageNumber : PageNumber)
    (snapshot : Option (StoredPageSnapshotObservation width)) :
    Accepts (fun page => page.pageNumber = pageNumber ∧ page.position.lineage = lineage)
      (fun earlier later => earlier.position.get < later.position.get)
      (keepPhysical pageNumber snapshot)
      (scanPhysicalPage lineage pageNumber snapshot) := by
  intro previous kept page next
  simp only [scanPhysicalPage, Except.bind_ok_iff, rejectIf_ok_iff, requireAfter_ok_iff,
    Except.pure_ok_iff, keepPhysical_some_iff, backSnapshot_ok_iff, ne_eq, not_not,
    advancePhysical]
  constructor
  · intro scanned
    rcases scanned with ⟨_, number, _, own, _, follows, _, ⟨agrees, rfl⟩, rfl⟩
    exact ⟨⟨number, own.symm⟩, follows, _, ⟨agrees, rfl⟩, rfl⟩
  · intro holds
    rcases holds with ⟨⟨number, own⟩, follows, _, ⟨agrees, rfl⟩, rfl⟩
    exact ⟨(), number, (), own.symm, (), follows, _, ⟨agrees, rfl⟩, rfl⟩

theorem checkSnapshotIdentity_ok_iff (lineage : LogLineage) (pageNumber : PageNumber)
    (snapshot : Option (StoredPageSnapshotObservation width)) (value : Unit) :
    checkSnapshotIdentity lineage pageNumber snapshot = .ok value ↔
      ∀ stored ∈ snapshot, stored.pageNumber = pageNumber ∧
        stored.requiredPosition.lineage = lineage := by
  cases snapshot with
  | none => simp [checkSnapshotIdentity]
  | some stored =>
      simp [checkSnapshotIdentity, Except.bind_ok_iff, @eq_comm _ lineage]

theorem any_atSnapshot_iff (stored : StoredPageSnapshotObservation width)
    (observations : List (DurablePageWalObservation width)) :
    observations.any (atSnapshot (some stored)) = true ↔
      ∃ observation ∈ observations,
        observation.position.get = stored.requiredPosition.get := by
  simp [atSnapshot]

theorem OrderedPages.agreesWith_of_mem {lineage : LogLineage} {pageNumber : PageNumber}
    {pages : List (DurablePageWalObservation width)}
    (ordered : OrderedPages lineage pageNumber pages)
    {snapshot : Option (StoredPageSnapshotObservation width)}
    (backed : ∀ stored ∈ snapshot, stored.record ∈ pages)
    {page : DurablePageWalObservation width} (among : page ∈ pages) :
      AgreesWith snapshot page := by
  intro stored isSnapshot position
  rw [ordered.eq_of_position among (backed stored isSnapshot) position]
  exact ⟨rfl, rfl⟩

theorem reconcileDurablePage_succeeds_iff (lineage : LogLineage) (pageNumber : PageNumber)
    (snapshot : Option (StoredPageSnapshotObservation width))
    (walObservations : List (DurablePageWalObservation width)) :
    (∃ result, reconcileDurablePage lineage pageNumber snapshot walObservations =
      .ok result) ↔
      OrderedPages lineage pageNumber walObservations ∧
        ∀ stored ∈ snapshot, stored.record ∈ walObservations := by
  have scanned := scan_ok_iff (scanPhysicalPage_accepts lineage pageNumber snapshot)
    walObservations ⟨none, false⟩
  simp only [foldlM_some_iff_forall keepPhysical_some_iff] at scanned
  simp only [reconcileDurablePage, Except.bind_ok_iff, checkSnapshotIdentity_ok_iff,
    scanned]
  constructor
  · intro reconciled
    rcases reconciled with
      ⟨result, _, identity, kept, ⟨own, increasing, agrees, rfl⟩, outcome⟩
    have ordered : OrderedPages lineage pageNumber walObservations :=
      ⟨fun page among => (own page among).1, fun page among =>
        (own page among).2, increasing⟩
    refine ⟨ordered, ?_⟩
    intro stored isSnapshot
    have isSnapshot : snapshot = some stored := isSnapshot
    subst isSnapshot
    have backed : walObservations.any (atSnapshot (some stored)) = true := by
      cases latest : walObservations.getLast? with
      | none => simp [foldl_advancePhysical_latestPosition, latest, throw, throwThe,
          MonadExceptOf.throw] at outcome
      | some last =>
          simp [foldl_advancePhysical_latestPosition,
            foldl_advancePhysical_snapshotBacked, latest, Except.bind_ok_iff] at outcome
          simpa using outcome.1
    rcases (any_atSnapshot_iff stored walObservations).mp backed with
      ⟨page, among, position⟩
    rcases identity stored rfl with ⟨number, storedOwn⟩
    have payload := agrees page among stored rfl position
    exact ordered.mem_of_payload among number storedOwn position payload
  · intro holds
    rcases holds with ⟨ordered, backed⟩
    have accepted : ∀ page ∈ walObservations,
        page.pageNumber = pageNumber ∧ page.position.lineage = lineage :=
      fun page among => ⟨ordered.number page among, ordered.own page among⟩
    have identity : ∀ stored ∈ snapshot, stored.pageNumber = pageNumber ∧
        stored.requiredPosition.lineage = lineage :=
      fun stored isSnapshot => accepted stored.record (backed stored isSnapshot)
    have agrees : ∀ page ∈ walObservations, AgreesWith snapshot page :=
      fun _ among => ordered.agreesWith_of_mem backed among
    cases snapshot with
    | none =>
        cases latest : walObservations.getLast? with
        | none =>
            refine ⟨.noDurableState, (), identity, _,
              ⟨accepted, ordered.ordered, agrees, rfl⟩, ?_⟩
            simp [foldl_advancePhysical_latestPosition, latest, pure, Except.pure]
        | some last =>
            refine ⟨.storeMissing (lineage.position last.position.get), (), identity, _,
              ⟨accepted, ordered.ordered, agrees, rfl⟩, ?_⟩
            simp [foldl_advancePhysical_latestPosition, latest, pure, Except.pure]
    | some stored =>
        have among := backed stored rfl
        have found :=
          (any_atSnapshot_iff stored walObservations).mpr ⟨stored.record, among, rfl⟩
        cases latest : walObservations.getLast? with
        | none =>
            rw [List.getLast?_eq_none_iff.mp latest] at among
            cases among
        | some last =>
            by_cases current : stored.requiredPosition.get = last.position.get
            · refine ⟨.exactCurrent (lineage.position last.position.get), (), identity, _,
                ⟨accepted, ordered.ordered, agrees, rfl⟩, ?_⟩
              simp [foldl_advancePhysical_latestPosition,
                foldl_advancePhysical_snapshotBacked, latest, found, current,
                Except.bind_ok_iff, pure, Except.pure]
            · refine ⟨.storeBehind stored.requiredPosition
                (lineage.position last.position.get), (),
                identity, _, ⟨accepted, ordered.ordered, agrees, rfl⟩, ?_⟩
              simp [foldl_advancePhysical_latestPosition,
                foldl_advancePhysical_snapshotBacked, latest, found, current,
                Except.bind_ok_iff, pure, Except.pure]

/-! ## Projections -/

theorem OrderedPages.filter {lineage : LogLineage} {pageNumber : PageNumber}
    {pages : List (DurablePageWalObservation width)}
    (ordered : OrderedPages lineage pageNumber pages)
    (keep : DurablePageWalObservation width → Bool) :
    OrderedPages lineage pageNumber (pages.filter keep) where
  number page among := ordered.number page (List.mem_of_mem_filter among)
  own page among := ordered.own page (List.mem_of_mem_filter among)
  ordered := ordered.ordered.filter keep

theorem OrderedPages.tail {lineage : LogLineage} {pageNumber : PageNumber}
    {page : DurablePageWalObservation width}
    {pages : List (DurablePageWalObservation width)}
    (ordered : OrderedPages lineage pageNumber (page :: pages)) :
    OrderedPages lineage pageNumber pages where
  number other among := ordered.number other (List.mem_cons_of_mem page among)
  own other among := ordered.own other (List.mem_cons_of_mem page among)
  ordered := ordered.ordered.of_cons

theorem validateOwnedPhysicalPageProjections_ok_iff {lineage : LogLineage}
    {pageNumber : PageNumber} {physicalPages : List (DurablePageWalObservation width)}
    (physical : OrderedPages lineage pageNumber physicalPages)
    {ownedPages : List (DurableTransactionPageObservation width)}
    (owned : OrderedPages lineage pageNumber (ownedPages.map (·.page))) (value : Unit) :
    validateOwnedPhysicalPageProjections pageNumber physicalPages ownedPages = .ok value ↔
      ∀ page ∈ ownedPages, page.page ∈ physicalPages := by
  induction ownedPages generalizing physicalPages with
  | nil => simp [validateOwnedPhysicalPageProjections]
  | cons page ownedPages induction =>
      have number := owned.number page.page (List.mem_cons_self ..)
      have own := owned.own page.page (List.mem_cons_self ..)
      have later : ∀ other ∈ ownedPages, page.position.get < other.position.get := by
        have above := (List.pairwise_cons.mp owned.ordered).1
        exact fun other among => above other.page (List.mem_map_of_mem among)
      -- What the pointer passes over lies before every owned page still to come.
      have remaining : ∀ other ∈ page :: ownedPages, other.page ∈ physicalPages ↔
          other.page ∈ physicalPages.dropWhile fun physical =>
            physical.position.get < page.position.get := by
        intro other among
        rw [dropWhile_eq_filter page.position.get physicalPages physical.ordered,
          List.mem_filter]
        have reached : page.position.get ≤ other.page.position.get := by
          rcases List.mem_cons.mp among with rfl | among
          · exact le_refl _
          · exact (later other among).le
        simp [reached]
      have rest : OrderedPages lineage pageNumber (physicalPages.dropWhile fun physical =>
          physical.position.get < page.position.get) := by
        rw [dropWhile_eq_filter page.position.get physicalPages physical.ordered]
        exact physical.filter _
      have notBelow : ∀ other ∈ physicalPages.dropWhile fun physical =>
          physical.position.get < page.position.get, page.position.get ≤
            other.position.get := by
        intro other among
        rw [dropWhile_eq_filter page.position.get physicalPages physical.ordered] at among
        simpa using (List.mem_filter.mp among).2
      rw [validateOwnedPhysicalPageProjections, forall₂_congr remaining,
        List.forall_mem_cons]
      generalize physicalPages.dropWhile _ = reached at rest notBelow ⊢
      cases reached with
      | nil => simp [throw, throwThe, MonadExceptOf.throw]
      | cons first reached =>
          have above := (List.pairwise_cons.mp rest.ordered).1
          have ahead : ∀ other ∈ ownedPages, first.position.get = page.position.get →
              (other.page ∈ first :: reached ↔ other.page ∈ reached) := by
            intro other among position
            have apart : other.page ≠ first := by
              intro same
              have otherPosition : other.position.get = page.position.get :=
                (congrArg (·.position.get) same).trans position
              exact absurd otherPosition (ne_of_gt (later other among))
            simp [apart]
          simp only [Except.bind_ok_iff, rejectIf_ok_iff, ne_eq, not_not]
          constructor
          · intro validated
            rcases validated with ⟨_, position, _, payload, validated⟩
            have matched := (induction rest.tail owned.tail).mp validated
            have first :=
              rest.mem_of_payload (List.mem_cons_self ..) number own position payload
            exact ⟨first, fun other among =>
              (ahead other among position).mpr (matched other among)⟩
          · intro holds
            rcases holds with ⟨among, matched⟩
            have same : page.page = first := by
              rcases List.mem_cons.mp among with same | among
              · exact same
              · have below := above page.page among
                exact absurd (notBelow first (List.mem_cons_self ..)) (not_le.mpr below)
            have position : first.position.get = page.position.get := by
              rw [← same, DurableTransactionPageObservation.position]
            have payload : SamePagePayload first page.page := by
              rw [same]
              exact ⟨rfl, rfl⟩
            have validated := (induction rest.tail owned.tail).mpr
              fun other among => (ahead other among position).mp (matched other among)
            exact ⟨(), position, (), payload, validated⟩

/-! ## Committed-relative reconciliation -/

theorem ownedPageAt_eq_some_iff {lineage : LogLineage} {pageNumber : PageNumber}
    {ownedPages : List (DurableTransactionPageObservation width)}
    (owned : OrderedPages lineage pageNumber (ownedPages.map (·.page))) (position : U64)
    (page : DurableTransactionPageObservation width) :
    ownedPageAt ownedPages position = some page ↔
      page ∈ ownedPages ∧ page.position.get = position := by
  have distinct : (ownedPages.map (·.position.get)).Nodup := by
    have increasing := List.pairwise_map.mp owned.ordered
    exact List.pairwise_map.mpr (increasing.imp ne_of_lt)
  rw [ownedPageAt]
  constructor
  · intro found
    exact ⟨List.mem_of_find?_eq_some found, by simpa using List.find?_some found⟩
  · intro holds
    rcases holds with ⟨among, rfl⟩
    cases found :
      ownedPages.find? fun owned => decide (owned.position.get = page.position.get) with
    | none =>
        have absent := List.find?_eq_none.mp found page among
        simp at absent
    | some other =>
        have otherAmong := List.mem_of_find?_eq_some found
        have otherPosition : other.position.get = page.position.get := by
          simpa using List.find?_some found
        rw [List.inj_on_of_nodup_map distinct otherAmong among otherPosition]

/-- The evidence of a page that reconciliation accepts. -/
structure ConsistentEvidence (lineage : LogLineage) (pageNumber : PageNumber)
    (physicalPages : List (DurablePageWalObservation width))
    (ownedPages : List (DurableTransactionPageObservation width))
    (commits : List DurableTransactionCommitObservation) : Prop where
  commitsOrdered : OrderedCommits lineage commits
  ownedOrdered : OrderedPages lineage pageNumber (ownedPages.map (·.page))
  physicalOrdered : OrderedPages lineage pageNumber physicalPages
  settled : ∀ page ∈ ownedPages, Settled commits page
  projected : ∀ page ∈ ownedPages, page.page ∈ physicalPages

def CommittedSnapshot (ownedPages : List (DurableTransactionPageObservation width))
    (commits : List DurableTransactionCommitObservation)
    (stored : StoredPageSnapshotObservation width) : Prop :=
  ∃ page ∈ ownedPages, page.page = stored.record ∧
    ∃ commitPosition, CommittedAt commits page commitPosition

/-- How the snapshot stands to the last committed owned page. -/
def IsReconciliation (pageNumber : PageNumber)
    (snapshot : Option (StoredPageSnapshotObservation width))
    (ownedPages : List (DurableTransactionPageObservation width))
    (commits : List DurableTransactionCommitObservation) :
    DurableCommittedTransactionPageReconciliation width → Prop
  | .noCommittedPage number =>
      number = pageNumber ∧ snapshot = none ∧ NoneCommitted commits ownedPages
  | .storeMissing latest => snapshot = none ∧ IsLatestCommitted commits ownedPages latest
  | .exactCurrent latest =>
      IsLatestCommitted commits ownedPages latest ∧
        ∃ stored, snapshot = some stored ∧ stored.record = latest.observation.page
  | .storeBehind storedPagePosition storedCommitPosition latest =>
      IsLatestCommitted commits ownedPages latest ∧
        ∃ stored, snapshot = some stored ∧ ∃ page ∈ ownedPages,
          page.page = stored.record ∧
          page.position = storedPagePosition ∧
            CommittedAt commits page storedCommitPosition ∧
          page.position.get < latest.observation.position.get

theorem noneCommitted_or_isLatestCommitted
    (commits : List DurableTransactionCommitObservation)
    (ownedPages : List (DurableTransactionPageObservation width)) :
    NoneCommitted commits ownedPages ∨ ∃ latest,
      IsLatestCommitted commits ownedPages latest := by
  induction ownedPages with
  | nil => exact Or.inl (by simp [NoneCommitted])
  | cons page ownedPages induction =>
      rcases induction with none | ⟨latest, isLatest⟩
      · by_cases committed : ∃ commitPosition, CommittedAt commits page commitPosition
        · rcases committed with ⟨commitPosition, committed⟩
          have isLatest :
              IsLatestCommitted commits (page :: ownedPages) ⟨page, commitPosition⟩ :=
            isLatestCommitted_cons_iff.mpr (Or.inr ⟨rfl, committed, none⟩)
          exact Or.inr ⟨_, isLatest⟩
        · exact Or.inl (List.forall_mem_cons.mpr ⟨not_exists.mp committed, none⟩)
      · exact Or.inr ⟨latest, isLatest.cons page⟩

namespace IsLatestCommitted

variable {lineage : LogLineage} {pageNumber : PageNumber}
  {ownedPages : List (DurableTransactionPageObservation width)}
  {commits : List DurableTransactionCommitObservation}
  {latest : LatestCommittedTransactionPage width}

theorem mem (isLatest : IsLatestCommitted commits ownedPages latest) :
    latest.observation ∈ ownedPages := by
  rcases isLatest.last with ⟨earlier, later, split, _⟩
  simp [split]

theorem position_le (isLatest : IsLatestCommitted commits ownedPages latest)
    (owned : OrderedPages lineage pageNumber (ownedPages.map (·.page)))
    {page : DurableTransactionPageObservation width} (among : page ∈ ownedPages)
    {commitPosition : LogSequenceNumber}
    (committed : CommittedAt commits page commitPosition) :
    page.position.get ≤ latest.observation.position.get := by
  rcases isLatest.last with ⟨earlier, later, split, none⟩
  have increasing := List.pairwise_map.mp owned.ordered
  rw [split] at among increasing
  have before := (List.pairwise_append.mp increasing).2.2
  rcases List.mem_append.mp among with among | among
  · exact (before page among latest.observation (List.mem_cons_self ..)).le
  · rcases List.mem_cons.mp among with rfl | among
    · exact le_refl _
    · exact absurd committed (none page among commitPosition)

end IsLatestCommitted

namespace OrderedPages

variable {lineage : LogLineage} {pageNumber : PageNumber}
  {ownedPages : List (DurableTransactionPageObservation width)}

theorem owned_eq_of_position
    (owned : OrderedPages lineage pageNumber (ownedPages.map (·.page)))
    {left right : DurableTransactionPageObservation width} (leftAmong : left ∈ ownedPages)
    (rightAmong : right ∈ ownedPages)
    (position : left.position.get = right.position.get) :
    left = right := by
  have found :=
    (ownedPageAt_eq_some_iff owned right.position.get left).mpr ⟨leftAmong, position⟩
  have other :=
    (ownedPageAt_eq_some_iff owned right.position.get right).mpr ⟨rightAmong, rfl⟩
  exact Option.some.inj (found.symm.trans other)

end OrderedPages

section Reconciliation

variable {lineage : LogLineage} {pageNumber : PageNumber}
  {snapshot : Option (StoredPageSnapshotObservation width)}
  {physicalPages : List (DurablePageWalObservation width)}
  {ownedPages : List (DurableTransactionPageObservation width)}
  {commits : List DurableTransactionCommitObservation}

theorem evidence_accepted_iff (selection : DurableTransactionPageSelection width) :
    (selectLatestCommittedTransactionPage lineage pageNumber ownedPages commits =
      .ok selection ∧
        (∃ result, reconcileDurablePage lineage pageNumber snapshot physicalPages =
          .ok result) ∧
        validateOwnedPhysicalPageProjections pageNumber physicalPages
          ownedPages = .ok ()) ↔
      ConsistentEvidence lineage pageNumber physicalPages ownedPages commits ∧
        IsSelection commits pageNumber ownedPages selection ∧
        ∀ stored ∈ snapshot, stored.record ∈ physicalPages := by
  rw [selectLatestCommittedTransactionPage_ok_iff, reconcileDurablePage_succeeds_iff]
  constructor
  · intro accepted
    rcases accepted with
      ⟨⟨ordered, owned, settled, selected⟩, ⟨physical, backed⟩, validated⟩
    have projected :=
      (validateOwnedPhysicalPageProjections_ok_iff physical owned ()).mp validated
    exact ⟨⟨ordered, owned, physical, settled, projected⟩, selected, backed⟩
  · intro holds
    rcases holds with ⟨consistent, selected, backed⟩
    have validated :=
      (validateOwnedPhysicalPageProjections_ok_iff consistent.physicalOrdered
      consistent.ownedOrdered ()).mpr consistent.projected
    exact ⟨⟨consistent.commitsOrdered, consistent.ownedOrdered,
      consistent.settled, selected⟩, ⟨consistent.physicalOrdered, backed⟩, validated⟩

theorem resolveCommittedSnapshotReconciliation_ok_iff
    (selection : DurableTransactionPageSelection width) (page commit : LogSequenceNumber)
    (reconciliation : DurableCommittedTransactionPageReconciliation width) :
    resolveCommittedSnapshotReconciliation pageNumber selection page commit =
        .ok reconciliation ↔
      ∃ latest, selection = .latestCommitted latest ∧
        ((page.get = latest.observation.position.get ∧
          reconciliation = .exactCurrent latest) ∨
          (page.get < latest.observation.position.get ∧
            reconciliation = .storeBehind page commit latest)) := by
  cases selection with
  | noCommittedPage number => simp [resolveCommittedSnapshotReconciliation]
  | latestCommitted latest =>
      simp only [resolveCommittedSnapshotReconciliation,
        DurableTransactionPageSelection.latestCommitted.injEq, exists_eq_left']
      split
      · rename_i same
        simp [same, eq_comm]
      · rename_i apart
        split
        · rename_i below
          simp [apart, below, eq_comm]
        · rename_i above
          simp [apart, above]

/-- A snapshot the physical pages back is an owned page's when one is there. -/
theorem backing_iff
    (consistent : ConsistentEvidence lineage pageNumber physicalPages ownedPages commits)
    {stored : StoredPageSnapshotObservation width}
    (backed : stored.record ∈ physicalPages)
    (page : DurableTransactionPageObservation width) :
    ownedPageAt ownedPages stored.requiredPosition.get = some page ↔
      page ∈ ownedPages ∧ page.page = stored.record := by
  rw [ownedPageAt_eq_some_iff consistent.ownedOrdered]
  constructor
  · intro found
    rcases found with ⟨among, position⟩
    exact ⟨among,
      consistent.physicalOrdered.eq_of_position (consistent.projected page among)
      backed position⟩
  · intro holds
    rcases holds with ⟨among, same⟩
    exact ⟨among, congrArg (·.position.get) same⟩

theorem relateSnapshot_none_ok_iff {selection : DurableTransactionPageSelection width}
    (selected : IsSelection commits pageNumber ownedPages selection)
    (reconciliation : DurableCommittedTransactionPageReconciliation width) :
    relateSnapshot lineage pageNumber none ownedPages commits selection =
      .ok reconciliation ↔
      (∃ number, selection = .noCommittedPage number ∧
          reconciliation = .noCommittedPage number) ∨
        ∃ latest, selection = .latestCommitted latest ∧
          reconciliation = .storeMissing latest := by
  cases selection with
  | noCommittedPage number => simp [relateSnapshot, pure, Except.pure, eq_comm]
  | latestCommitted latest => simp [relateSnapshot, pure, Except.pure, eq_comm]

theorem relateSnapshot_some_ok_iff
    (consistent : ConsistentEvidence lineage pageNumber physicalPages ownedPages commits)
    {stored : StoredPageSnapshotObservation width}
    (backed : stored.record ∈ physicalPages)
    (selection : DurableTransactionPageSelection width)
    (reconciliation : DurableCommittedTransactionPageReconciliation width) :
    relateSnapshot lineage pageNumber (some stored) ownedPages commits selection =
        .ok reconciliation ↔
      ∃ page ∈ ownedPages, page.page = stored.record ∧
        ∃ commitPosition, CommittedAt commits page commitPosition ∧
          resolveCommittedSnapshotReconciliation pageNumber selection page.position
            commitPosition = .ok reconciliation := by
  simp only [relateSnapshot, Except.bind_ok_iff, okOr_ok_iff, Except.mapError_ok_iff,
    backing_iff consistent backed]
  constructor
  · intro related
    rcases related with ⟨page, ⟨among, same⟩, classification, classified, outcome⟩
    cases classification with
    | uncommitted pagePosition => cases outcome
    | committed pagePosition commitPosition =>
        rcases (classify_committed_iff _ _ _ _ _).mp classified with
          ⟨_, _, committed, rfl⟩
        exact ⟨page, among, same, commitPosition, committed, outcome⟩
  · intro holds
    rcases holds with ⟨page, among, same, commitPosition, committed, outcome⟩
    have own := consistent.ownedOrdered.own page.page (List.mem_map_of_mem among)
    have classified := (classify_committed_iff lineage page commits page.position
      commitPosition).mpr ⟨own, consistent.commitsOrdered, committed, rfl⟩
    exact ⟨page, ⟨among, same⟩, _, classified, outcome⟩

theorem reconcile_ok_iff_related
    (reconciliation : DurableCommittedTransactionPageReconciliation width) :
    reconcileCommittedTransactionPage lineage pageNumber snapshot physicalPages ownedPages
        commits = .ok reconciliation ↔
      ConsistentEvidence lineage pageNumber physicalPages ownedPages commits ∧
        (∀ stored ∈ snapshot, stored.record ∈ physicalPages) ∧
        ∃ selection, IsSelection commits pageNumber ownedPages selection ∧
          relateSnapshot lineage pageNumber snapshot ownedPages commits selection =
            .ok reconciliation := by
  simp only [reconcileCommittedTransactionPage, Except.bind_ok_iff,
    Except.mapError_ok_iff]
  constructor
  · intro reconciled
    rcases reconciled with ⟨selection, selected, result, physical, _, validated, related⟩
    rcases (evidence_accepted_iff selection).mp
      ⟨selected, ⟨result, physical⟩, validated⟩ with ⟨consistent, isSelection, backed⟩
    exact ⟨consistent, backed, selection, isSelection, related⟩
  · intro holds
    rcases holds with ⟨consistent, backed, selection, isSelection, related⟩
    rcases (evidence_accepted_iff selection).mpr ⟨consistent, isSelection, backed⟩ with
      ⟨selected, ⟨result, physical⟩, validated⟩
    exact ⟨selection, selected, result, physical, (), validated, related⟩

/-- Reconciliation relates the snapshot to the last committed owned page, and
accepts consistent evidence with a committed snapshot. -/
theorem reconcile_ok_iff
    (reconciliation : DurableCommittedTransactionPageReconciliation width) :
    reconcileCommittedTransactionPage lineage pageNumber snapshot physicalPages ownedPages
        commits = .ok reconciliation ↔
      ConsistentEvidence lineage pageNumber physicalPages ownedPages commits ∧
        (∀ stored ∈ snapshot, CommittedSnapshot ownedPages commits stored) ∧
        IsReconciliation pageNumber snapshot ownedPages commits reconciliation := by
  rw [reconcile_ok_iff_related]
  constructor
  · intro related
    rcases related with ⟨consistent, backed, selection, isSelection, related⟩
    cases snapshot with
    | none =>
        rcases (relateSnapshot_none_ok_iff isSelection reconciliation).mp related with
          ⟨number, rfl, rfl⟩ | ⟨latest, rfl, rfl⟩
        · exact ⟨consistent, by simp, isSelection.1, rfl, isSelection.2⟩
        · exact ⟨consistent, by simp, rfl, isSelection⟩
    | some stored =>
        rcases (relateSnapshot_some_ok_iff consistent (backed stored rfl) selection
          reconciliation).mp related with
          ⟨page, among, same, commitPosition, committed, resolved⟩
        have isCommitted :
            ∀ other ∈ some stored, CommittedSnapshot ownedPages commits other := by
          intro other isStored
          rw [← Option.some.inj isStored]
          exact ⟨page, among, same, commitPosition, committed⟩
        rcases (resolveCommittedSnapshotReconciliation_ok_iff _ _ _ _).mp resolved with
          ⟨latest, rfl, ⟨position, rfl⟩ | ⟨below, rfl⟩⟩
        · have current :=
            consistent.ownedOrdered.owned_eq_of_position among isSelection.mem position
          rw [current] at same
          exact ⟨consistent, isCommitted, isSelection, stored, rfl, same.symm⟩
        · exact ⟨consistent, isCommitted, isSelection, stored, rfl, page,
            among, same, rfl, committed, below⟩
  · intro holds
    rcases holds with ⟨consistent, isCommitted, isReconciliation⟩
    have backed : ∀ stored ∈ snapshot, stored.record ∈ physicalPages := by
      intro stored isStored
      rcases isCommitted stored isStored with ⟨page, among, same, _⟩
      rw [← same]
      exact consistent.projected page among
    cases reconciliation with
    | noCommittedPage number =>
        rcases isReconciliation with ⟨rfl, rfl, none⟩
        exact ⟨consistent, backed, .noCommittedPage number, ⟨rfl, none⟩, rfl⟩
    | storeMissing latest =>
        rcases isReconciliation with ⟨rfl, isLatest⟩
        exact ⟨consistent, backed, .latestCommitted latest, isLatest, rfl⟩
    | exactCurrent latest =>
        rcases isReconciliation with ⟨isLatest, stored, rfl, same⟩
        refine ⟨consistent, backed, .latestCommitted latest, isLatest, ?_⟩
        rw [relateSnapshot_some_ok_iff consistent (backed stored rfl)]
        refine ⟨latest.observation, isLatest.mem, same.symm, latest.commitPosition,
          isLatest.committed, ?_⟩
        rw [resolveCommittedSnapshotReconciliation_ok_iff]
        exact ⟨latest, rfl, Or.inl ⟨rfl, rfl⟩⟩
    | storeBehind storedPagePosition storedCommitPosition latest =>
        rcases isReconciliation with
          ⟨isLatest, stored, rfl, page, among, same, rfl, committed, below⟩
        refine ⟨consistent, backed, .latestCommitted latest, isLatest, ?_⟩
        rw [relateSnapshot_some_ok_iff consistent (backed stored rfl)]
        refine ⟨page, among, same, storedCommitPosition, committed, ?_⟩
        rw [resolveCommittedSnapshotReconciliation_ok_iff]
        exact ⟨latest, rfl, Or.inr ⟨below, rfl⟩⟩

theorem exists_isReconciliation
    (owned : OrderedPages lineage pageNumber (ownedPages.map (·.page)))
    (isCommitted : ∀ stored ∈ snapshot, CommittedSnapshot ownedPages commits stored) :
    ∃ reconciliation,
      IsReconciliation pageNumber snapshot ownedPages commits reconciliation := by
  cases snapshot with
  | none =>
      rcases noneCommitted_or_isLatestCommitted commits ownedPages with
        none | ⟨latest, isLatest⟩
      · exact ⟨.noCommittedPage pageNumber, rfl, rfl, none⟩
      · exact ⟨.storeMissing latest, rfl, isLatest⟩
  | some stored =>
      rcases isCommitted stored rfl with ⟨page, among, same, commitPosition, committed⟩
      rcases noneCommitted_or_isLatestCommitted commits ownedPages with
        none | ⟨latest, isLatest⟩
      · exact absurd committed (none page among commitPosition)
      · rcases (isLatest.position_le owned among committed).eq_or_lt with position | below
        · have current := owned.owned_eq_of_position among isLatest.mem position
          rw [current] at same
          exact ⟨.exactCurrent latest, isLatest, stored, rfl, same.symm⟩
        · exact ⟨.storeBehind page.position commitPosition latest, isLatest,
            stored, rfl, page, among, same, rfl, committed, below⟩

theorem reconcile_succeeds_iff :
    (∃ reconciliation, reconcileCommittedTransactionPage lineage pageNumber snapshot
      physicalPages ownedPages commits = .ok reconciliation) ↔
      ConsistentEvidence lineage pageNumber physicalPages ownedPages commits ∧
        ∀ stored ∈ snapshot, CommittedSnapshot ownedPages commits stored := by
  simp only [reconcile_ok_iff]
  constructor
  · intro reconciled
    rcases reconciled with ⟨_, consistent, isCommitted, _⟩
    exact ⟨consistent, isCommitted⟩
  · intro holds
    rcases exists_isReconciliation holds.1.ownedOrdered holds.2 with
      ⟨reconciliation, described⟩
    exact ⟨reconciliation, holds.1, holds.2, described⟩

/-! ## Errors that cannot occur -/

/-- The errors that would contradict the selection. -/
def Defensive : DurableCommittedTransactionPageReconciliationError → Prop
  | .committedSnapshotWithoutSelection .. | .committedSnapshotAfterSelection .. => True
  | _ => False

theorem validateOwnedPhysicalPageProjections_not_defensive
    {error : DurableCommittedTransactionPageReconciliationError}
    (fails : validateOwnedPhysicalPageProjections pageNumber physicalPages ownedPages =
      .error error) : ¬Defensive error := by
  induction ownedPages generalizing physicalPages with
  | nil => cases fails
  | cons page ownedPages induction =>
      rw [validateOwnedPhysicalPageProjections] at fails
      generalize physicalPages.dropWhile _ = reached at fails
      cases reached with
      | nil =>
          cases fails
          exact not_false
      | cons first reached =>
          by_cases position : first.position.get = page.position.get
          · by_cases payload : SamePagePayload first page.page
            · simp [rejectIf, position, payload, Except.ok_bind] at fails
              exact induction fails
            · simp [rejectIf, position, payload, bind, Except.bind] at fails
              rw [← fails]
              exact not_false
          · simp [rejectIf, position, bind, Except.bind] at fails
            rw [← fails]
            exact not_false

theorem relateSnapshot_not_defensive
    (consistent : ConsistentEvidence lineage pageNumber physicalPages ownedPages commits)
    {selection : DurableTransactionPageSelection width}
    (selected : IsSelection commits pageNumber ownedPages selection)
    {error : DurableCommittedTransactionPageReconciliationError}
    (fails : relateSnapshot lineage pageNumber snapshot ownedPages commits selection =
      .error error) : ¬Defensive error := by
  cases snapshot with
  | none => cases selection <;> cases fails
  | some stored =>
      simp only [relateSnapshot] at fails
      cases found : ownedPageAt ownedPages stored.requiredPosition.get with
      | none =>
          rw [found] at fails
          cases fails
          exact not_false
      | some page =>
          have among := ((ownedPageAt_eq_some_iff consistent.ownedOrdered _ _).mp found).1
          simp only [found, okOr, Except.ok_bind] at fails
          cases classified : classifyDurableTransactionPage lineage page commits with
          | error source =>
              rw [classified] at fails
              cases fails
              exact not_false
          | ok classification =>
              simp only [classified, Except.mapError, Except.ok_bind] at fails
              cases classification with
              | uncommitted pagePosition =>
                  cases fails
                  exact not_false
              | committed pagePosition commitPosition =>
                  -- The selection holds a page at or after this one.
                  rcases (classify_committed_iff _ _ _ _ _).mp classified with
                    ⟨_, _, committed, rfl⟩
                  cases selection with
                  | noCommittedPage number =>
                      exact absurd committed (selected.2 page among _)
                  | latestCommitted latest =>
                      have before :=
                        selected.position_le consistent.ownedOrdered among committed
                      simp only [resolveCommittedSnapshotReconciliation] at fails
                      split at fails
                      · cases fails
                      · rename_i apart
                        rw [if_pos (lt_of_le_of_ne before apart)] at fails
                        cases fails

theorem reconcileCommittedTransactionPage_not_defensive
    {error : DurableCommittedTransactionPageReconciliationError}
    (fails : reconcileCommittedTransactionPage lineage pageNumber snapshot physicalPages
      ownedPages commits = .error error) : ¬Defensive error := by
  simp only [reconcileCommittedTransactionPage] at fails
  cases selected :
    selectLatestCommittedTransactionPage lineage pageNumber ownedPages commits with
  | error source =>
      rw [selected] at fails
      cases fails
      exact not_false
  | ok selection =>
      simp only [selected, Except.mapError, Except.ok_bind] at fails
      cases physical : reconcileDurablePage lineage pageNumber snapshot physicalPages with
      | error source =>
          rw [physical] at fails
          cases fails
          exact not_false
      | ok result =>
          simp only [physical, Except.ok_bind] at fails
          cases validated : validateOwnedPhysicalPageProjections pageNumber physicalPages
              ownedPages with
          | error source =>
              rw [validated] at fails
              cases fails
              exact validateOwnedPhysicalPageProjections_not_defensive validated
          | ok value =>
              have accepted := (evidence_accepted_iff selection).mp
                ⟨selected, ⟨result, physical⟩, validated⟩
              simp only [validated, Except.ok_bind] at fails
              exact relateSnapshot_not_defensive accepted.1 accepted.2.1 fails

end Reconciliation

end Ntsql.Transaction
