import Ntsql.Domain.Identity
import Ntsql.Foundation.OrderedScan

/-! # Durable evidence of transaction-owned pages

Observed page records, commit records and stored snapshots; which owned pages
are committed, and which of them is the latest. -/

namespace Ntsql.Transaction

open OrderedScan

structure DurableTransactionIdentityObservation where
  epoch : NonZeroU64
  sequence : NonZeroU64
deriving DecidableEq

structure DurablePageWalObservation (width : Nat) where
  pageNumber : PageNumber
  pageVersion : PageVersion
  image : Bytes width
  position : LogSequenceNumber
  position_ne_zero : position.get ≠ 0
deriving DecidableEq

structure StoredPageSnapshotObservation (width : Nat) where
  pageNumber : PageNumber
  pageVersion : PageVersion
  image : Bytes width
  requiredPosition : LogSequenceNumber
  requiredPosition_ne_zero : requiredPosition.get ≠ 0
deriving DecidableEq

structure DurableTransactionPageObservation (width : Nat) where
  owner : DurableTransactionIdentityObservation
  page : DurablePageWalObservation width
deriving DecidableEq

structure DurableTransactionCommitObservation where
  transaction : DurableTransactionIdentityObservation
  position : LogSequenceNumber
  position_ne_zero : position.get ≠ 0
deriving DecidableEq

namespace DurableTransactionPageObservation

variable {width : Nat}

def position (observation : DurableTransactionPageObservation width) :
    LogSequenceNumber :=
  observation.page.position

end DurableTransactionPageObservation

/-! ## Classification -/

inductive DurableTransactionPageCommitClassification where
  | committed (pagePosition commitPosition : LogSequenceNumber)
  | uncommitted (pagePosition : LogSequenceNumber)
deriving DecidableEq

inductive DurableTransactionPageClassificationError where
  | foreignPageLineage (position : LogSequenceNumber)
  | foreignCommitLineage (position : LogSequenceNumber)
  | duplicateCommitPosition (position : LogSequenceNumber)
  | contradictoryCommitPosition (position : LogSequenceNumber)
  | nonAdvancingCommitPosition (previous actual : LogSequenceNumber)
  | duplicateMatchingCommit (transaction : DurableTransactionIdentityObservation)
      (first duplicate : LogSequenceNumber)
  | commitNotAfterPage (transaction : DurableTransactionIdentityObservation)
      (pagePosition commitPosition : LogSequenceNumber)
deriving DecidableEq

/-- One round of `scan_durable_transaction_commits`. -/
def scanCommit (expectedLineage : LogLineage)
    (matchingTransaction : Option DurableTransactionIdentityObservation) :
    Option DurableTransactionCommitObservation × Option LogSequenceNumber →
      DurableTransactionCommitObservation →
        Except DurableTransactionPageClassificationError
          (Option DurableTransactionCommitObservation × Option LogSequenceNumber)
  | (previous, matching), observation => do
      rejectIf (expectedLineage ≠ observation.position.lineage)
        (.foreignCommitLineage observation.position)
      let matching ←
        if matchingTransaction = some observation.transaction then
          match matching with
          | some first =>
              throw (.duplicateMatchingCommit observation.transaction first
                observation.position)
          | none => pure (some observation.position)
        else
          pure matching
      requireAfter (fun commit => commit.position.get) previous observation
        (fun previous =>
          if observation.transaction = previous.transaction then
            .duplicateCommitPosition observation.position
          else
            .contradictoryCommitPosition observation.position)
        (fun previous =>
          .nonAdvancingCommitPosition previous.position observation.position)
      return (some observation, matching)

def scanDurableTransactionCommits (expectedLineage : LogLineage)
    (matchingTransaction : Option DurableTransactionIdentityObservation)
    (commits : List DurableTransactionCommitObservation) :
    Except DurableTransactionPageClassificationError (Option LogSequenceNumber) :=
  OrderedScan.scan (scanCommit expectedLineage matchingTransaction) none commits

section Pages

variable {width : Nat}

def classifyDurableTransactionPage (expectedLineage : LogLineage)
    (page : DurableTransactionPageObservation width)
    (commits : List DurableTransactionCommitObservation) :
    Except DurableTransactionPageClassificationError
      DurableTransactionPageCommitClassification := do
  rejectIf (expectedLineage ≠ page.position.lineage) (.foreignPageLineage page.position)
  match ← scanDurableTransactionCommits expectedLineage (some page.owner) commits with
  | none => return .uncommitted page.position
  | some commitPosition =>
      rejectIf (commitPosition.get ≤ page.position.get)
        (.commitNotAfterPage page.owner page.position commitPosition)
      return .committed page.position commitPosition

/-! ## Selection -/

structure LatestCommittedTransactionPage (width : Nat) where
  observation : DurableTransactionPageObservation width
  commitPosition : LogSequenceNumber
deriving DecidableEq

inductive DurableTransactionPageSelection (width : Nat) where
  | noCommittedPage (pageNumber : PageNumber)
  | latestCommitted (latest : LatestCommittedTransactionPage width)
deriving DecidableEq

inductive DurableTransactionPageSelectionError where
  | commitPrefix (source : DurableTransactionPageClassificationError)
  | unexpectedOwnedPage (expected actual : PageNumber) (position : LogSequenceNumber)
  | foreignOwnedPageLineage (pageNumber : PageNumber) (position : LogSequenceNumber)
  | duplicateOwnedPagePosition (pageNumber : PageNumber) (position : LogSequenceNumber)
  | contradictoryOwnedPagePosition (pageNumber : PageNumber)
      (position : LogSequenceNumber)
  | nonAdvancingOwnedPagePosition (pageNumber : PageNumber)
      (previous actual : LogSequenceNumber)
  | pageClassification (pageNumber : PageNumber) (pagePosition : LogSequenceNumber)
      (source : DurableTransactionPageClassificationError)
deriving DecidableEq

def SameOwnedPageEvidence (left right : DurableTransactionPageObservation width) : Prop :=
  left.owner = right.owner ∧ left.page.pageVersion = right.page.pageVersion ∧
    left.page.image = right.page.image

instance (left right : DurableTransactionPageObservation width) :
    Decidable (SameOwnedPageEvidence left right) :=
  inferInstanceAs (Decidable (_ ∧ _ ∧ _))

def selectPage (expectedLineage : LogLineage) (expectedPage : PageNumber)
    (commits : List DurableTransactionCommitObservation) :
    Option (DurableTransactionPageObservation width) ×
        Option (LatestCommittedTransactionPage width) →
      DurableTransactionPageObservation width →
        Except DurableTransactionPageSelectionError
          (Option (DurableTransactionPageObservation width) ×
            Option (LatestCommittedTransactionPage width))
  | (previous, selected), observation => do
      let actualPage := observation.page.pageNumber
      rejectIf (actualPage ≠ expectedPage)
        (.unexpectedOwnedPage expectedPage actualPage observation.position)
      rejectIf (expectedLineage ≠ observation.position.lineage)
        (.foreignOwnedPageLineage actualPage observation.position)
      requireAfter (fun page => page.position.get) previous observation
        (fun previous =>
          if SameOwnedPageEvidence previous observation then
            .duplicateOwnedPagePosition actualPage observation.position
          else
            .contradictoryOwnedPagePosition actualPage observation.position)
        (fun previous =>
          .nonAdvancingOwnedPagePosition actualPage previous.position
            observation.position)
      let classification ←
        (classifyDurableTransactionPage expectedLineage observation commits).mapError
          (.pageClassification actualPage observation.position)
      match classification with
      | .committed _ commitPosition =>
          return (some observation, some ⟨observation, commitPosition⟩)
      | .uncommitted _ => return (some observation, selected)

def selectLatestCommittedTransactionPage (expectedLineage : LogLineage)
    (expectedPage : PageNumber)
    (ownedPages : List (DurableTransactionPageObservation width))
    (commits : List DurableTransactionCommitObservation) :
    Except DurableTransactionPageSelectionError
      (DurableTransactionPageSelection width) := do
  let _ ← (scanDurableTransactionCommits expectedLineage none commits).mapError
    .commitPrefix
  match ← OrderedScan.scan (selectPage expectedLineage expectedPage commits) none
    ownedPages with
  | some selected => return .latestCommitted selected
  | none => return .noCommittedPage expectedPage

end Pages

/-! ## What the commits say of an owner -/

def commitPositions (commits : List DurableTransactionCommitObservation)
    (transaction : DurableTransactionIdentityObservation) : List LogSequenceNumber :=
  (commits.filter fun commit => commit.transaction = transaction).map (·.position)

structure OrderedCommits (lineage : LogLineage)
    (commits : List DurableTransactionCommitObservation) : Prop where
  own : ∀ commit ∈ commits, commit.position.lineage = lineage
  ordered :
    commits.Pairwise fun earlier later => earlier.position.get < later.position.get

def keepMatching (matchingTransaction : Option DurableTransactionIdentityObservation)
    (matching : Option LogSequenceNumber) (commit : DurableTransactionCommitObservation) :
    Option (Option LogSequenceNumber) :=
  if matchingTransaction = some commit.transaction then
    match matching with
    | some _ => none
    | none => some (some commit.position)
  else
    some matching

instance (key : α → U64) : IsTrans α fun earlier later => key earlier < key later where
  trans _ _ _ := lt_trans

theorem scanCommit_accepts (lineage : LogLineage)
    (matchingTransaction : Option DurableTransactionIdentityObservation) :
    Accepts (fun commit => commit.position.lineage = lineage)
      (fun earlier later => earlier.position.get < later.position.get)
      (keepMatching matchingTransaction) (scanCommit lineage matchingTransaction) := by
  intro previous kept commit next
  by_cases owned : matchingTransaction = some commit.transaction
  · cases kept with
    | none =>
        simp only [scanCommit, keepMatching, Except.bind_ok_iff, rejectIf_ok_iff,
          requireAfter_ok_iff, Except.pure_ok_iff, if_pos owned, ne_eq, not_not]
        grind
    | some first =>
        simp [scanCommit, keepMatching, owned, throw, throwThe, MonadExceptOf.throw,
          Except.bind_ok_iff]
  · simp only [scanCommit, keepMatching, Except.bind_ok_iff, rejectIf_ok_iff,
      requireAfter_ok_iff, Except.pure_ok_iff, if_neg owned, ne_eq, not_not]
    grind

theorem foldlM_keepMatching_none (commits : List DurableTransactionCommitObservation)
    (kept after : Option LogSequenceNumber) :
    commits.foldlM (keepMatching none) kept = some after ↔ after = kept := by
  induction commits generalizing kept with
  | nil => simp [eq_comm]
  | cons commit commits induction => simpa [keepMatching] using induction kept

theorem foldlM_keepMatching (transaction : DurableTransactionIdentityObservation)
    (commits : List DurableTransactionCommitObservation)
    (kept after : Option LogSequenceNumber) :
    commits.foldlM (keepMatching (some transaction)) kept = some after ↔
      kept.toList ++ commitPositions commits transaction = after.toList := by
  induction commits generalizing kept with
  | nil =>
      cases kept <;> cases after <;> simp [commitPositions]
  | cons commit commits induction =>
      by_cases owned : commit.transaction = transaction
      · have positions : commitPositions (commit :: commits) transaction =
            commit.position :: commitPositions commits transaction := by
          simp [commitPositions, owned]
        rw [positions, List.foldlM_cons]
        cases kept with
        | none => simpa [keepMatching, owned] using induction (some commit.position)
        | some first => cases after <;> simp [keepMatching, owned]
      · have positions : commitPositions (commit :: commits) transaction =
            commitPositions commits transaction := by
          simp [commitPositions, owned]
        rw [positions, List.foldlM_cons]
        simpa [keepMatching, Ne.symm owned] using induction kept

theorem orderedCommits_iff (lineage : LogLineage)
    (commits : List DurableTransactionCommitObservation) :
    OrderedCommits lineage commits ↔
      (∀ commit ∈ commits, commit.position.lineage = lineage) ∧
        commits.Pairwise fun earlier later => earlier.position.get < later.position.get :=
  ⟨fun ordered => ⟨ordered.own, ordered.ordered⟩, fun holds => ⟨holds.1, holds.2⟩⟩

theorem scanDurableTransactionCommits_none_ok_iff (lineage : LogLineage)
    (commits : List DurableTransactionCommitObservation)
    (found : Option LogSequenceNumber) :
    scanDurableTransactionCommits lineage none commits = .ok found ↔
      OrderedCommits lineage commits ∧ found = none := by
  rw [scanDurableTransactionCommits, scan_ok_iff (scanCommit_accepts lineage none),
    foldlM_keepMatching_none, orderedCommits_iff, and_assoc]

theorem scanDurableTransactionCommits_some_ok_iff (lineage : LogLineage)
    (transaction : DurableTransactionIdentityObservation)
    (commits : List DurableTransactionCommitObservation)
    (found : Option LogSequenceNumber) :
    scanDurableTransactionCommits lineage (some transaction) commits = .ok found ↔
      OrderedCommits lineage commits ∧ commitPositions commits transaction =
        found.toList := by
  rw [scanDurableTransactionCommits,
    scan_ok_iff (scanCommit_accepts lineage (some transaction)), foldlM_keepMatching,
    orderedCommits_iff, and_assoc]
  simp

/-! ## What the commits say of a page -/

section Pages

variable {width : Nat}

/-- The owner has exactly one commit record, and it lies after the page. -/
def CommittedAt (commits : List DurableTransactionCommitObservation)
    (page : DurableTransactionPageObservation width)
    (commitPosition : LogSequenceNumber) : Prop :=
  commitPositions commits page.owner = [commitPosition] ∧
    page.position.get < commitPosition.get

def Uncommitted (commits : List DurableTransactionCommitObservation)
    (page : DurableTransactionPageObservation width) : Prop :=
  commitPositions commits page.owner = []

theorem classify_committed_iff (lineage : LogLineage)
    (page : DurableTransactionPageObservation width)
    (commits : List DurableTransactionCommitObservation)
    (pagePosition commitPosition : LogSequenceNumber) :
    classifyDurableTransactionPage lineage page commits =
        .ok (.committed pagePosition commitPosition) ↔
      page.position.lineage = lineage ∧ OrderedCommits lineage commits ∧
        CommittedAt commits page commitPosition ∧ pagePosition = page.position := by
  simp only [classifyDurableTransactionPage, Except.bind_ok_iff, rejectIf_ok_iff,
    scanDurableTransactionCommits_some_ok_iff, ne_eq, not_not, CommittedAt]
  constructor
  · intro classified
    rcases classified with ⟨_, own, found, ⟨ordered, positions⟩, rest⟩
    cases found with
    | none => cases rest
    | some found =>
        simp only [Except.bind_ok_iff, rejectIf_ok_iff, not_le, Except.pure_ok_iff,
          DurableTransactionPageCommitClassification.committed.injEq] at rest
        rcases rest with ⟨_, after, rfl, rfl⟩
        exact ⟨own.symm, ordered, ⟨positions, after⟩, rfl⟩
  · intro holds
    rcases holds with ⟨own, ordered, ⟨positions, after⟩, rfl⟩
    refine ⟨(), own.symm, some commitPosition, ⟨ordered, positions⟩, ?_⟩
    simp [Except.bind_ok_iff, after, pure, Except.pure]

theorem classify_uncommitted_iff (lineage : LogLineage)
    (page : DurableTransactionPageObservation width)
    (commits : List DurableTransactionCommitObservation)
    (pagePosition : LogSequenceNumber) :
    classifyDurableTransactionPage lineage page commits =
      .ok (.uncommitted pagePosition) ↔
      page.position.lineage = lineage ∧ OrderedCommits lineage commits ∧
        Uncommitted commits page ∧ pagePosition = page.position := by
  simp only [classifyDurableTransactionPage, Except.bind_ok_iff, rejectIf_ok_iff,
    scanDurableTransactionCommits_some_ok_iff, ne_eq, not_not, Uncommitted]
  constructor
  · intro classified
    rcases classified with ⟨_, own, found, ⟨ordered, positions⟩, rest⟩
    cases found with
    | none =>
        cases rest
        exact ⟨own.symm, ordered, positions, rfl⟩
    | some found =>
        simp [Except.bind_ok_iff, pure, Except.pure] at rest
  · intro holds
    rcases holds with ⟨own, ordered, positions, rfl⟩
    exact ⟨(), own.symm, none, ⟨ordered, positions⟩, rfl⟩

/-- The owner has no commit record, or exactly one and after the page. -/
def Settled (commits : List DurableTransactionCommitObservation)
    (page : DurableTransactionPageObservation width) : Prop :=
  Uncommitted commits page ∨ ∃ commitPosition, CommittedAt commits page commitPosition

theorem Uncommitted.not_committedAt {commits : List DurableTransactionCommitObservation}
    {page : DurableTransactionPageObservation width}
    (uncommitted : Uncommitted commits page)
    (commitPosition : LogSequenceNumber) : ¬CommittedAt commits page commitPosition := by
  intro committed
  exact List.cons_ne_nil _ _ (committed.1.symm.trans uncommitted)

/-! ## The latest committed page -/

structure IsLatestCommitted (commits : List DurableTransactionCommitObservation)
    (ownedPages : List (DurableTransactionPageObservation width))
    (latest : LatestCommittedTransactionPage width) : Prop where
  committed : CommittedAt commits latest.observation latest.commitPosition
  last : ∃ earlier later, ownedPages = earlier ++ latest.observation :: later ∧
    ∀ page ∈ later, ∀ commitPosition, ¬CommittedAt commits page commitPosition

def NoneCommitted (commits : List DurableTransactionCommitObservation)
    (ownedPages : List (DurableTransactionPageObservation width)) : Prop :=
  ∀ page ∈ ownedPages, ∀ commitPosition, ¬CommittedAt commits page commitPosition

theorem IsLatestCommitted.cons {commits : List DurableTransactionCommitObservation}
    {ownedPages : List (DurableTransactionPageObservation width)}
    {latest : LatestCommittedTransactionPage width}
    (isLatest : IsLatestCommitted commits ownedPages latest)
    (page : DurableTransactionPageObservation width) :
    IsLatestCommitted commits (page :: ownedPages) latest := by
  rcases isLatest.last with ⟨earlier, later, split, none⟩
  exact ⟨isLatest.committed, page :: earlier, later,
    by rw [split, List.cons_append], none⟩

theorem not_isLatestCommitted_nil (commits : List DurableTransactionCommitObservation)
    (latest : LatestCommittedTransactionPage width) :
      ¬IsLatestCommitted commits [] latest := by
  intro isLatest
  rcases isLatest.last with ⟨earlier, later, split, _⟩
  simp at split

theorem isLatestCommitted_cons_iff {commits : List DurableTransactionCommitObservation}
    {page : DurableTransactionPageObservation width}
    {ownedPages : List (DurableTransactionPageObservation width)}
    {latest : LatestCommittedTransactionPage width} :
    IsLatestCommitted commits (page :: ownedPages) latest ↔
      IsLatestCommitted commits ownedPages latest ∨
        (latest.observation = page ∧ CommittedAt commits page latest.commitPosition ∧
          NoneCommitted commits ownedPages) := by
  constructor
  · intro isLatest
    rcases isLatest.last with ⟨earlier, later, split, none⟩
    cases earlier with
    | nil =>
        rcases List.cons.inj split with ⟨same, rest⟩
        have committed := isLatest.committed
        rw [← same] at committed
        rw [← rest] at none
        exact Or.inr ⟨same.symm, committed, none⟩
    | cons first earlier =>
        exact Or.inl ⟨isLatest.committed, earlier, later, (List.cons.inj split).2, none⟩
  · intro holds
    rcases holds with isLatest | ⟨same, committed, none⟩
    · exact isLatest.cons page
    · rw [← same] at committed
      exact ⟨committed, [], ownedPages, by rw [same, List.nil_append], none⟩

def keepCommitted (commits : List DurableTransactionCommitObservation)
    (selected : Option (LatestCommittedTransactionPage width))
    (page : DurableTransactionPageObservation width) :
    Option (Option (LatestCommittedTransactionPage width)) :=
  match commitPositions commits page.owner with
  | [] => some selected
  | [commitPosition] =>
      if page.position.get < commitPosition.get then
        some (some ⟨page, commitPosition⟩)
      else
        none
  | _ => none

theorem keepCommitted_some_iff {commits : List DurableTransactionCommitObservation}
    {selected after : Option (LatestCommittedTransactionPage width)}
    {page : DurableTransactionPageObservation width} :
    keepCommitted commits selected page = some after ↔
      (Uncommitted commits page ∧ after = selected) ∨
        ∃ commitPosition, CommittedAt commits page commitPosition ∧
          after = some ⟨page, commitPosition⟩ := by
  simp only [keepCommitted, Uncommitted, CommittedAt]
  cases positions : commitPositions commits page.owner with
  | nil => simp [eq_comm]
  | cons commitPosition rest =>
      cases rest with
      | nil =>
          simp only [reduceCtorEq, false_and, false_or, List.cons.injEq, and_true]
          split <;> simp_all [eq_comm]
      | cons _ _ => simp

theorem foldlM_keepCommitted (commits : List DurableTransactionCommitObservation)
    (ownedPages : List (DurableTransactionPageObservation width))
    (selected after : Option (LatestCommittedTransactionPage width)) :
    ownedPages.foldlM (keepCommitted commits) selected = some after ↔
      (∀ page ∈ ownedPages, Settled commits page) ∧
        ((NoneCommitted commits ownedPages ∧ after = selected) ∨
          ∃ latest, IsLatestCommitted commits ownedPages latest ∧
            after = some latest) := by
  induction ownedPages generalizing selected with
  | nil => simp [NoneCommitted, eq_comm, not_isLatestCommitted_nil]
  | cons page ownedPages induction =>
      simp only [List.foldlM_cons, Option.bind_eq_bind, Option.bind_eq_some_iff,
        keepCommitted_some_iff, induction, List.forall_mem_cons]
      constructor
      · intro folded
        rcases folded with ⟨middle, kept, settled, result⟩
        rcases kept with ⟨uncommitted, rfl⟩ | ⟨commitPosition, committed, rfl⟩
        · have first : Settled commits page := Or.inl uncommitted
          rcases result with ⟨none, rfl⟩ | ⟨latest, isLatest, rfl⟩
          · have none := List.forall_mem_cons.mpr ⟨uncommitted.not_committedAt, none⟩
            exact ⟨⟨first, settled⟩, Or.inl ⟨none, rfl⟩⟩
          · exact ⟨⟨first, settled⟩, Or.inr ⟨latest, isLatest.cons page, rfl⟩⟩
        · have first : Settled commits page := Or.inr ⟨commitPosition, committed⟩
          rcases result with ⟨none, rfl⟩ | ⟨latest, isLatest, rfl⟩
          · have isLatest :
                IsLatestCommitted commits (page :: ownedPages) ⟨page, commitPosition⟩ :=
              isLatestCommitted_cons_iff.mpr (Or.inr ⟨rfl, committed, none⟩)
            exact ⟨⟨first, settled⟩, Or.inr ⟨_, isLatest, rfl⟩⟩
          · exact ⟨⟨first, settled⟩, Or.inr ⟨latest, isLatest.cons page, rfl⟩⟩
      · intro holds
        rcases holds with ⟨⟨first, settled⟩, result⟩
        -- What follows decides, unless nothing committed follows.
        rcases result with ⟨none, rfl⟩ | ⟨latest, isLatest, rfl⟩
        · rcases List.forall_mem_cons.mp none with ⟨notFirst, none⟩
          have uncommitted := first.resolve_right (not_exists.mpr notFirst)
          exact ⟨after, Or.inl ⟨uncommitted, rfl⟩, settled, Or.inl ⟨none, rfl⟩⟩
        · rcases isLatestCommitted_cons_iff.mp isLatest with
            isLatest | ⟨rfl, committed, none⟩
          · rcases first with uncommitted | ⟨commitPosition, committed⟩
            · exact ⟨_, Or.inl ⟨uncommitted, rfl⟩, settled,
                Or.inr ⟨latest, isLatest, rfl⟩⟩
            · exact ⟨_, Or.inr ⟨commitPosition, committed, rfl⟩, settled,
                Or.inr ⟨latest, isLatest, rfl⟩⟩
          · exact ⟨_, Or.inr ⟨_, committed, rfl⟩, settled, Or.inl ⟨none, rfl⟩⟩

/-- The owned pages are of one page and one lineage, and in increasing order. -/
structure OrderedPages (lineage : LogLineage) (pageNumber : PageNumber)
    (pages : List (DurablePageWalObservation width)) : Prop where
  number : ∀ page ∈ pages, page.pageNumber = pageNumber
  own : ∀ page ∈ pages, page.position.lineage = lineage
  ordered : pages.Pairwise fun earlier later => earlier.position.get < later.position.get

theorem orderedPages_iff (lineage : LogLineage) (pageNumber : PageNumber)
    (pages : List (DurablePageWalObservation width)) :
    OrderedPages lineage pageNumber pages ↔
      (∀ page ∈ pages, page.pageNumber = pageNumber) ∧
        (∀ page ∈ pages, page.position.lineage = lineage) ∧
        pages.Pairwise fun earlier later => earlier.position.get < later.position.get :=
  ⟨fun ordered => ⟨ordered.number, ordered.own, ordered.ordered⟩,
    fun holds => ⟨holds.1, holds.2.1, holds.2.2⟩⟩

theorem selectPage_accepts (lineage : LogLineage) (pageNumber : PageNumber)
    {commits : List DurableTransactionCommitObservation}
    (ordered : OrderedCommits lineage commits) :
    Accepts (fun page : DurableTransactionPageObservation width =>
        page.page.pageNumber = pageNumber ∧ page.position.lineage = lineage)
      (fun earlier later => earlier.position.get < later.position.get)
      (keepCommitted commits) (selectPage lineage pageNumber commits) := by
  intro previous selected page next
  simp only [selectPage, Except.bind_ok_iff, rejectIf_ok_iff, requireAfter_ok_iff,
    Except.mapError_ok_iff, keepCommitted_some_iff, ne_eq, not_not]
  constructor
  · intro selects
    rcases selects with
      ⟨_, number, _, own, _, follows, classification, classified, result⟩
    cases classification with
    | committed pagePosition commitPosition =>
        have committed := ((classify_committed_iff _ _ _ _ _).mp classified).2.2.1
        exact ⟨⟨number, own.symm⟩, follows, _, Or.inr ⟨commitPosition, committed, rfl⟩,
          (Except.pure_ok_iff.mp result).symm⟩
    | uncommitted pagePosition =>
        have uncommitted := ((classify_uncommitted_iff _ _ _ _).mp classified).2.2.1
        exact ⟨⟨number, own.symm⟩, follows, _, Or.inl ⟨uncommitted, rfl⟩,
          (Except.pure_ok_iff.mp result).symm⟩
  · intro holds
    rcases holds with ⟨⟨number, own⟩, follows, after, kept, rfl⟩
    rcases kept with ⟨uncommitted, rfl⟩ | ⟨commitPosition, committed, rfl⟩
    · have classified := (classify_uncommitted_iff lineage page commits page.position).mpr
        ⟨own, ordered, uncommitted, rfl⟩
      exact ⟨(), number, (), own.symm, (), follows, _, classified, rfl⟩
    · have classified := (classify_committed_iff lineage page commits page.position
        commitPosition).mpr ⟨own, ordered, committed, rfl⟩
      exact ⟨(), number, (), own.symm, (), follows, _, classified, rfl⟩

/-- What the selection makes of the last committed page. -/
def IsSelection (commits : List DurableTransactionCommitObservation)
    (pageNumber : PageNumber)
    (ownedPages : List (DurableTransactionPageObservation width)) :
    DurableTransactionPageSelection width → Prop
  | .noCommittedPage number => number = pageNumber ∧ NoneCommitted commits ownedPages
  | .latestCommitted latest => IsLatestCommitted commits ownedPages latest

theorem selectLatestCommittedTransactionPage_ok_iff (lineage : LogLineage)
    (pageNumber : PageNumber)
    (ownedPages : List (DurableTransactionPageObservation width))
    (commits : List DurableTransactionCommitObservation)
    (selection : DurableTransactionPageSelection width) :
    selectLatestCommittedTransactionPage lineage pageNumber ownedPages commits =
      .ok selection ↔
      OrderedCommits lineage commits ∧
        OrderedPages lineage pageNumber (ownedPages.map (·.page)) ∧
        (∀ page ∈ ownedPages, Settled commits page) ∧
        IsSelection commits pageNumber ownedPages selection := by
  have pages : OrderedPages lineage pageNumber (ownedPages.map (·.page)) ↔
      (∀ page ∈ ownedPages, page.page.pageNumber = pageNumber ∧
        page.position.lineage = lineage) ∧
        ownedPages.Pairwise fun earlier later =>
          earlier.position.get < later.position.get := by
    simp only [orderedPages_iff, List.forall_mem_map, List.pairwise_map, forall_and,
      and_assoc, DurableTransactionPageObservation.position]
  rw [selectLatestCommittedTransactionPage, pages]
  simp only [Except.bind_ok_iff, Except.mapError_ok_iff,
    scanDurableTransactionCommits_none_ok_iff]
  constructor
  · intro selected
    rcases selected with ⟨_, ⟨ordered, rfl⟩, found, scanned, result⟩
    rcases (scan_ok_iff (selectPage_accepts lineage pageNumber ordered) ownedPages none
      found).mp scanned with ⟨own, increasing, folded⟩
    rcases (foldlM_keepCommitted commits ownedPages none found).mp folded with
      ⟨settled, found⟩
    refine ⟨ordered, ⟨own, increasing⟩, settled, ?_⟩
    rcases found with ⟨absent, rfl⟩ | ⟨latest, isLatest, rfl⟩
    · rw [← Except.pure_ok_iff.mp result]
      exact ⟨rfl, absent⟩
    · rw [← Except.pure_ok_iff.mp result]
      exact isLatest
  · intro holds
    rcases holds with ⟨ordered, ⟨own, increasing⟩, settled, isSelection⟩
    have scanned (found : Option (LatestCommittedTransactionPage width)) :=
      (scan_ok_iff (selectPage_accepts lineage pageNumber ordered) ownedPages
        none found).mpr
    have folded (found : Option (LatestCommittedTransactionPage width)) :=
      (foldlM_keepCommitted commits ownedPages none found).mpr
    cases selection with
    | noCommittedPage number =>
        rcases isSelection with ⟨rfl, absent⟩
        exact ⟨none, ⟨ordered, rfl⟩, none,
          scanned _ ⟨own, increasing, folded _ ⟨settled, Or.inl ⟨absent, rfl⟩⟩⟩, rfl⟩
    | latestCommitted latest =>
        exact ⟨none, ⟨ordered, rfl⟩, some latest, scanned _ ⟨own, increasing,
          folded _ ⟨settled, Or.inr ⟨latest, isSelection, rfl⟩⟩⟩, rfl⟩

end Pages

end Ntsql.Transaction
