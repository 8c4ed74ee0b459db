import Ntsql.Transaction.CommittedReconciliation

/-! # Durable prefixes

The records of a durable log prefix, what makes one valid, and the projections
that recovery is given of it. -/

namespace Ntsql.Transaction

variable {width : Nat}

inductive DurableTransactionRestartObservation (width : Nat) where
  | page (observation : DurablePageWalObservation width)
  | transactionPage (observation : DurableTransactionPageObservation width)
  | commit (observation : DurableTransactionCommitObservation)
deriving DecidableEq

namespace DurableTransactionRestartObservation

def position : DurableTransactionRestartObservation width → LogSequenceNumber
  | .page observation => observation.position
  | .transactionPage observation => observation.position
  | .commit observation => observation.position

def owner : DurableTransactionRestartObservation width →
    Option DurableTransactionIdentityObservation
  | .page _ => none
  | .transactionPage observation => some observation.owner
  | .commit observation => some observation.transaction

def pageImage : DurableTransactionRestartObservation width →
    Option (DurablePageWalObservation width)
  | .page observation => some observation
  | .transactionPage observation => some observation.page
  | .commit _ => none

def ownedPage : DurableTransactionRestartObservation width →
    Option (DurableTransactionPageObservation width)
  | .transactionPage observation => some observation
  | _ => none

def commitRecord : DurableTransactionRestartObservation width →
    Option DurableTransactionCommitObservation
  | .commit observation => some observation
  | _ => none

end DurableTransactionRestartObservation

/-! ## Projections -/

def physicalPages (records : List (DurableTransactionRestartObservation width))
    (pageNumber : PageNumber) : List (DurablePageWalObservation width) :=
  (records.filterMap (·.pageImage)).filter fun page => page.pageNumber = pageNumber

def ownedPages (records : List (DurableTransactionRestartObservation width))
    (pageNumber : PageNumber) : List (DurableTransactionPageObservation width) :=
  (records.filterMap (·.ownedPage)).filter fun owned => owned.page.pageNumber = pageNumber

def commitRecords (records : List (DurableTransactionRestartObservation width)) :
    List DurableTransactionCommitObservation :=
  records.filterMap (·.commitRecord)

/-- The pages transactions own in a prefix: sorted, then deduplicated. -/
def transactionPageNumbers (records : List (DurableTransactionRestartObservation width)) :
    List PageNumber :=
  (((records.filterMap (·.ownedPage)).map (·.page.pageNumber)).mergeSort
    fun left right => left.get ≤ right.get).dedup

/-! ## Valid prefixes -/

/-- The records are of one lineage and in increasing order, and no record of a
transaction follows its commit. -/
structure ValidPrefix (lineage : LogLineage)
    (records : List (DurableTransactionRestartObservation width)) : Prop where
  own : ∀ record ∈ records, record.position.lineage = lineage
  ordered :
    records.Pairwise fun earlier later => earlier.position.get < later.position.get
  final : records.Pairwise fun earlier later =>
    ∀ commit ∈ earlier.commitRecord, later.owner ≠ some commit.transaction

section Projections

variable {lineage : LogLineage}
  {records : List (DurableTransactionRestartObservation width)}

theorem mem_ownedPages {pageNumber : PageNumber}
    {page : DurableTransactionPageObservation width} :
    page ∈ ownedPages records pageNumber ↔
      .transactionPage page ∈ records ∧ page.page.pageNumber = pageNumber := by
  simp only [ownedPages, List.mem_filter, List.mem_filterMap, decide_eq_true_eq]
  apply and_congr_left
  intro _
  constructor
  · intro found
    rcases found with ⟨record, among, isOwned⟩
    cases record with
    | transactionPage observation =>
        cases isOwned
        exact among
    | page _ => cases isOwned
    | commit _ => cases isOwned
  · intro among
    exact ⟨_, among, rfl⟩

theorem mem_physicalPages {pageNumber : PageNumber}
    {page : DurablePageWalObservation width} :
    page ∈ physicalPages records pageNumber ↔
      (∃ record ∈ records, record.pageImage = some page) ∧
        page.pageNumber = pageNumber := by
  simp only [physicalPages, List.mem_filter, List.mem_filterMap, decide_eq_true_eq]

theorem mem_commitRecords {commit : DurableTransactionCommitObservation} :
    commit ∈ commitRecords records ↔ .commit commit ∈ records := by
  simp only [commitRecords, List.mem_filterMap]
  constructor
  · intro found
    rcases found with ⟨record, among, isCommit⟩
    cases record with
    | commit observation =>
        cases isCommit
        exact among
    | page _ => cases isCommit
    | transactionPage _ => cases isCommit
  · intro among
    exact ⟨_, among, rfl⟩

theorem mem_transactionPageNumbers {pageNumber : PageNumber} :
    pageNumber ∈ transactionPageNumbers records ↔ ownedPages records pageNumber ≠ [] := by
  simp only [transactionPageNumbers, List.mem_dedup, List.mem_mergeSort, List.mem_map,
    ownedPages, ne_eq, List.filter_eq_nil_iff, decide_eq_true_eq, not_forall, not_not,
    exists_prop]

theorem sortedNumbers_increasing (numbers : List PageNumber) :
    ((numbers.mergeSort fun left right => left.get ≤ right.get).dedup).Pairwise
      fun earlier later => earlier.get < later.get := by
  have sorted : (numbers.mergeSort fun left right => left.get ≤ right.get).Pairwise
      fun left right => decide (left.get ≤ right.get) = true :=
    List.pairwise_mergeSort
      (by
        intro first second third before after
        simp only [decide_eq_true_eq] at before after ⊢
        exact before.trans after)
      (by
        intro left right
        simpa using le_total left.get right.get) _
  have distinct :=
    List.nodup_dedup (numbers.mergeSort fun left right => left.get ≤ right.get)
  apply ((sorted.sublist (List.dedup_sublist _)).and distinct).imp
  intro earlier later related
  have apart : earlier.get ≠ later.get := fun same => related.2 (NonZeroU64.ext same)
  exact lt_of_le_of_ne (by simpa using related.1) apart

theorem transactionPageNumbers_increasing :
    (transactionPageNumbers records).Pairwise fun earlier later =>
      earlier.get < later.get :=
  sortedNumbers_increasing _

theorem ValidPrefix.trichotomy (valid : ValidPrefix lineage records)
    {left right : DurableTransactionRestartObservation width} (leftAmong : left ∈ records)
    (rightAmong : right ∈ records) (apart : left ≠ right) :
    (left.position.get < right.position.get ∧
        ∀ commit ∈ left.commitRecord, right.owner ≠ some commit.transaction) ∨
      (right.position.get < left.position.get ∧
        ∀ commit ∈ right.commitRecord, left.owner ≠ some commit.transaction) := by
  rcases List.mem_iff_getElem.mp leftAmong with ⟨leftIndex, leftBound, rfl⟩
  rcases List.mem_iff_getElem.mp rightAmong with ⟨rightIndex, rightBound, rfl⟩
  have related := List.pairwise_iff_getElem.mp (valid.ordered.and valid.final)
  rcases lt_trichotomy leftIndex rightIndex with before | same | after
  · exact Or.inl (related leftIndex rightIndex leftBound rightBound before)
  · exact absurd (by simp [same]) apart
  · exact Or.inr (related rightIndex leftIndex rightBound leftBound after)

theorem ValidPrefix.commitsOrdered (valid : ValidPrefix lineage records) :
    OrderedCommits lineage (commitRecords records) where
  own commit among := valid.own _ (mem_commitRecords.mp among)
  ordered := by
    rw [commitRecords, List.pairwise_filterMap]
    apply valid.ordered.imp
    intro earlier later before first isFirst second isSecond
    cases earlier <;> cases isFirst
    cases later <;> cases isSecond
    exact before

theorem ValidPrefix.pagesOrdered (valid : ValidPrefix lineage records)
    (pageNumber : PageNumber) :
    OrderedPages lineage pageNumber (physicalPages records pageNumber) where
  number page among := (mem_physicalPages.mp among).2
  own page among := by
    rcases (mem_physicalPages.mp among).1 with ⟨record, isRecord, image⟩
    have own := valid.own record isRecord
    cases record <;> cases image <;> exact own
  ordered := by
    rw [physicalPages]
    apply List.Pairwise.filter
    rw [List.pairwise_filterMap]
    apply valid.ordered.imp
    intro earlier later before first isFirst second isSecond
    cases earlier <;> cases isFirst <;> cases later <;> cases isSecond <;> exact before

theorem ValidPrefix.ownedOrdered (valid : ValidPrefix lineage records)
    (pageNumber : PageNumber) :
    OrderedPages lineage pageNumber ((ownedPages records pageNumber).map (·.page)) where
  number := List.forall_mem_map.mpr fun _ among => (mem_ownedPages.mp among).2
  own := List.forall_mem_map.mpr fun page among => valid.own _ (mem_ownedPages.mp among).1
  ordered := by
    rw [List.pairwise_map, ownedPages]
    apply List.Pairwise.filter
    rw [List.pairwise_filterMap]
    apply valid.ordered.imp
    intro earlier later before first isFirst second isSecond
    cases earlier <;> cases isFirst
    cases later <;> cases isSecond
    exact before

theorem mem_commitPositions {commits : List DurableTransactionCommitObservation}
    {transaction : DurableTransactionIdentityObservation} {position : LogSequenceNumber} :
    position ∈ commitPositions commits transaction ↔
      ∃ commit ∈ commits, commit.transaction = transaction ∧
        commit.position = position := by
  simp only [commitPositions, List.mem_map, List.mem_filter, decide_eq_true_eq, and_assoc]

theorem ValidPrefix.commitPositions_le_one (valid : ValidPrefix lineage records)
    (transaction : DurableTransactionIdentityObservation) :
    (commitPositions (commitRecords records) transaction).length ≤ 1 := by
  have single :
      ((commitRecords records).filter fun commit => commit.transaction = transaction)
      |>.Pairwise fun _ _ => False := by
    rw [List.pairwise_filter, commitRecords, List.pairwise_filterMap]
    apply valid.final.imp
    intro earlier later isFinal first isFirst second isSecond firstOwner secondOwner
    cases earlier <;> cases isFirst
    cases later <;> cases isSecond
    simp only [decide_eq_true_eq] at firstOwner secondOwner
    exact isFinal _ rfl (congrArg some (secondOwner.trans firstOwner.symm))
  rw [commitPositions, List.length_map]
  generalize (commitRecords records).filter _ = matching at single
  cases matching with
  | nil => exact Nat.zero_le 1
  | cons first rest =>
      cases rest with
      | nil => exact le_refl 1
      | cons second rest =>
          exact absurd ((List.pairwise_cons.mp single).1 second (List.mem_cons_self ..))
            not_false

theorem ValidPrefix.settled (valid : ValidPrefix lineage records)
    {pageNumber : PageNumber} {page : DurableTransactionPageObservation width}
    (among : page ∈ ownedPages records pageNumber) :
      Settled (commitRecords records) page := by
  have atMostOne := valid.commitPositions_le_one page.owner
  cases positions : commitPositions (commitRecords records) page.owner with
  | nil => exact Or.inl positions
  | cons position rest =>
      have isLast : rest = [] := by
        rw [positions, List.length_cons] at atMostOne
        exact List.length_eq_zero_iff.mp (by omega)
      have committed : position ∈ commitPositions (commitRecords records) page.owner := by
        rw [positions]
        exact List.mem_cons_self ..
      rcases mem_commitPositions.mp committed with ⟨commit, isCommit, owner, rfl⟩
      rcases valid.trichotomy (mem_ownedPages.mp among).1 (mem_commitRecords.mp isCommit)
        (by simp) with before | after
      · exact Or.inr ⟨commit.position, by rw [positions, isLast], before.1⟩
      · exact absurd (congrArg some owner.symm) (after.2 commit rfl)

theorem ValidPrefix.consistent (valid : ValidPrefix lineage records)
    (pageNumber : PageNumber) :
    ConsistentEvidence lineage pageNumber (physicalPages records pageNumber)
      (ownedPages records pageNumber) (commitRecords records) where
  commitsOrdered := valid.commitsOrdered
  ownedOrdered := valid.ownedOrdered pageNumber
  physicalOrdered := valid.pagesOrdered pageNumber
  settled _ among := valid.settled among
  projected page among := by
    rcases mem_ownedPages.mp among with ⟨isRecord, number⟩
    exact mem_physicalPages.mpr ⟨⟨.transactionPage page, isRecord, rfl⟩, number⟩

end Projections

end Ntsql.Transaction
