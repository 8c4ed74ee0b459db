import Ntsql.Transaction.RequiredImage

/-! # Completeness analysis is exact

The page table has one row for each page of the records, and replay starts at the
lowest position an open transaction or a page of the store still needs. -/

namespace Ntsql.Transaction

open SortedTable

variable {width : Nat} {StoreError : Type} {lineage : LogLineage}
  {records observations : List (DurableTransactionRestartObservation width)}

/-! ## The replay start -/

/-- A position replay has to start at, or before, and why. -/
abbrev ReplayNeed := U64 × RestartReplayStartCause

def lowestNeed (needs : List ReplayNeed) : Option ReplayNeed :=
  needs.foldl (fun floor need => lowerRestartReplayStart floor need.1 need.2) none

def RestartEntry.need (entry : RestartEntry) : Option ReplayNeed :=
  match entry.state with
  | .uncommitted => entry.firstOwnedPagePosition.map fun first =>
      (first.get, .uncommittedTransaction entry.transaction)
  | .committed _ => none

def RestartPageEntry.need (entry : RestartPageEntry) : Option ReplayNeed :=
  match entry.state with
  | .storeMissing required => some (required.pagePosition, .storeMissing entry.pageNumber)
  | .storeBehind _ required => some (required.pagePosition, .storeBehind entry.pageNumber)
  | .noRequiredImage => none
  | .storeCurrent _ _ => none

/-- The first of the lowest needs. -/
structure IsLowest (need : ReplayNeed) (needs : List ReplayNeed) : Prop where
  among : need ∈ needs
  lowest : ∀ other ∈ needs, need.1 ≤ other.1

theorem foldl_lower_some (needs : List ReplayNeed) (floor : ReplayNeed) :
    ∃ need, needs.foldl (fun floor need => lowerRestartReplayStart floor need.1 need.2)
        (some floor) = some need ∧ IsLowest need (floor :: needs) := by
  induction needs generalizing floor with
  | nil => exact ⟨floor, rfl, List.mem_cons_self, by simp⟩
  | cons first needs induction =>
      by_cases below : floor.1 ≤ first.1
      · rcases induction floor with ⟨need, folded, among, lowest⟩
        refine ⟨need, ?_, ?_, ?_⟩
        · rw [List.foldl_cons, lowerRestartReplayStart]
          simpa [below] using folded
        · rcases List.mem_cons.mp among with here | later
          · exact List.mem_cons.mpr (.inl here)
          · exact List.mem_cons_of_mem _ (List.mem_cons_of_mem _ later)
        · intro other isOther
          rcases List.mem_cons.mp isOther with rfl | isOther
          · exact lowest other List.mem_cons_self
          · rcases List.mem_cons.mp isOther with rfl | later
            · exact (lowest floor List.mem_cons_self).trans below
            · exact lowest other (List.mem_cons_of_mem _ later)
      · rcases induction first with ⟨need, folded, among, lowest⟩
        refine ⟨need, ?_, List.mem_cons_of_mem _ among, ?_⟩
        · rw [List.foldl_cons, lowerRestartReplayStart]
          simpa [below] using folded
        · intro other isOther
          rcases List.mem_cons.mp isOther with rfl | isOther
          · exact (lowest first List.mem_cons_self).trans (not_le.mp below).le
          · exact lowest other isOther

theorem lowestNeed_eq_none {needs : List ReplayNeed} : lowestNeed needs = none ↔
    needs = [] := by
  cases needs with
  | nil => simp [lowestNeed]
  | cons first needs =>
      rcases foldl_lower_some needs first with ⟨need, folded, _⟩
      have lowered : lowestNeed (first :: needs) = some need := folded
      simp [lowered]

theorem lowestNeed_isLowest {needs : List ReplayNeed} {need : ReplayNeed}
    (lowered : lowestNeed needs = some need) : IsLowest need needs := by
  cases needs with
  | nil => cases lowered
  | cons first needs =>
      rcases foldl_lower_some needs first with ⟨other, folded, isLowest⟩
      have same : some other = some need := folded.symm.trans lowered
      cases same
      exact isLowest

theorem lowestNeed_append (first second : List ReplayNeed) :
    lowestNeed (first ++ second) =
      second.foldl (fun floor need => lowerRestartReplayStart floor need.1 need.2)
        (lowestNeed first) := by
  rw [lowestNeed, List.foldl_append, lowestNeed]

theorem foldlM_lower {Row ε : Type} {need : Row → Option ReplayNeed}
    {lower : Option ReplayNeed → Row → Except ε (Option ReplayNeed)} {rows : List Row}
    (lowers : ∀ row ∈ rows, ∀ floor, lower floor row = .ok
      ((need row).elim floor fun need => lowerRestartReplayStart floor need.1 need.2))
    (floor : Option ReplayNeed) :
    rows.foldlM lower floor = .ok ((rows.filterMap need).foldl
      (fun floor need => lowerRestartReplayStart floor need.1 need.2) floor) := by
  induction rows generalizing floor with
  | nil => rfl
  | cons row rows induction =>
      have rest :=
        induction fun other among => lowers other (List.mem_cons_of_mem row among)
      rw [List.foldlM_cons, lowers row List.mem_cons_self, Except.ok_bind, rest]
      cases needed : need row <;> simp [needed]

theorem foldl_page_lower (pages : List RestartPageEntry) (floor : Option ReplayNeed) :
    pages.foldl RestartPageEntry.lower floor =
      (pages.filterMap (·.need)).foldl
        (fun floor need => lowerRestartReplayStart floor need.1 need.2) floor := by
  induction pages generalizing floor with
  | nil => rfl
  | cons page pages induction =>
      rw [List.foldl_cons, induction]
      cases state : page.state <;>
        simp [RestartPageEntry.lower, RestartPageEntry.need, state]

theorem foldlM_lowerForTransaction {transactions : List RestartEntry}
    {floor : Option ReplayNeed}
    (ranged : ∀ entry ∈ transactions, entry.state = .uncommitted →
      entry.firstOwnedPagePosition ≠ none) :
    transactions.foldlM lowerForTransaction floor =
      .ok ((transactions.filterMap (·.need)).foldl
        (fun floor need => lowerRestartReplayStart floor need.1 need.2) floor) := by
  refine foldlM_lower (fun entry among floor => ?_) floor
  cases state : entry.state with
  | committed position =>
      simp [lowerForTransaction, RestartEntry.need, state, pure, Except.pure]
  | uncommitted =>
      rcases Option.ne_none_iff_exists'.mp (ranged entry among state) with
        ⟨first, isFirst⟩
      simp [lowerForTransaction, RestartEntry.need, state, isFirst, okOr, Except.ok_bind,
        pure, Except.pure]

theorem TableOf.ranged {transactions : List RestartEntry}
    (table : TableOf records transactions) :
    ∀ entry ∈ transactions, entry.state = .uncommitted →
      entry.firstOwnedPagePosition ≠ none := by
  intro entry among state first
  rcases transactionEntry_eq_some.mp ((table.found entry).mp among) with
    ⟨present, isEntry⟩
  rw [isEntry] at state first
  have uncommitted : commitPosition records entry.transaction = none := by
    have position := congrArg RestartState.commitPosition state
    rw [entryOf, commitPosition_transactionState] at position
    exact position
  exact present.elim (fun owned => owned (List.head?_eq_none_iff.mp first))
    fun committed => committed uncommitted

/-! ## The page numbers -/

theorem restartPageNumbers_increasing (selectedPages : List RestartPageEntry) :
    (restartPageNumbers selectedPages observations).Pairwise fun earlier later =>
      earlier.get < later.get :=
  sortedNumbers_increasing _

theorem mem_restartPageNumbers {selectedPages : List RestartPageEntry}
    {pageNumber : PageNumber} :
    pageNumber ∈ restartPageNumbers selectedPages observations ↔
      (∃ entry ∈ selectedPages, entry.pageNumber = pageNumber) ∨
        ∃ record ∈ observations, ∃ page, record.pageImage = some page ∧
          page.pageNumber = pageNumber := by
  simp only [restartPageNumbers, List.mem_dedup, List.mem_mergeSort, List.mem_append,
    List.mem_map, List.mem_filterMap]
  refine or_congr_right ⟨fun found => ?_, fun found => ?_⟩
  · rcases found with ⟨page, ⟨record, among, image⟩, here⟩
    exact ⟨record, among, page, image, here⟩
  · rcases found with ⟨record, among, page, image, here⟩
    exact ⟨page, ⟨record, among, image⟩, here⟩

/-! ## The analysis -/

/-- The rows of the page table: one for each page, read against the store. -/
def PagesOf (whole observations : List (DurableTransactionRestartObservation width))
    (observePage : ObservePage width StoreError) (numbers : List PageNumber)
    (pages : List RestartPageEntry) : Prop :=
  List.Forall₂
    (fun pageNumber entry => ∃ snapshot, observePage pageNumber = .ok snapshot ∧
    StoreShows whole observations pageNumber snapshot ∧
    entry = ⟨pageNumber, restartStateOf (requiredImage whole observations pageNumber)
      (snapshot.map (·.requiredPosition.get))⟩) numbers pages

/-- Positions replay has to start at, or before. -/
def RestartAnalysis.needs (analysis : RestartAnalysis) (pages : List RestartPageEntry) :
    List ReplayNeed :=
  analysis.transactions.filterMap (·.need) ++ pages.filterMap (·.need)

theorem deriveRestartCompletenessFromAnalysisEvidence_ok_iff
    {whole : List (DurableTransactionRestartObservation width)}
    {analysis : RestartAnalysis} (table : TableOf whole analysis.transactions)
    (within : ∀ record ∈ observations, record ∈ whole)
    (valid : ValidPrefix lineage observations)
    (frontier : analysis.durableFrontier = lastPosition observations)
    {selectedPages : List RestartPageEntry} {observePage : ObservePage width StoreError}
    {completeness : RestartCompletenessAnalysis} :
    deriveRestartCompletenessFromAnalysisEvidence lineage analysis observations
      selectedPages observePage = .ok completeness ↔
      PagesOf whole observations observePage
        (restartPageNumbers selectedPages observations) completeness.pages ∧
        completeness.transactionAnalysis = analysis ∧
        completeness.replayStart = replayStartOf (analysis.durableFrontier.map (·.get))
          (lowestNeed (analysis.needs completeness.pages)) := by
  simp only [deriveRestartCompletenessFromAnalysisEvidence,
    foldlM_lowerForTransaction table.ranged, Except.bind_ok_iff, Except.mapError_ok_iff,
    Except.ok.injEq, exists_eq_left', Except.mapM_ok_iff,
    analyzeRestartPage_ok_iff table within valid frontier, Except.pure_ok_iff,
    foldl_page_lower]
  constructor
  · intro derived
    rcases derived with ⟨pages, isPages, rfl⟩
    exact ⟨isPages, rfl, by rw [RestartAnalysis.needs, lowestNeed_append]; rfl⟩
  · intro holds
    rcases completeness with ⟨transactionAnalysis, pages, replayStart⟩
    rcases holds with ⟨isPages, rfl, isStart⟩
    have isStart : replayStart = _ := isStart
    exact ⟨pages, isPages, by rw [isStart, RestartAnalysis.needs, lowestNeed_append]; rfl⟩

/-- Completeness analysis accepts exactly the valid prefixes of whose pages the
store shows nothing or an image that counts. -/
theorem analyzeRestartCompletenessEvidence_ok_iff
    {durableFrontier : Option LogSequenceNumber}
    {observePage : ObservePage width StoreError}
    {completeness : RestartCompletenessAnalysis} :
    analyzeRestartCompletenessEvidence lineage durableFrontier records observePage =
        .ok completeness ↔
      ValidPrefix lineage records ∧ durableFrontier = lastPosition records ∧
        completeness.transactionAnalysis.lineage = lineage ∧
        completeness.transactionAnalysis.durableFrontier = durableFrontier ∧
        TableOf records completeness.transactionAnalysis.transactions ∧
        PagesOf records records observePage (restartPageNumbers [] records)
          completeness.pages ∧
        completeness.replayStart = replayStartOf (durableFrontier.map (·.get))
          (lowestNeed (completeness.transactionAnalysis.needs completeness.pages)) := by
  simp only [analyzeRestartCompletenessEvidence, Except.bind_ok_iff,
    Except.mapError_ok_iff, analyzeDurableTransactionRestartEvidence_ok_iff]
  constructor
  · intro analyzed
    rcases analyzed with ⟨analysis, ⟨valid, rfl, ownLineage, ownFrontier, table⟩, derived⟩
    rcases (deriveRestartCompletenessFromAnalysisEvidence_ok_iff table
      (fun _ among => among) valid ownFrontier).mp derived with ⟨isPages, rfl, isStart⟩
    exact ⟨valid, rfl, ownLineage, ownFrontier, table, isPages, ownFrontier ▸ isStart⟩
  · intro holds
    rcases holds with ⟨valid, rfl, ownLineage, ownFrontier, table, isPages, isStart⟩
    refine ⟨completeness.transactionAnalysis,
      ⟨valid, rfl, ownLineage, ownFrontier, table⟩, ?_⟩
    exact (deriveRestartCompletenessFromAnalysisEvidence_ok_iff table
      (fun _ among => among) valid
      ownFrontier).mpr ⟨isPages, rfl, by rw [isStart, ownFrontier]⟩

end Ntsql.Transaction
