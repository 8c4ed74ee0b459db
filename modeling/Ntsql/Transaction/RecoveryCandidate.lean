import Ntsql.Transaction.CommittedReconciliation

/-! # Recovery candidates

A candidate binds what the store held to the image it should hold. It is
compared with the store again before it is written. -/

namespace Ntsql.Transaction

variable {width : Nat} {lineage : LogLineage} {pageNumber : PageNumber}
  {snapshot : Option (StoredPageSnapshotObservation width)}
  {physicalPages : List (DurablePageWalObservation width)}
  {ownedPages : List (DurableTransactionPageObservation width)}
  {commits : List DurableTransactionCommitObservation}

/-! ## Derivation -/

/-- What a reconciliation proposes for the store. -/
inductive Proposes (snapshot : Option (StoredPageSnapshotObservation width)) :
    DurableCommittedTransactionPageReconciliation width →
      DurableCommittedTransactionPageRecoveryDecision width → Prop
  | noCommittedPage (number : PageNumber) (absent : snapshot = none) :
      Proposes snapshot (.noCommittedPage number) (.noCommittedPage number)
  | storeMissing (latest : LatestCommittedTransactionPage width)
      (absent : snapshot = none) :
      Proposes snapshot (.storeMissing latest) (.candidate ⟨.storeMissing, latest⟩)
  | exactCurrent (latest : LatestCommittedTransactionPage width)
      (stored : StoredPageSnapshotObservation width) (present : snapshot = some stored) :
      Proposes snapshot (.exactCurrent latest) (.exactCurrent latest)
  | storeBehind (page commit : LogSequenceNumber)
      (latest : LatestCommittedTransactionPage width)
      (stored : StoredPageSnapshotObservation width) (present : snapshot = some stored) :
      Proposes snapshot (.storeBehind page commit latest)
        (.candidate ⟨.exactSnapshot stored commit, latest⟩)

theorem IsReconciliation.exists_proposes
    {reconciliation : DurableCommittedTransactionPageReconciliation width}
    (described : IsReconciliation pageNumber snapshot ownedPages commits reconciliation) :
    ∃ decision, Proposes snapshot reconciliation decision := by
  cases reconciliation with
  | noCommittedPage number => exact ⟨_, .noCommittedPage number described.2.1⟩
  | storeMissing latest => exact ⟨_, .storeMissing latest described.1⟩
  | exactCurrent latest =>
      rcases described.2 with ⟨stored, present, _⟩
      exact ⟨_, .exactCurrent latest stored present⟩
  | storeBehind page commit latest =>
      rcases described.2 with ⟨stored, present, _⟩
      exact ⟨_, .storeBehind page commit latest stored present⟩

theorem derive_of_reconcile
    {reconciliation : DurableCommittedTransactionPageReconciliation width}
    {decision : DurableCommittedTransactionPageRecoveryDecision width}
    (reconciled : reconcileCommittedTransactionPage lineage pageNumber snapshot
      physicalPages ownedPages commits = .ok reconciliation)
    (proposes : Proposes snapshot reconciliation decision) :
    deriveCommittedTransactionPageRecoveryCandidate lineage pageNumber snapshot
      physicalPages ownedPages commits = .ok decision := by
  have described := ((reconcile_ok_iff reconciliation).mp reconciled).2.2
  rw [deriveCommittedTransactionPageRecoveryCandidate, reconciled]
  cases proposes with
  | noCommittedPage number absent =>
      subst absent
      rfl
  | storeMissing latest absent =>
      subst absent
      rfl
  | exactCurrent latest stored present =>
      subst present
      rcases described.2 with ⟨other, same, record⟩
      cases same
      have position : stored.requiredPosition = latest.observation.position :=
        congrArg (·.position) record
      simp [Except.mapError, Except.ok_bind, rejectIf, position, pure, Except.pure]
  | storeBehind page commit latest stored present =>
      subst present
      rcases described.2 with ⟨other, same, backing, _, record, rfl, _⟩
      cases same
      have position : stored.requiredPosition = backing.position :=
        congrArg (·.position) record.symm
      simp [Except.mapError, Except.ok_bind, rejectIf, position, pure, Except.pure]

theorem derive_of_reconcile_error
    {source : DurableCommittedTransactionPageReconciliationError}
    (fails : reconcileCommittedTransactionPage lineage pageNumber snapshot physicalPages
      ownedPages commits = .error source) :
    deriveCommittedTransactionPageRecoveryCandidate lineage pageNumber snapshot
      physicalPages ownedPages commits = .error (.reconciliation source) := by
  rw [deriveCommittedTransactionPageRecoveryCandidate, fails]
  rfl

theorem derive_error
    {error : DurableCommittedTransactionPageRecoveryPlanningError}
    (fails : deriveCommittedTransactionPageRecoveryCandidate lineage pageNumber snapshot
      physicalPages ownedPages commits = .error error) :
    ∃ source, error = .reconciliation source ∧
      reconcileCommittedTransactionPage lineage pageNumber snapshot
        physicalPages ownedPages commits = .error source := by
  cases reconciled :
    reconcileCommittedTransactionPage lineage pageNumber snapshot physicalPages
      ownedPages commits with
  | error source =>
      rw [derive_of_reconcile_error reconciled] at fails
      cases fails
      exact ⟨source, rfl, rfl⟩
  | ok reconciliation =>
      have described := ((reconcile_ok_iff reconciliation).mp reconciled).2.2
      rcases described.exists_proposes with ⟨decision, proposes⟩
      rw [derive_of_reconcile reconciled proposes] at fails
      cases fails

theorem compare_of_proposes
    (consistent : ConsistentEvidence lineage pageNumber physicalPages ownedPages commits)
    {reconciliation : DurableCommittedTransactionPageReconciliation width}
    (described : IsReconciliation pageNumber snapshot ownedPages commits reconciliation)
    {candidate : DurableCommittedTransactionPageRecoveryCandidate width}
    (proposes : Proposes snapshot reconciliation (.candidate candidate)) :
    compareCommittedTransactionPageRecoveryCandidate candidate snapshot =
      .ok .sourceMatches := by
  cases proposes with
  | storeMissing latest absent =>
      subst absent
      rfl
  | storeBehind page commit latest stored present =>
      subst present
      rcases described with ⟨isLatest, other, same, backing, among, record, rfl, _, below⟩
      cases same
      have targetAmong := List.mem_map_of_mem (f := (·.page)) isLatest.mem
      have backingAmong := List.mem_map_of_mem (f := (·.page)) among
      have number : stored.pageNumber = latest.observation.page.pageNumber := by
        have backingNumber : backing.page.pageNumber = stored.pageNumber :=
          congrArg (·.pageNumber) record
        rw [← backingNumber, consistent.ownedOrdered.number _ backingAmong,
          consistent.ownedOrdered.number _ targetAmong]
      have position : backing.position = stored.requiredPosition :=
        congrArg (·.position) record
      have own :
          latest.observation.position.lineage = stored.requiredPosition.lineage := by
        have targetOwn := consistent.ownedOrdered.own _ targetAmong
        have backingOwn := consistent.ownedOrdered.own _ backingAmong
        rw [← position]
        exact targetOwn.trans backingOwn.symm
      have apart : stored.requiredPosition.get ≠ latest.observation.position.get := by
        rw [← position]
        exact ne_of_lt below
      simp [compareCommittedTransactionPageRecoveryCandidate, compareWithPrecondition,
        rejectIf, number, own, apart, Except.ok_bind]

/-- Committed-page reconciliation accepts exactly consistent evidence whose
snapshot is absent or an image of a committed page at or before the latest one;
its result relates the snapshot to that page; and no error contradicts the
selection or the snapshot that was passed. -/
theorem reconciliation_meets_its_specification (lineage : LogLineage)
    (pageNumber : PageNumber) (snapshot : Option (StoredPageSnapshotObservation width))
    (physicalPages : List (DurablePageWalObservation width))
    (ownedPages : List (DurableTransactionPageObservation width))
    (commits : List DurableTransactionCommitObservation) :
    ((∃ reconciliation, reconcileCommittedTransactionPage lineage pageNumber snapshot
          physicalPages ownedPages commits = .ok reconciliation) ↔
        ConsistentEvidence lineage pageNumber physicalPages ownedPages commits ∧
          ∀ stored ∈ snapshot, CommittedSnapshot ownedPages commits stored ∧
            ∃ latest, IsLatestCommitted commits ownedPages latest ∧
              stored.requiredPosition.get ≤ latest.observation.position.get) ∧
      (∀ reconciliation, reconcileCommittedTransactionPage lineage pageNumber snapshot
          physicalPages ownedPages commits = .ok reconciliation →
        IsReconciliation pageNumber snapshot ownedPages commits reconciliation) ∧
      (∀ error, reconcileCommittedTransactionPage lineage pageNumber snapshot
        physicalPages ownedPages commits = .error error → ¬Defensive error) ∧
      ∀ error, deriveCommittedTransactionPageRecoveryCandidate lineage pageNumber snapshot
          physicalPages ownedPages commits = .error error →
        ∃ source, error = .reconciliation source := by
  refine ⟨?_, ?_, ?_, ?_⟩
  · rw [reconcile_succeeds_iff]
    constructor
    · intro holds
      refine ⟨holds.1, fun stored isStored => ⟨holds.2 stored isStored, ?_⟩⟩
      rcases holds.2 stored isStored with ⟨page, among, same, commitPosition, committed⟩
      rcases noneCommitted_or_isLatestCommitted commits ownedPages with
        none | ⟨latest, isLatest⟩
      · exact absurd committed (none page among commitPosition)
      · have before := isLatest.position_le holds.1.ownedOrdered among committed
        have position : page.position = stored.requiredPosition :=
          congrArg (·.position) same
        exact ⟨latest, isLatest, position ▸ before⟩
    · intro holds
      exact ⟨holds.1, fun stored isStored => (holds.2 stored isStored).1⟩
  · intro reconciliation reconciled
    exact ((reconcile_ok_iff reconciliation).mp reconciled).2.2
  · intro error fails
    exact reconcileCommittedTransactionPage_not_defensive fails
  · intro error fails
    rcases derive_error fails with ⟨source, same, _⟩
    exact ⟨source, same⟩

/-- The observed records reach a position and none lies beyond it. -/
def EndsAt (frontier : LogSequenceNumber)
    (physicalPages : List (DurablePageWalObservation width))
    (commits : List DurableTransactionCommitObservation) : Prop :=
  let positions := physicalPages.map (·.position) ++ commits.map (·.position)
  frontier ∈ positions ∧ ∀ position ∈ positions, position.get ≤ frontier.get

/-- Reconciliation is not told where the durable prefix ends: it accepts a
commit at position one as evidence for a prefix that ends at position two. -/
theorem evidence_may_stop_before_the_frontier :
    ¬∀ (frontier : LogSequenceNumber) (pageNumber : PageNumber)
      (snapshot : Option (StoredPageSnapshotObservation 1))
      (physicalPages : List (DurablePageWalObservation 1))
      (ownedPages : List (DurableTransactionPageObservation 1))
      (commits : List DurableTransactionCommitObservation),
      (∃ reconciliation,
        reconcileCommittedTransactionPage frontier.lineage pageNumber snapshot
        physicalPages ownedPages commits = .ok reconciliation) →
      EndsAt frontier physicalPages commits := by
  intro always
  let lineage : LogLineage := .ephemeral 0
  let commit : DurableTransactionCommitObservation :=
    ⟨⟨NonZeroU64.min, NonZeroU64.min⟩, lineage.position 1, by decide⟩
  have ends := always (lineage.position 2) NonZeroU64.min none [] [] [commit]
    ⟨.noCommittedPage NonZeroU64.min, by decide⟩
  have reached : lineage.position 2 = lineage.position 1 := by
    simpa [EndsAt, commit] using ends.1
  revert reached
  decide

end Ntsql.Transaction
