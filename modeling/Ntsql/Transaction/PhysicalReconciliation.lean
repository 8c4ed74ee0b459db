import Ntsql.Transaction.CommittedReconciliation

/-! # What physical reconciliation decides

The records of one page are compared with the snapshot the store holds of it.
Whoever calls passes the records of that page alone: a record of another page is
refused, and no frontier is consulted. -/

namespace Ntsql.Transaction

open OrderedScan

variable {width : Nat}

/-- What the store holds of a page, relative to the latest record of the page. -/
def physicalState (snapshot : Option (StoredPageSnapshotObservation width))
    (latest : Option (DurablePageWalObservation width)) : DurablePageReconciliation :=
  match latest, snapshot with
  | none, _ => .noDurableState
  | some latest, none => .storeMissing latest.position
  | some latest, some stored =>
      if stored.requiredPosition = latest.position then .exactCurrent latest.position
      else .storeBehind stored.requiredPosition latest.position

theorem reconcileDurablePage_of_scan {lineage : LogLineage} {pageNumber : PageNumber}
    {snapshot : Option (StoredPageSnapshotObservation width)}
    {walObservations : List (DurablePageWalObservation width)}
    {result : DurablePageReconciliation}
    (ordered : OrderedPages lineage pageNumber walObservations)
    (backed : ∀ stored ∈ snapshot, stored.record ∈ walObservations)
    (reconciled : reconcileDurablePage lineage pageNumber snapshot walObservations =
      .ok result) :
    result = physicalState snapshot walObservations.getLast? := by
  have scanned := scan_ok_iff (scanPhysicalPage_accepts lineage pageNumber snapshot)
    walObservations ⟨none, false⟩
  simp only [foldlM_some_iff_forall keepPhysical_some_iff] at scanned
  simp only [reconcileDurablePage, Except.bind_ok_iff, scanned] at reconciled
  rcases reconciled with ⟨_, _, _, ⟨_, _, _, rfl⟩, decided⟩
  rw [foldl_advancePhysical_latestPosition] at decided
  cases latest : walObservations.getLast? with
  | none =>
      cases snapshot with
      | none =>
          simp only [latest, Option.map_none, Option.none_or, Except.pure_ok_iff]
            at decided
          exact decided.symm
      | some stored =>
          have among := backed stored rfl
          rw [List.getLast?_eq_none_iff.mp latest] at among
          cases among
  | some last =>
      have isLast := ordered.own last (List.mem_of_getLast? latest)
      have position : lineage.position last.position.get = last.position :=
        (LogSequenceNumber.eq_position isLast).symm
      simp only [latest, Option.map_some, Option.some_or] at decided
      cases snapshot with
      | none =>
          rw [Except.pure_ok_iff, position] at decided
          exact decided.symm
      | some stored =>
          have own : stored.requiredPosition.lineage = lineage :=
            ordered.own _ (backed stored rfl)
          rcases Except.bind_ok_iff.mp decided with ⟨_, _, decided⟩
          rw [physicalState]
          by_cases current : stored.requiredPosition.get = last.position.get
          · rw [if_pos current, Except.pure_ok_iff, position] at decided
            rw [if_pos (LogSequenceNumber.ext_of_own own isLast current), decided]
          · rw [if_neg current, Except.pure_ok_iff, position] at decided
            rw [if_neg (fun equal => current (congrArg LogSequenceNumber.get equal)),
              decided]

/-- Exactly the ordered records of the page that hold the stored snapshot are
accepted, and the last of them decides. -/
theorem durable_page_reconciliation_exact (lineage : LogLineage) (pageNumber : PageNumber)
    (snapshot : Option (StoredPageSnapshotObservation width))
    (walObservations : List (DurablePageWalObservation width))
    (result : DurablePageReconciliation) :
    reconcileDurablePage lineage pageNumber snapshot walObservations = .ok result ↔
      (∀ record ∈ walObservations,
        record.pageNumber = pageNumber ∧ record.position.lineage = lineage) ∧
      (walObservations.Pairwise fun earlier later =>
        earlier.position.get < later.position.get) ∧
      (∀ stored ∈ snapshot, stored.record ∈ walObservations) ∧
      result = physicalState snapshot walObservations.getLast? := by
  have succeeds :=
    reconcileDurablePage_succeeds_iff lineage pageNumber snapshot walObservations
  constructor
  · intro reconciled
    rcases succeeds.mp ⟨result, reconciled⟩ with ⟨ordered, backed⟩
    refine ⟨?_, ordered.ordered, backed,
      reconcileDurablePage_of_scan ordered backed reconciled⟩
    intro record among
    exact ⟨ordered.number record among, ordered.own record among⟩
  · rintro ⟨own, increasing, backed, rfl⟩
    have ordered : OrderedPages lineage pageNumber walObservations :=
      ⟨fun record among => (own record among).1, fun record among => (own record among).2,
        increasing⟩
    rcases succeeds.mpr ⟨ordered, backed⟩ with ⟨result, reconciled⟩
    rw [reconciled, reconcileDurablePage_of_scan ordered backed reconciled]

/-- Records of one lineage, strictly advancing up to a frontier, that hold the
stored snapshot; the page they are of is not said. -/
structure WithinFrontier (lineage : LogLineage) (frontier : U64)
    (snapshot : Option (StoredPageSnapshotObservation width))
    (walObservations : List (DurablePageWalObservation width)) : Prop where
  own : ∀ record ∈ walObservations, record.position.lineage = lineage
  increasing : walObservations.Pairwise fun earlier later =>
    earlier.position.get < later.position.get
  bounded : ∀ record ∈ walObservations, record.position.get ≤ frontier
  backed : ∀ stored ∈ snapshot, stored.record ∈ walObservations

def loneRecord (pageNumber : PageNumber) : DurablePageWalObservation 1 :=
  ⟨pageNumber, ⟨1⟩, Bytes.singleton 8, ⟨.ephemeral 0, 1⟩, u64_one_ne_zero⟩

/-- A record of another page is refused though it is within the frontier, and a
record of the page is accepted though it is beyond the frontier. -/
theorem pages_are_told_apart_and_frontiers_are_not :
    (¬∀ (lineage : LogLineage) (frontier : U64) (pageNumber : PageNumber)
        (snapshot : Option (StoredPageSnapshotObservation 1))
        (walObservations : List (DurablePageWalObservation 1)),
      WithinFrontier lineage frontier snapshot walObservations →
        ∃ result,
          reconcileDurablePage lineage pageNumber snapshot walObservations = .ok result) ∧
    ¬∀ (lineage : LogLineage) (frontier : U64) (pageNumber : PageNumber)
        (snapshot : Option (StoredPageSnapshotObservation 1))
        (walObservations : List (DurablePageWalObservation 1)),
      (∃ result, reconcileDurablePage lineage pageNumber snapshot walObservations =
        .ok result) →
        WithinFrontier lineage frontier snapshot walObservations := by
  let other : PageNumber := ⟨2, by decide⟩
  constructor
  · intro accepted
    have within : WithinFrontier (.ephemeral 0) 1 none [loneRecord other] := by
      refine ⟨?_, List.pairwise_singleton _ _, ?_, ?_⟩
      · intro record among
        rw [List.mem_singleton.mp among, loneRecord]
      · intro record among
        rw [List.mem_singleton.mp among, loneRecord]
      · intro stored isSnapshot
        cases isSnapshot
    rcases accepted _ 1 NonZeroU64.min none [loneRecord other] within with ⟨_, reconciled⟩
    have refused :
        reconcileDurablePage (.ephemeral 0) NonZeroU64.min none [loneRecord other] =
        .error (.unexpectedWalPage NonZeroU64.min other ⟨.ephemeral 0, 1⟩) := rfl
    rw [refused] at reconciled
    cases reconciled
  · intro within
    have accepted : reconcileDurablePage (.ephemeral 0) other none [loneRecord other] =
        .ok (.storeMissing ⟨.ephemeral 0, 1⟩) := rfl
    have bounded := (within _ 0 other none [loneRecord other] ⟨_, accepted⟩).bounded
    have beyond := bounded (loneRecord other) (List.mem_singleton_self _)
    revert beyond
    decide

end Ntsql.Transaction
