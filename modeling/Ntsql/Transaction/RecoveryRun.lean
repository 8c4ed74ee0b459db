import Ntsql.Transaction.PageRecovery
import Ntsql.Transaction.DurablePrefix

/-! # Recovery runs

Runs over the pages of one durable prefix and a store whose writes may each
fail, before or after the target was stored. -/

namespace Ntsql.Transaction

variable {width : Nat}

/-! ## Ports -/

/-- What becomes of one replacement by the store. -/
inductive WriteOutcome where
  | completes
  | failsBeforeWrite
  | failsAfterWrite
deriving DecidableEq

/-- A store of current snapshots and what its next replacements will meet;
those it does not list complete. -/
structure RecoveryStore (width : Nat) where
  lineage : LogLineage
  page : PageNumber → Option (StoredPageSnapshotObservation width)
  outcomes : List WriteOutcome

inductive RecoveryStoreError where
  | foreignTargetPagePosition (position : LogSequenceNumber)
  | foreignTargetCommitPosition (position : LogSequenceNumber)
  | foreignPermitPagePosition (position : LogSequenceNumber)
  | foreignPermitCommitPosition (position : LogSequenceNumber)
  | permitPagePositionMismatch (expected actual : LogSequenceNumber)
  | permitCommitPositionMismatch (expected actual : LogSequenceNumber)
  | sourceNotMatched (actual : DurableCommittedTransactionPageRecoveryComparison)
  | sourceComparison (source : DurableCommittedTransactionPageRecoveryComparisonError)
  | writeFailed
deriving DecidableEq

/-- The snapshot that holds a page record. -/
def snapshotOf (page : DurablePageWalObservation width) :
    StoredPageSnapshotObservation width where
  pageNumber := page.pageNumber
  pageVersion := page.pageVersion
  image := page.image
  requiredPosition := page.position
  requiredPosition_ne_zero := page.position_ne_zero

@[simp] theorem snapshotOf_record (page : DurablePageWalObservation width) :
    (snapshotOf page).record = page := rfl

@[simp] theorem record_snapshotOf (stored : StoredPageSnapshotObservation width) :
    snapshotOf stored.record = stored := rfl

namespace RecoveryStore

def put (store : RecoveryStore width) (page : DurablePageWalObservation width) :
    RecoveryStore width :=
  { store with
    page := fun pageNumber =>
      if pageNumber = page.pageNumber then some (snapshotOf page) else store.page
        pageNumber }

def nextOutcome (store : RecoveryStore width) : WriteOutcome :=
  store.outcomes.headD .completes

/-- The outcomes that remain after one replacement. -/
def advance (store : RecoveryStore width) : RecoveryStore width :=
  { store with outcomes := store.outcomes.tail }

/-- Write the target, as far as the next outcome lets it. -/
def replace (page : DurablePageWalObservation width) :
    EStateM RecoveryStoreError (RecoveryStore width) Unit := fun store =>
  match store.nextOutcome with
  | .completes => .ok () (store.advance.put page)
  | .failsBeforeWrite => .error .writeFailed store.advance
  | .failsAfterWrite => .error .writeFailed (store.advance.put page)

/-- `compare_and_replace` of the page stores. -/
def compareAndReplace (candidate : DurableCommittedTransactionPageRecoveryCandidate width)
    (permit : CommittedTransactionPageRecoveryWritePermit) :
    EStateM RecoveryStoreError (RecoveryStore width) Unit := do
  let store ← get
  let latest := candidate.latestCommitted
  let target := latest.observation
  check (rejectIf (store.lineage ≠ target.position.lineage)
    (.foreignTargetPagePosition target.position))
  check (rejectIf (store.lineage ≠ latest.commitPosition.lineage)
    (.foreignTargetCommitPosition latest.commitPosition))
  check (rejectIf (store.lineage ≠ permit.pagePosition.lineage)
    (.foreignPermitPagePosition permit.pagePosition))
  check (rejectIf (store.lineage ≠ permit.commitPosition.lineage)
    (.foreignPermitCommitPosition permit.commitPosition))
  check (rejectIf (permit.pagePosition ≠ target.position)
    (.permitPagePositionMismatch target.position permit.pagePosition))
  check (rejectIf (permit.commitPosition ≠ latest.commitPosition)
    (.permitCommitPositionMismatch latest.commitPosition permit.commitPosition))
  let comparison ← check ((compareCommittedTransactionPageRecoveryCandidate candidate
    (store.page target.page.pageNumber)).mapError .sourceComparison)
  check (rejectIf (comparison ≠ .sourceMatches) (.sourceNotMatched comparison))
  replace target.page

end RecoveryStore

/-- A stable prefix as the source, and a store. -/
def prefixPorts (lineage : LogLineage)
    (records : List (DurableTransactionRestartObservation width)) :
    RecoveryPorts (RecoveryStore width) Empty Empty Empty RecoveryStoreError width where
  sourceLineage _ := lineage
  storeLineage store := store.lineage
  durableTransactionPageNumbers _ := .ok (transactionPageNumbers records)
  withDurablePageEvidence pageNumber _ :=
    .ran ⟨physicalPages records pageNumber, ownedPages records pageNumber,
      commitRecords records⟩ none
  observePage pageNumber store := .ok (store.page pageNumber)
  compareAndReplace := RecoveryStore.compareAndReplace

/-- `recover_committed_transaction_pages` over a prefix. -/
def recoverPrefix (lineage : LogLineage)
    (records : List (DurableTransactionRestartObservation width)) :=
  recoverCommittedTransactionPages (prefixPorts lineage records)

/-! ## What a store should hold -/

/-- The store belongs to the lineage, and its snapshots are committed images. -/
structure CommittedStore (lineage : LogLineage)
    (records : List (DurableTransactionRestartObservation width))
    (store : RecoveryStore width) : Prop where
  own : store.lineage = lineage
  committed : ∀ pageNumber, ∀ stored ∈ store.page pageNumber,
    CommittedSnapshot (ownedPages records pageNumber) (commitRecords records) stored

/-- What the store should hold of a page: its latest committed image, if any. -/
def IsLatestImage (records : List (DurableTransactionRestartObservation width))
    (pageNumber : PageNumber)
    (image : Option (StoredPageSnapshotObservation width)) : Prop :=
  match image with
  | none => NoneCommitted (commitRecords records) (ownedPages records pageNumber)
  | some stored => ∃ latest,
      IsLatestCommitted (commitRecords records) (ownedPages records pageNumber) latest ∧
        stored = snapshotOf latest.observation.page

/-- The store holds the latest committed image of every page. -/
def HoldsLatest (records : List (DurableTransactionRestartObservation width))
    (store : RecoveryStore width) : Prop :=
  ∀ pageNumber, IsLatestImage records pageNumber (store.page pageNumber)

section Recovery

variable {lineage : LogLineage}
  {records : List (DurableTransactionRestartObservation width)}
  {store : RecoveryStore width} {pageNumber : PageNumber}

theorem IsLatestCommitted.unique
    {ownedPages : List (DurableTransactionPageObservation width)}
    {commits : List DurableTransactionCommitObservation}
    (owned : OrderedPages lineage pageNumber (ownedPages.map (·.page)))
    {first second : LatestCommittedTransactionPage width}
    (firstLatest : IsLatestCommitted commits ownedPages first)
    (secondLatest : IsLatestCommitted commits ownedPages second) :
    first.observation = second.observation := by
  have below := secondLatest.position_le owned firstLatest.mem firstLatest.committed
  have above := firstLatest.position_le owned secondLatest.mem secondLatest.committed
  exact owned.owned_eq_of_position firstLatest.mem secondLatest.mem
    (le_antisymm below above)

theorem IsLatestImage.unique (valid : ValidPrefix lineage records)
    {first second : Option (StoredPageSnapshotObservation width)}
    (isFirst : IsLatestImage records pageNumber first)
    (isSecond : IsLatestImage records pageNumber second) : first = second := by
  have owned := valid.ownedOrdered pageNumber
  cases first with
  | none =>
      cases second with
      | none => rfl
      | some stored =>
          rcases isSecond with ⟨latest, isLatest, _⟩
          exact absurd isLatest.committed (isFirst _ isLatest.mem _)
  | some stored =>
      rcases isFirst with ⟨latest, isLatest, rfl⟩
      cases second with
      | none => exact absurd isLatest.committed (isSecond _ isLatest.mem _)
      | some other =>
          rcases isSecond with ⟨otherLatest, isOtherLatest, rfl⟩
          rw [isLatest.unique owned isOtherLatest]

/-! ## One page -/

/-- What the recovery of one page does. -/
inductive Recovers (records : List (DurableTransactionRestartObservation width))
    (pageNumber : PageNumber) (store : RecoveryStore width) :
    EStateM.Result
      (CommittedTransactionPageRecoveryError Empty Empty RecoveryStoreError width)
      (RecoveryStore width) (CommittedTransactionPageRecoveryOutcome width) → Prop
  | absent (noImage : IsLatestImage records pageNumber none)
      (empty : store.page pageNumber = none) :
      Recovers records pageNumber store (.ok (.noCommittedPage pageNumber) store)
  | current (latest : LatestCommittedTransactionPage width)
      (isLatest : IsLatestCommitted (commitRecords records)
        (ownedPages records pageNumber) latest)
      (holds : store.page pageNumber = some (snapshotOf latest.observation.page)) :
      Recovers records pageNumber store
        (.ok (.alreadyCurrent (ownedRecoveryTarget latest)) store)
  | recovered (latest : LatestCommittedTransactionPage width)
      (isLatest : IsLatestCommitted (commitRecords records)
        (ownedPages records pageNumber) latest)
      (behind : store.page pageNumber ≠ some (snapshotOf latest.observation.page))
      (outcome : store.nextOutcome = .completes) :
      Recovers records pageNumber store
        (.ok (.recovered (ownedRecoveryTarget latest))
          (store.advance.put latest.observation.page))
  | failedBeforeWrite (latest : LatestCommittedTransactionPage width)
      (isLatest : IsLatestCommitted (commitRecords records)
        (ownedPages records pageNumber) latest)
      (behind : store.page pageNumber ≠ some (snapshotOf latest.observation.page))
      (outcome : store.nextOutcome = .failsBeforeWrite)
      (sourceState : CommittedTransactionPageRecoverySourceState width) :
      Recovers records pageNumber store
        (.error (.storeWrite sourceState (ownedRecoveryTarget latest) .writeFailed)
          store.advance)
  | failedAfterWrite (latest : LatestCommittedTransactionPage width)
      (isLatest : IsLatestCommitted (commitRecords records)
        (ownedPages records pageNumber) latest)
      (behind : store.page pageNumber ≠ some (snapshotOf latest.observation.page))
      (outcome : store.nextOutcome = .failsAfterWrite)
      (sourceState : CommittedTransactionPageRecoverySourceState width) :
      Recovers records pageNumber store
        (.error (.storeWrite sourceState (ownedRecoveryTarget latest) .writeFailed)
          (store.advance.put latest.observation.page))

/-- A candidate derived from the store passes every check of the store. -/
theorem compareAndReplace_of_proposes (valid : ValidPrefix lineage records)
    (own : store.lineage = lineage)
    {reconciliation : DurableCommittedTransactionPageReconciliation width}
    (described : IsReconciliation pageNumber (store.page pageNumber)
      (ownedPages records pageNumber) (commitRecords records) reconciliation)
    {candidate : DurableCommittedTransactionPageRecoveryCandidate width}
    (proposes : Proposes (store.page pageNumber) reconciliation (.candidate candidate))
    (isLatest : IsLatestCommitted (commitRecords records) (ownedPages records pageNumber)
      candidate.latestCommitted) :
    RecoveryStore.compareAndReplace candidate
      ⟨candidate.latestCommitted.observation.position,
        candidate.latestCommitted.commitPosition⟩ store =
      RecoveryStore.replace candidate.latestCommitted.observation.page store := by
  have consistent := valid.consistent pageNumber
  have matched := compare_of_proposes consistent described proposes
  have among := List.mem_map_of_mem (f := (·.page)) isLatest.mem
  have number := consistent.ownedOrdered.number _ among
  have pageOwn : candidate.latestCommitted.observation.position.lineage = lineage :=
    consistent.ownedOrdered.own _ among
  have commitOwn : candidate.latestCommitted.commitPosition.lineage = lineage := by
    have listed : candidate.latestCommitted.commitPosition ∈
        commitPositions (commitRecords records)
          candidate.latestCommitted.observation.owner := by
      rw [isLatest.committed.1]
      exact List.mem_singleton_self _
    rcases mem_commitPositions.mp listed with ⟨commit, isCommit, _, same⟩
    rw [← same]
    exact consistent.commitsOrdered.own commit isCommit
  rw [← number] at matched
  simp [RecoveryStore.compareAndReplace, Operation.get_bind,
    Operation.check_rejectIf_bind, own, pageOwn, commitOwn, matched, Except.mapError,
    Operation.check_bind_of_ok rfl]

theorem attempt_recovers (valid : ValidPrefix lineage records)
    (own : store.lineage = lineage)
    {reconciliation : DurableCommittedTransactionPageReconciliation width}
    (described : IsReconciliation pageNumber (store.page pageNumber)
      (ownedPages records pageNumber) (commitRecords records) reconciliation)
    {candidate : DurableCommittedTransactionPageRecoveryCandidate width}
    (proposes : Proposes (store.page pageNumber) reconciliation (.candidate candidate))
    (isLatest : IsLatestCommitted (commitRecords records) (ownedPages records pageNumber)
      candidate.latestCommitted)
    (behind : store.page pageNumber ≠
      some (snapshotOf candidate.latestCommitted.observation.page)) :
    Recovers records pageNumber store
      (attemptRecovery (prefixPorts lineage records) candidate store) := by
  have replaced := compareAndReplace_of_proposes valid own described proposes isLatest
  have asked : (prefixPorts lineage records).compareAndReplace candidate
      ⟨(ownedRecoveryTarget candidate.latestCommitted).pagePosition,
        (ownedRecoveryTarget candidate.latestCommitted).commitPosition⟩ store =
      RecoveryStore.replace candidate.latestCommitted.observation.page store := replaced
  rw [attemptRecovery, Operation.bind_apply, Operation.attempt_apply, asked,
    RecoveryStore.replace]
  cases outcome : store.nextOutcome with
  | completes => exact .recovered _ isLatest behind outcome
  | failsBeforeWrite => exact .failedBeforeWrite _ isLatest behind outcome _
  | failsAfterWrite => exact .failedAfterWrite _ isLatest behind outcome _

theorem recoverCommittedTransactionPage_eq (own : store.lineage = lineage)
    (pageNumber : PageNumber) :
    recoverCommittedTransactionPage (prefixPorts lineage records) pageNumber store =
      (match planRecovery (prefixPorts lineage records) lineage pageNumber
          ⟨physicalPages records pageNumber, ownedPages records pageNumber,
            commitRecords records⟩ store with
        | .ok (.inr candidate) =>
            attemptRecovery (prefixPorts lineage records) candidate store
        | .ok (.inl outcome) => .ok outcome store
        | .error error => .error error store) := by
  have sameLineage : (prefixPorts lineage records).sourceLineage store =
      (prefixPorts lineage records).storeLineage store := own.symm
  rw [recoverCommittedTransactionPage, Operation.get_bind, Operation.check_rejectIf_bind,
    if_neg (not_not.mpr sameLineage)]
  have source : (prefixPorts lineage records).withDurablePageEvidence pageNumber store =
      .ran ⟨physicalPages records pageNumber, ownedPages records pageNumber,
        commitRecords records⟩ none := rfl
  have ofLineage : (prefixPorts lineage records).sourceLineage store = lineage := rfl
  rw [source, ofLineage]
  dsimp only
  cases planRecovery (prefixPorts lineage records) lineage pageNumber _ store with
  | error error => rfl
  | ok plan => cases plan <;> rfl

/-- A page is recovered if the store holds nothing of it, or a committed image. -/
theorem recoverPage_recovers (valid : ValidPrefix lineage records)
    (own : store.lineage = lineage) (committed : ∀ stored ∈ store.page pageNumber,
      CommittedSnapshot (ownedPages records pageNumber) (commitRecords records) stored) :
    Recovers records pageNumber store
      (recoverCommittedTransactionPage
        (prefixPorts lineage records) pageNumber store) := by
  have consistent := valid.consistent pageNumber
  rcases exists_isReconciliation consistent.ownedOrdered committed with
    ⟨reconciliation, described⟩
  have reconciled :=
    (reconcile_ok_iff reconciliation).mpr ⟨consistent, committed, described⟩
  rcases described.exists_proposes with ⟨decision, proposes⟩
  have derived := derive_of_reconcile reconciled proposes
  have observed : (prefixPorts lineage records).observePage pageNumber store =
      .ok (store.page pageNumber) := rfl
  rw [recoverCommittedTransactionPage_eq own, planRecovery, observed]
  simp only [Except.mapError, Except.ok_bind, derived]
  cases proposes with
  | noCommittedPage number absent =>
      rcases described with ⟨rfl, _, noImage⟩
      exact .absent noImage absent
  | exactCurrent latest stored present =>
      rcases described with ⟨isLatest, other, same, record⟩
      have holds : store.page pageNumber = some (snapshotOf latest.observation.page) := by
        rw [same, ← record, record_snapshotOf]
      exact .current latest isLatest holds
  | storeMissing latest absent =>
      have isLatest := described.2
      have proposes : Proposes (store.page pageNumber) _ _ := .storeMissing latest absent
      have behind :
          store.page pageNumber ≠ some (snapshotOf latest.observation.page) := by
        simp [absent]
      dsimp only
      rw [compare_of_proposes consistent described proposes]
      exact attempt_recovers valid own described proposes isLatest behind
  | storeBehind page commit latest stored present =>
      have isLatest := described.1
      have behind :
          store.page pageNumber ≠ some (snapshotOf latest.observation.page) := by
        rcases described.2 with ⟨other, same, backing, _, record, _, _, below⟩
        intro current
        rw [same, Option.some.injEq] at current
        have position : backing.position = latest.observation.position := by
          rw [current, snapshotOf_record] at record
          exact congrArg (·.position) record
        exact absurd (congrArg LogSequenceNumber.get position) (ne_of_lt below)
      have proposes : Proposes (store.page pageNumber) _ _ :=
        .storeBehind page commit latest stored present
      dsimp only
      rw [compare_of_proposes consistent described proposes]
      exact attempt_recovers valid own described proposes isLatest behind

theorem recoverCommittedTransactionPage_recovers (valid : ValidPrefix lineage records)
    (committed : CommittedStore lineage records store) (pageNumber : PageNumber) :
    Recovers records pageNumber store
      (recoverCommittedTransactionPage (prefixPorts lineage records) pageNumber store) :=
  recoverPage_recovers valid committed.own (committed.committed pageNumber)

/-! ## What one page's recovery keeps and establishes -/

theorem CommittedStore.advance (committed : CommittedStore lineage records store) :
    CommittedStore lineage records store.advance := ⟨committed.own, committed.committed⟩

theorem CommittedStore.put (committed : CommittedStore lineage records store)
    {latest : LatestCommittedTransactionPage width}
    (isLatest : IsLatestCommitted (commitRecords records)
      (ownedPages records pageNumber) latest) :
    CommittedStore lineage records (store.put latest.observation.page) where
  own := committed.own
  committed number stored isStored := by
    by_cases written : number = latest.observation.page.pageNumber
    · simp only [RecoveryStore.put, written, if_true, Option.mem_def, Option.some.injEq]
        at isStored
      have among : latest.observation ∈ ownedPages records number := by
        rw [mem_ownedPages]
        exact ⟨(mem_ownedPages.mp isLatest.mem).1, written.symm⟩
      exact ⟨latest.observation, among, by rw [← isStored, snapshotOf_record],
        latest.commitPosition, isLatest.committed⟩
    · simp only [RecoveryStore.put, written, if_false] at isStored
      exact committed.committed number stored isStored

theorem Recovers.committed
    {result : EStateM.Result
      (CommittedTransactionPageRecoveryError Empty Empty RecoveryStoreError width)
      (RecoveryStore width) (CommittedTransactionPageRecoveryOutcome width)}
    (recovers : Recovers records pageNumber store result)
    (committed : CommittedStore lineage records store) :
    CommittedStore lineage records (Operation.leaves result) := by
  cases recovers with
  | absent _ _ => exact committed
  | current _ _ _ => exact committed
  | recovered latest isLatest _ _ => exact committed.advance.put isLatest
  | failedBeforeWrite _ _ _ _ _ => exact committed.advance
  | failedAfterWrite latest isLatest _ _ _ => exact committed.advance.put isLatest

theorem Recovers.own
    {result : EStateM.Result
      (CommittedTransactionPageRecoveryError Empty Empty RecoveryStoreError width)
      (RecoveryStore width) (CommittedTransactionPageRecoveryOutcome width)}
    (recovers : Recovers records pageNumber store result) :
    (Operation.leaves result).lineage = store.lineage := by
  cases recovers <;> rfl

theorem Recovers.ok
    {outcome : CommittedTransactionPageRecoveryOutcome width}
    {final : RecoveryStore width}
    (recovers : Recovers records pageNumber store (.ok outcome final)) :
    IsLatestImage records pageNumber (final.page pageNumber) ∧
      (∀ other ≠ pageNumber, final.page other = store.page other) ∧
      final.outcomes <:+ store.outcomes := by
  cases recovers with
  | absent noImage empty => exact ⟨empty ▸ noImage, fun _ _ => rfl, List.suffix_refl _⟩
  | current latest isLatest holds =>
      exact ⟨holds ▸ ⟨latest, isLatest, rfl⟩, fun _ _ => rfl, List.suffix_refl _⟩
  | recovered latest isLatest _ _ =>
      have number := (mem_ownedPages.mp isLatest.mem).2
      refine ⟨?_, ?_, List.tail_suffix _⟩
      · simp only [RecoveryStore.put, number, if_true]
        exact ⟨latest, isLatest, rfl⟩
      · intro other apart
        simp [RecoveryStore.put, number, apart, RecoveryStore.advance]

/-- What recovery reports of a page that needs no write. -/
inductive Reports (records : List (DurableTransactionRestartObservation width))
    (pageNumber : PageNumber) : CommittedTransactionPageRecoveryOutcome width → Prop
  | noCommittedPage
      (none : NoneCommitted (commitRecords records) (ownedPages records pageNumber)) :
      Reports records pageNumber (.noCommittedPage pageNumber)
  | alreadyCurrent (latest : LatestCommittedTransactionPage width)
      (isLatest : IsLatestCommitted (commitRecords records)
        (ownedPages records pageNumber) latest) :
      Reports records pageNumber (.alreadyCurrent (ownedRecoveryTarget latest))

theorem Recovers.of_isLatestImage (valid : ValidPrefix lineage records)
    {result : EStateM.Result
      (CommittedTransactionPageRecoveryError Empty Empty RecoveryStoreError width)
      (RecoveryStore width) (CommittedTransactionPageRecoveryOutcome width)}
    (recovers : Recovers records pageNumber store result)
    (holds : IsLatestImage records pageNumber (store.page pageNumber)) :
    ∃ outcome, result = .ok outcome store ∧ Reports records pageNumber outcome := by
  have unchanged : ∀ latest : LatestCommittedTransactionPage width,
      IsLatestCommitted (commitRecords records) (ownedPages records pageNumber) latest →
      store.page pageNumber ≠ some (snapshotOf latest.observation.page) → False := by
    intro latest isLatest behind
    have isImage : IsLatestImage records pageNumber
        (some (snapshotOf latest.observation.page)) := ⟨latest, isLatest, rfl⟩
    exact behind (holds.unique valid isImage)
  cases recovers with
  | absent noImage _ => exact ⟨_, rfl, .noCommittedPage noImage⟩
  | current latest isLatest _ => exact ⟨_, rfl, .alreadyCurrent latest isLatest⟩
  | recovered latest isLatest behind _ => exact (unchanged latest isLatest behind).elim
  | failedBeforeWrite latest isLatest behind _ _ =>
      exact (unchanged latest isLatest behind).elim
  | failedAfterWrite latest isLatest behind _ _ =>
      exact (unchanged latest isLatest behind).elim

theorem Recovers.succeeds
    {result : EStateM.Result
      (CommittedTransactionPageRecoveryError Empty Empty RecoveryStoreError width)
      (RecoveryStore width) (CommittedTransactionPageRecoveryOutcome width)}
    (recovers : Recovers records pageNumber store result)
    (completes : ∀ outcome ∈ store.outcomes, outcome = .completes) :
    ∃ outcome final, result = .ok outcome final := by
  have next : store.nextOutcome = .completes := by
    cases listed : store.outcomes with
    | nil => simp [RecoveryStore.nextOutcome, listed]
    | cons first rest =>
        have first := completes first (by simp [listed])
        simp [RecoveryStore.nextOutcome, listed, first]
  cases recovers with
  | absent _ _ => exact ⟨_, _, rfl⟩
  | current _ _ _ => exact ⟨_, _, rfl⟩
  | recovered _ _ _ _ => exact ⟨_, _, rfl⟩
  | failedBeforeWrite _ _ _ outcome _ =>
      rw [next] at outcome
      cases outcome
  | failedAfterWrite _ _ _ outcome _ =>
      rw [next] at outcome
      cases outcome

/-! ## Whole runs -/

theorem recoverPages_cons
    (completed : List (CommittedTransactionPageRecoveryOutcome width))
    (pageNumber : PageNumber) (pageNumbers : List PageNumber) :
    recoverPages (prefixPorts lineage records) completed
      (pageNumber :: pageNumbers) store =
      match recoverCommittedTransactionPage (prefixPorts lineage records)
        pageNumber store with
      | .ok outcome middle =>
          recoverPages (prefixPorts lineage records) (completed ++ [outcome])
            pageNumbers middle
      | .error error middle => .error (.page completed pageNumber error) middle := by
  rw [recoverPages, Operation.bind_apply, Operation.attempt_apply]
  cases recoverCommittedTransactionPage (prefixPorts lineage records) pageNumber
    store <;> rfl

theorem recoverPages_ok (valid : ValidPrefix lineage records)
    (committed : CommittedStore lineage records store) {pageNumbers : List PageNumber}
    {completed outcomes : List (CommittedTransactionPageRecoveryOutcome width)}
    {final : RecoveryStore width}
    (succeeds : recoverPages (prefixPorts lineage records) completed pageNumbers store =
      .ok outcomes final) :
    CommittedStore lineage records final ∧
      (∀ pageNumber ∈ pageNumbers, IsLatestImage records pageNumber
        (final.page pageNumber)) ∧
      ∀ pageNumber ∉ pageNumbers, final.page pageNumber = store.page pageNumber := by
  induction pageNumbers generalizing completed store with
  | nil =>
      cases succeeds
      exact ⟨committed, by simp, fun _ _ => rfl⟩
  | cons first rest induction =>
      have recovers := recoverCommittedTransactionPage_recovers valid committed first
      rw [recoverPages_cons] at succeeds
      cases result :
        recoverCommittedTransactionPage (prefixPorts lineage records) first store with
      | error error middle =>
          rw [result] at succeeds
          cases succeeds
      | ok outcome middle =>
          rw [result] at succeeds recovers
          rcases recovers.ok with ⟨isLatest, framed, _⟩
          have middleCommitted : CommittedStore lineage records middle :=
            recovers.committed committed
          rcases induction middleCommitted succeeds with ⟨after, listed, kept⟩
          refine ⟨after, ?_, ?_⟩
          · intro pageNumber among
            by_cases later : pageNumber ∈ rest
            · exact listed pageNumber later
            · have isFirst := (List.mem_cons.mp among).resolve_right later
              rw [kept pageNumber later, isFirst]
              exact isLatest
          · intro pageNumber absent
            rw [List.mem_cons, not_or] at absent
            rcases absent with ⟨apart, absent⟩
            rw [kept pageNumber absent, framed pageNumber apart]

theorem recoverPages_error (valid : ValidPrefix lineage records)
    (committed : CommittedStore lineage records store) {pageNumbers : List PageNumber}
    {completed : List (CommittedTransactionPageRecoveryOutcome width)}
    {error : CommittedTransactionPagesRecoveryError Empty Empty Empty
      RecoveryStoreError width}
    {final : RecoveryStore width}
    (fails : recoverPages (prefixPorts lineage records) completed pageNumbers store =
      .error error final) :
    CommittedStore lineage records final ∧
      ∃ done pageNumber sourceState target,
        error = .page done pageNumber (.storeWrite sourceState target .writeFailed) := by
  induction pageNumbers generalizing completed store with
  | nil => cases fails
  | cons first rest induction =>
      have recovers := recoverCommittedTransactionPage_recovers valid committed first
      rw [recoverPages_cons] at fails
      cases result :
        recoverCommittedTransactionPage (prefixPorts lineage records) first store with
      | ok outcome middle =>
          rw [result] at fails recovers
          exact induction (recovers.committed committed) fails
      | error reason middle =>
          rw [result] at fails recovers
          cases fails
          refine ⟨recovers.committed committed, ?_⟩
          cases recovers with
          | failedBeforeWrite _ _ _ _ sourceState => exact ⟨_, _, _, _, rfl⟩
          | failedAfterWrite _ _ _ _ sourceState => exact ⟨_, _, _, _, rfl⟩

theorem recoverPages_succeeds (valid : ValidPrefix lineage records)
    (committed : CommittedStore lineage records store)
    (completes : ∀ outcome ∈ store.outcomes, outcome = .completes)
    (pageNumbers : List PageNumber)
    (completed : List (CommittedTransactionPageRecoveryOutcome width)) :
    ∃ outcomes final,
      recoverPages (prefixPorts lineage records) completed pageNumbers store =
      .ok outcomes final := by
  induction pageNumbers generalizing completed store with
  | nil => exact ⟨_, _, rfl⟩
  | cons first rest induction =>
      have recovers := recoverCommittedTransactionPage_recovers valid committed first
      rcases recovers.succeeds completes with ⟨outcome, middle, result⟩
      rw [recoverPages_cons, result]
      rw [result] at recovers
      have still : ∀ outcome ∈ middle.outcomes, outcome = .completes :=
        fun outcome among => completes outcome (recovers.ok.2.2.subset among)
      exact induction (recovers.committed committed) still _

/-- A store that holds every latest image is left alone, whatever its writes
would meet. -/
theorem recoverPages_of_holdsLatest (valid : ValidPrefix lineage records)
    (committed : CommittedStore lineage records store) (holds : HoldsLatest records store)
    (pageNumbers : List PageNumber)
    (completed : List (CommittedTransactionPageRecoveryOutcome width)) :
    ∃ outcomes, recoverPages (prefixPorts lineage records) completed pageNumbers store =
        .ok (completed ++ outcomes) store ∧
      List.Forall₂ (Reports records) pageNumbers outcomes := by
  induction pageNumbers generalizing completed with
  | nil => exact ⟨[], by rw [List.append_nil]; rfl, .nil⟩
  | cons first rest induction =>
      have recovers := recoverCommittedTransactionPage_recovers valid committed first
      rcases recovers.of_isLatestImage valid (holds first) with ⟨outcome, result, reports⟩
      rcases induction (completed ++ [outcome]) with ⟨outcomes, succeeds, reported⟩
      refine ⟨outcome :: outcomes, ?_, .cons reports reported⟩
      rw [recoverPages_cons, result]
      simpa using succeeds

theorem checkInventory_ok {pageNumbers : List PageNumber}
    (increasing : pageNumbers.Pairwise fun earlier later => earlier.get < later.get) :
    (checkInventory pageNumbers :
      Except (CommittedTransactionPagesRecoveryError Empty Empty Empty
        RecoveryStoreError width) Unit) = .ok () := by
  induction pageNumbers with
  | nil => rfl
  | cons first rest induction =>
      rcases List.pairwise_cons.mp increasing with ⟨above, increasing⟩
      cases rest with
      | nil => rfl
      | cons second rest =>
          have advances := above second (List.mem_cons_self ..)
          rw [checkInventory, rejectIf, if_neg (not_le.mpr advances), Except.ok_bind]
          exact induction increasing

theorem recoverPrefix_eq_recoverPages (own : store.lineage = lineage) :
    recoverPrefix lineage records store =
      recoverPages (prefixPorts lineage records) []
        (transactionPageNumbers records) store := by
  have sameLineage : (prefixPorts lineage records).sourceLineage store =
      (prefixPorts lineage records).storeLineage store := own.symm
  rw [recoverPrefix, recoverCommittedTransactionPages, Operation.get_bind,
    Operation.check_rejectIf_bind, if_neg (not_not.mpr sameLineage)]
  have inventory : (prefixPorts lineage records).durableTransactionPageNumbers store =
      .ok (transactionPageNumbers records) := rfl
  rw [inventory, Except.mapError, Operation.check_bind_of_ok rfl,
    Operation.check_bind_of_ok (checkInventory_ok transactionPageNumbers_increasing)]

theorem recoverPrefix_eq (committed : CommittedStore lineage records store) :
    recoverPrefix lineage records store =
      recoverPages (prefixPorts lineage records) []
        (transactionPageNumbers records) store :=
  recoverPrefix_eq_recoverPages committed.own

theorem recoverPrefix_holdsLatest (valid : ValidPrefix lineage records)
    (committed : CommittedStore lineage records store)
    {outcomes : List (CommittedTransactionPageRecoveryOutcome width)}
    {final : RecoveryStore width}
    (succeeds : recoverPrefix lineage records store = .ok outcomes final) :
    CommittedStore lineage records final ∧ HoldsLatest records final := by
  rw [recoverPrefix_eq committed] at succeeds
  rcases recoverPages_ok valid committed succeeds with ⟨after, listed, _⟩
  refine ⟨after, ?_⟩
  intro pageNumber
  by_cases among : pageNumber ∈ transactionPageNumbers records
  · exact listed pageNumber among
  · have none : ownedPages records pageNumber = [] :=
      not_not.mp (mt mem_transactionPageNumbers.mpr among)
    cases stored : final.page pageNumber with
    | none => simp [IsLatestImage, NoneCommitted, none]
    | some image =>
        rcases after.committed pageNumber image stored with ⟨page, isOwned, _⟩
        rw [none] at isOwned
        cases isOwned

theorem HoldsLatest.unique (valid : ValidPrefix lineage records)
    {first second : RecoveryStore width} (isFirst : HoldsLatest records first)
    (isSecond : HoldsLatest records second) :
    first.page = second.page := by
  funext pageNumber
  exact (isFirst pageNumber).unique valid (isSecond pageNumber)

/-- The same store, with other outcomes of its next replacements. -/
def RecoveryStore.meeting (store : RecoveryStore width) (outcomes : List WriteOutcome) :
    RecoveryStore width := { store with outcomes }

theorem CommittedStore.meeting (committed : CommittedStore lineage records store)
    (outcomes : List WriteOutcome) :
      CommittedStore lineage records (store.meeting outcomes) :=
  ⟨committed.own, committed.committed⟩

theorem recoverPrefix_succeeds (valid : ValidPrefix lineage records)
    (committed : CommittedStore lineage records store)
    (completes : ∀ outcome ∈ store.outcomes, outcome = .completes) :
    ∃ outcomes final, recoverPrefix lineage records store = .ok outcomes final := by
  rw [recoverPrefix_eq committed]
  exact recoverPages_succeeds valid committed completes _ _

end Recovery

/-- Recovery leaves every page at its latest committed image. Run again it
writes nothing, whatever a write would meet, and reports each page as current
or as having no committed image. Stopped by a failed write, applied or not, it
can be run again and reaches the store it would have reached. -/
theorem recovery_is_idempotent_and_resumable {lineage : LogLineage}
    {records : List (DurableTransactionRestartObservation width)}
    {store : RecoveryStore width} (valid : ValidPrefix lineage records)
    (committed : CommittedStore lineage records store) :
    (∃ outcomes final, recoverPrefix lineage records (store.meeting []) =
      .ok outcomes final ∧
      HoldsLatest records final ∧
      ∀ met, ∃ reports, recoverPrefix lineage records (final.meeting met) =
          .ok reports (final.meeting met) ∧
        List.Forall₂ (Reports records) (transactionPageNumbers records) reports) ∧
    (∀ outcomes final, recoverPrefix lineage records store = .ok outcomes final →
      HoldsLatest records final) ∧
    ∀ error stopped, recoverPrefix lineage records store = .error error stopped →
      (∃ completed pageNumber sourceState target,
        error = .page completed pageNumber
          (.storeWrite sourceState target .writeFailed)) ∧
      CommittedStore lineage records stopped ∧
      ∃ outcomes final resumedOutcomes resumed,
        recoverPrefix lineage records (store.meeting []) = .ok outcomes final ∧
        recoverPrefix lineage records (stopped.meeting []) = .ok resumedOutcomes resumed ∧
        resumed.page = final.page := by
  have quiet : ∀ other : RecoveryStore width,
      ∀ outcome ∈ (other.meeting []).outcomes, outcome = .completes := by
    intro other outcome among
    cases among
  rcases recoverPrefix_succeeds valid (committed.meeting []) (quiet store) with
    ⟨outcomes, final, succeeds⟩
  rcases recoverPrefix_holdsLatest valid (committed.meeting []) succeeds with
    ⟨after, holds⟩
  refine ⟨⟨outcomes, final, succeeds, holds, ?_⟩, ?_, ?_⟩
  · intro met
    rcases recoverPages_of_holdsLatest valid (after.meeting met) holds
      (transactionPageNumbers records) [] with ⟨reports, again, reported⟩
    exact ⟨reports, by rw [recoverPrefix_eq (after.meeting met)]; exact again, reported⟩
  · intro outcomes final succeeds
    exact (recoverPrefix_holdsLatest valid committed succeeds).2
  · intro error stopped fails
    rw [recoverPrefix_eq committed] at fails
    rcases recoverPages_error valid committed fails with ⟨kept, described⟩
    rcases recoverPrefix_succeeds valid (kept.meeting []) (quiet stopped) with
      ⟨resumedOutcomes, resumed, resumes⟩
    have resumedHolds := (recoverPrefix_holdsLatest valid (kept.meeting []) resumes).2
    exact ⟨described, kept, outcomes, final, resumedOutcomes, resumed, succeeds, resumes,
      resumedHolds.unique valid holds⟩

section Example

/-- A transaction's page of one byte at position one. -/
def firstPage : DurableTransactionPageObservation 1 where
  owner := ⟨NonZeroU64.min, NonZeroU64.min⟩
  page := ⟨NonZeroU64.min, ⟨0⟩, Bytes.singleton 7, ⟨.ephemeral 0, 1⟩, u64_one_ne_zero⟩

def emptyStore (outcomes : List WriteOutcome) : RecoveryStore 1 where
  lineage := .ephemeral 0
  page _ := none
  outcomes := outcomes

theorem emptyStore_committed (records : List (DurableTransactionRestartObservation 1))
    (outcomes : List WriteOutcome) :
    CommittedStore (.ephemeral 0) records (emptyStore outcomes) where
  own := rfl
  committed _ _ isStored := by cases isStored

theorem uncommittedPrefix_valid :
    ValidPrefix (.ephemeral 0) [.transactionPage firstPage] where
  own := by decide
  ordered := by simp
  final := by simp

/-- A page whose transaction has no commit record is reported as having no
committed image, not as current. -/
theorem uncommitted_page_is_not_reported_current :
    ¬∀ (records : List (DurableTransactionRestartObservation 1))
      (store final : RecoveryStore 1)
      (outcomes reports : List (CommittedTransactionPageRecoveryOutcome 1)),
      ValidPrefix (.ephemeral 0) records → CommittedStore (.ephemeral 0) records store →
      recoverPrefix (.ephemeral 0) records store = .ok outcomes final →
      recoverPrefix (.ephemeral 0) records final = .ok reports final →
      ∀ outcome ∈ reports, ∃ target, outcome = .alreadyCurrent target := by
  intro always
  let records : List (DurableTransactionRestartObservation 1) :=
    [.transactionPage firstPage]
  have committed := emptyStore_committed records []
  have numbers : transactionPageNumbers records = [NonZeroU64.min] := by
    simp [transactionPageNumbers, records, DurableTransactionRestartObservation.ownedPage,
      firstPage]
  have holds : HoldsLatest records (emptyStore []) := by
    intro pageNumber page _ commitPosition isCommitted
    cases isCommitted.1
  rcases recoverPages_of_holdsLatest uncommittedPrefix_valid committed holds
    (transactionPageNumbers records) [] with ⟨reports, succeeds, reported⟩
  rw [← recoverPrefix_eq committed, List.nil_append] at succeeds
  rw [numbers] at reported
  cases reported with
  | cons first rest =>
      rcases always records (emptyStore []) (emptyStore []) _ _
        uncommittedPrefix_valid committed
        succeeds succeeds _ (List.mem_cons_self ..) with ⟨target, isCurrent⟩
      subst isCurrent
      cases first with
      | alreadyCurrent latest isLatest => cases isLatest.committed.1

/-! Two pages are committed after the image that the store holds of the first. -/

def olderOwner : DurableTransactionIdentityObservation := ⟨.min, .min⟩

def newerOwner : DurableTransactionIdentityObservation := ⟨.min, ⟨2, u64_two_ne_zero⟩⟩

def olderPage : DurablePageWalObservation 1 :=
  ⟨.min, ⟨0⟩, Bytes.singleton 7, ⟨.ephemeral 0, 1⟩, u64_one_ne_zero⟩

def newerPage : DurablePageWalObservation 1 :=
  ⟨.min, ⟨1⟩, Bytes.singleton 8, ⟨.ephemeral 0, 3⟩, by decide⟩

def otherPage : DurablePageWalObservation 1 :=
  ⟨⟨2, u64_two_ne_zero⟩, ⟨0⟩, Bytes.singleton 9, ⟨.ephemeral 0, 4⟩, by decide⟩

def twoPageRecords : List (DurableTransactionRestartObservation 1) :=
  [.transactionPage ⟨olderOwner, olderPage⟩,
    .commit ⟨olderOwner, ⟨.ephemeral 0, 2⟩, u64_two_ne_zero⟩,
    .transactionPage ⟨newerOwner, newerPage⟩, .transactionPage ⟨newerOwner, otherPage⟩,
    .commit ⟨newerOwner, ⟨.ephemeral 0, 5⟩, by decide⟩]

def olderStore (outcomes : List WriteOutcome) : RecoveryStore 1 :=
  (emptyStore outcomes).put olderPage

def newerTarget (page : DurablePageWalObservation 1) :
    CommittedTransactionPageRecoveryTarget 1 :=
  ownedRecoveryTarget ⟨⟨newerOwner, page⟩, ⟨.ephemeral 0, 5⟩⟩

theorem twoPageRecords_valid : ValidPrefix (.ephemeral 0) twoPageRecords where
  own := by decide
  ordered := by decide
  final := by decide

theorem olderStore_committed (outcomes : List WriteOutcome) :
    CommittedStore (.ephemeral 0) twoPageRecords (olderStore outcomes) where
  own := rfl
  committed pageNumber stored isStored := by
    by_cases first : pageNumber = .min
    · subst first
      cases isStored
      exact ⟨⟨olderOwner, olderPage⟩, by decide, rfl, ⟨.ephemeral 0, 2⟩, rfl, by decide⟩
    · have absent : (olderStore outcomes).page pageNumber = none := if_neg first
      rw [absent] at isStored
      cases isStored

theorem twoPageRecords_numbers :
    transactionPageNumbers twoPageRecords = [.min, otherPage.pageNumber] := by
  have sorted :
      ((twoPageRecords.filterMap (·.ownedPage)).map (·.page.pageNumber)).Pairwise
      fun left right => decide (left.get ≤ right.get) = true := by
    decide
  rw [transactionPageNumbers, List.mergeSort_of_pairwise sorted]
  rfl

theorem olderStore_recovers :
    recoverPrefix (.ephemeral 0) twoPageRecords (olderStore []) =
      .ok [.recovered (newerTarget newerPage), .recovered (newerTarget otherPage)]
        (((olderStore []).advance.put newerPage).advance.put otherPage) := by
  have own : (olderStore []).lineage = .ephemeral 0 := rfl
  rw [recoverPrefix_eq_recoverPages own, twoPageRecords_numbers]
  rfl

theorem olderStore_stops :
    ∃ error, recoverPrefix (.ephemeral 0) twoPageRecords
        (olderStore [.completes, .failsBeforeWrite]) =
      .error error
        ((olderStore [.completes, .failsBeforeWrite]).advance.put newerPage).advance := by
  have own : (olderStore [.completes, .failsBeforeWrite]).lineage = .ephemeral 0 := rfl
  rw [recoverPrefix_eq_recoverPages own, twoPageRecords_numbers]
  exact ⟨_, rfl⟩

/-- Both pages are recovered. Recovery writes nothing when run again, and stopped
at the second page it is resumed to the same store. -/
theorem older_store_recovers :
    let store := olderStore [.completes, .failsBeforeWrite]
    let final := ((olderStore []).advance.put newerPage).advance.put otherPage
    let stopped := (store.advance.put newerPage).advance
    recoverPrefix (.ephemeral 0) twoPageRecords (store.meeting []) =
      .ok [.recovered (newerTarget newerPage), .recovered (newerTarget otherPage)] final ∧
    HoldsLatest twoPageRecords final ∧
    (∃ reports, recoverPrefix (.ephemeral 0) twoPageRecords
      (final.meeting [.failsBeforeWrite]) =
      .ok reports (final.meeting [.failsBeforeWrite])) ∧
    (∃ error, recoverPrefix (.ephemeral 0) twoPageRecords store = .error error stopped) ∧
    ∃ reports resumed, recoverPrefix (.ephemeral 0) twoPageRecords (stopped.meeting []) =
      .ok reports resumed ∧ resumed.page = final.page := by
  intro store final stopped
  rcases recovery_is_idempotent_and_resumable twoPageRecords_valid
    (olderStore_committed [.completes, .failsBeforeWrite]) with
    ⟨⟨outcomes, reached, succeeds, holds, again⟩, _, resumes⟩
  have same : store.meeting [] = olderStore [] := rfl
  cases (olderStore_recovers.symm.trans (same ▸ succeeds) :
    EStateM.Result.ok _ final = .ok outcomes reached)
  rcases olderStore_stops with ⟨error, stops⟩
  rcases resumes error stopped stops with
    ⟨_, _, _, _, reports, resumed, recovers, resumed_ok, pages⟩
  cases (succeeds.symm.trans recovers)
  rcases again [.failsBeforeWrite] with ⟨written, quiet, _⟩
  exact ⟨succeeds, holds, ⟨written, quiet⟩, ⟨error, stops⟩, reports, resumed,
    resumed_ok, pages⟩

end Example

end Ntsql.Transaction
