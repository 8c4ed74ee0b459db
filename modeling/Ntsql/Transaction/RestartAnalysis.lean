import Ntsql.Foundation.SortedTable
import Ntsql.Transaction.DurablePrefix

/-! # Restart analysis

The transaction table of a complete durable prefix. Names drop the source's
prefix `DurableTransaction`. -/

namespace Ntsql.Transaction

open OrderedScan SortedTable

variable {width : Nat}

theorem DurableTransactionIdentityObservation.key_injective :
    Function.Injective fun transaction : DurableTransactionIdentityObservation =>
      toLex (transaction.epoch.get, transaction.sequence.get) := by
  intro left right equal
  cases left
  cases right
  simpa [NonZeroU64.get_injective.eq_iff] using equal

/-- Epoch first, then sequence. -/
instance : LinearOrder DurableTransactionIdentityObservation :=
  LinearOrder.lift' _ DurableTransactionIdentityObservation.key_injective

inductive RestartObservationKind where
  | page
  | transactionPage
  | commit
deriving DecidableEq

def DurableTransactionRestartObservation.kind :
    DurableTransactionRestartObservation width → RestartObservationKind
  | .page _ => .page
  | .transactionPage _ => .transactionPage
  | .commit _ => .commit

inductive RestartState where
  | uncommitted
  | committed (commitPosition : LogSequenceNumber)
deriving DecidableEq

def RestartState.commitPosition : RestartState → Option LogSequenceNumber
  | .uncommitted => none
  | .committed commitPosition => some commitPosition

structure RestartEntry where
  transaction : DurableTransactionIdentityObservation
  firstOwnedPagePosition : Option LogSequenceNumber
  lastOwnedPagePosition : Option LogSequenceNumber
  ownedPageRecordCount : Nat
  state : RestartState
deriving DecidableEq

structure RestartAnalysis where
  lineage : LogLineage
  durableFrontier : Option LogSequenceNumber
  transactions : List RestartEntry
deriving DecidableEq

inductive RestartAnalysisEvidenceError where
  | frontierMissing (recordCount : Nat)
  | frontierWithoutRecords (frontier : LogSequenceNumber)
  | foreignFrontier (frontier : LogSequenceNumber)
  | zeroFrontier (frontier : LogSequenceNumber)
  | foreignRecordLineage (index : Nat) (kind : RestartObservationKind)
      (position : LogSequenceNumber)
  | duplicateRecordPosition (previousIndex actualIndex : Nat)
      (kind : RestartObservationKind) (position : LogSequenceNumber)
  | contradictoryRecordPosition (previousIndex : Nat)
      (previousKind : RestartObservationKind)
      (actualIndex : Nat) (actualKind : RestartObservationKind)
      (position : LogSequenceNumber)
  | nonAdvancingRecordPosition (previousIndex : Nat) (previous : LogSequenceNumber)
      (actualIndex : Nat) (actual : LogSequenceNumber)
  | tailFrontierMismatch (frontier tail : LogSequenceNumber)
  | duplicateCommit (transaction : DurableTransactionIdentityObservation)
      (firstCommitPosition duplicateCommitPosition : LogSequenceNumber)
  | pageAfterCommit (transaction : DurableTransactionIdentityObservation)
      (commitPosition pagePosition : LogSequenceNumber)
  | ownedPageCountExhausted (transaction : DurableTransactionIdentityObservation)
deriving DecidableEq

/-! ## The transaction table -/

section Table

variable {ε : Type}

namespace RestartEntry

/-- An owned page of a known transaction. The errors are the caller's. -/
def addOwnedPage (pageAfterCommit : LogSequenceNumber → ε) (ownedPageCountExhausted : ε)
    (pagePosition : LogSequenceNumber) (entry : RestartEntry) : Except ε RestartEntry :=
  match entry.state with
  | .committed commitPosition => .error (pageAfterCommit commitPosition)
  | .uncommitted => do
      let count ← okOr (checkedCount entry.ownedPageRecordCount) ownedPageCountExhausted
      return { entry with
        ownedPageRecordCount := count
        lastOwnedPagePosition := some pagePosition }

def ofOwnedPage (observation : DurableTransactionPageObservation width) :
    RestartEntry where
  transaction := observation.owner
  firstOwnedPagePosition := some observation.position
  lastOwnedPagePosition := some observation.position
  ownedPageRecordCount := 1
  state := .uncommitted

def addCommit (duplicateCommit : LogSequenceNumber → ε)
    (commitPosition : LogSequenceNumber) (entry : RestartEntry) : Except ε RestartEntry :=
  match entry.state with
  | .uncommitted => .ok { entry with state := .committed commitPosition }
  | .committed firstCommitPosition => .error (duplicateCommit firstCommitPosition)

def ofCommit (observation : DurableTransactionCommitObservation) : RestartEntry where
  transaction := observation.transaction
  firstOwnedPagePosition := none
  lastOwnedPagePosition := none
  ownedPageRecordCount := 0
  state := .committed observation.position

theorem addOwnedPage_ok_iff {pageAfterCommit : LogSequenceNumber → ε}
    {ownedPageCountExhausted : ε} {pagePosition : LogSequenceNumber}
    {entry next : RestartEntry} :
    entry.addOwnedPage pageAfterCommit ownedPageCountExhausted pagePosition = .ok next ↔
      entry.state = .uncommitted ∧ entry.ownedPageRecordCount < u64Max ∧
        next = { entry with
          ownedPageRecordCount := entry.ownedPageRecordCount + 1
          lastOwnedPagePosition := some pagePosition } := by
  rw [addOwnedPage]
  split
  · rename_i committed
    simp [committed]
  · rename_i uncommitted
    simp only [Except.bind_ok_iff, okOr_ok_iff, checkedCount_eq_some, Except.pure_ok_iff,
      uncommitted, true_and]
    constructor
    · intro succeeds
      rcases succeeds with ⟨count, ⟨room, rfl⟩, rfl⟩
      exact ⟨room, rfl⟩
    · intro succeeds
      exact ⟨_, ⟨succeeds.1, rfl⟩, succeeds.2.symm⟩

theorem addCommit_ok_iff {duplicateCommit : LogSequenceNumber → ε}
    {commitPosition : LogSequenceNumber} {entry next : RestartEntry} :
    entry.addCommit duplicateCommit commitPosition = .ok next ↔
      entry.state = .uncommitted ∧
        next = { entry with state := .committed commitPosition } := by
  rw [addCommit]
  split
  · rename_i uncommitted
    simp [uncommitted, eq_comm]
  · rename_i committed
    simp [committed]

end RestartEntry

def recordOwnedPage (pageAfterCommit : LogSequenceNumber → ε)
    (ownedPageCountExhausted : ε) (observation : DurableTransactionPageObservation width)
    (transactions : List RestartEntry) :
    Except ε (List RestartEntry) :=
  upsert RestartEntry.transaction observation.owner
    (RestartEntry.addOwnedPage pageAfterCommit ownedPageCountExhausted
      observation.position)
    (RestartEntry.ofOwnedPage observation) transactions

def recordCommit (duplicateCommit : LogSequenceNumber → ε)
    (observation : DurableTransactionCommitObservation)
    (transactions : List RestartEntry) :
    Except ε (List RestartEntry) :=
  upsert RestartEntry.transaction observation.transaction
    (RestartEntry.addCommit duplicateCommit observation.position)
    (RestartEntry.ofCommit observation) transactions

def extendTable
    (pageAfterCommit : DurableTransactionPageObservation width → LogSequenceNumber → ε)
    (ownedPageCountExhausted : DurableTransactionPageObservation width → ε)
    (duplicateCommit : DurableTransactionCommitObservation → LogSequenceNumber → ε)
    (transactions : List RestartEntry) :
    DurableTransactionRestartObservation width → Except ε (List RestartEntry)
  | .page _ => return transactions
  | .transactionPage observation =>
      recordOwnedPage (pageAfterCommit observation) (ownedPageCountExhausted observation)
        observation transactions
  | .commit observation =>
      recordCommit (duplicateCommit observation) observation transactions

end Table

/-! ## The analysis -/

def checkRecordOrder (lineage : LogLineage) :
    Option (DurableTransactionRestartObservation width × Nat) × Unit →
      DurableTransactionRestartObservation width × Nat →
        Except RestartAnalysisEvidenceError
          (Option (DurableTransactionRestartObservation width × Nat) × Unit)
  | (previous, _), (observation, index) => do
      rejectIf (lineage ≠ observation.position.lineage)
        (.foreignRecordLineage index observation.kind observation.position)
      requireAfter (fun item => item.1.position.get) previous (observation, index)
        (fun previous =>
          if observation = previous.1 then
            .duplicateRecordPosition previous.2 index observation.kind
              observation.position
          else
            .contradictoryRecordPosition previous.2 previous.1.kind index observation.kind
              observation.position)
        (fun previous =>
          .nonAdvancingRecordPosition previous.2 previous.1.position index
            observation.position)
      return (some (observation, index), ())

def analyzeRecord : List RestartEntry → DurableTransactionRestartObservation width →
    Except RestartAnalysisEvidenceError (List RestartEntry) :=
  extendTable
    (fun observation commitPosition =>
      .pageAfterCommit observation.owner commitPosition observation.position)
    (fun observation => .ownedPageCountExhausted observation.owner)
    (fun observation firstCommitPosition =>
      .duplicateCommit observation.transaction firstCommitPosition observation.position)

def checkRestartFrontier (lineage : LogLineage) :
    Option LogSequenceNumber → Except RestartAnalysisEvidenceError Unit
  | some frontier => do
      rejectIf (lineage ≠ frontier.lineage) (.foreignFrontier frontier)
      rejectIf (frontier.get = 0) (.zeroFrontier frontier)
  | none => return ()

def analyzeDurableTransactionRestartEvidence (lineage : LogLineage)
    (durableFrontier : Option LogSequenceNumber)
    (observations : List (DurableTransactionRestartObservation width)) :
    Except RestartAnalysisEvidenceError RestartAnalysis := do
  checkRestartFrontier lineage durableFrontier
  match durableFrontier, observations.getLast? with
  | none, some _ => throw (.frontierMissing observations.length)
  | some frontier, none => throw (.frontierWithoutRecords frontier)
  | none, none => return ⟨lineage, none, []⟩
  | some frontier, some last =>
      scan (checkRecordOrder lineage) () observations.zipIdx
      rejectIf (last.position ≠ frontier) (.tailFrontierMismatch frontier last.position)
      let transactions ← observations.foldlM analyzeRecord []
      return ⟨lineage, some frontier, transactions⟩

/-! ## What the records say of a transaction -/

def ownedPositions (records : List (DurableTransactionRestartObservation width))
    (transaction : DurableTransactionIdentityObservation) : List LogSequenceNumber :=
  ((records.filterMap (·.ownedPage)).filter fun page => page.owner = transaction).map
    (·.position)

def commitPosition (records : List (DurableTransactionRestartObservation width))
    (transaction : DurableTransactionIdentityObservation) : Option LogSequenceNumber :=
  (commitPositions (commitRecords records) transaction).head?

def transactionState (records : List (DurableTransactionRestartObservation width))
    (transaction : DurableTransactionIdentityObservation) : RestartState :=
  match commitPosition records transaction with
  | none => .uncommitted
  | some position => .committed position

def entryOf (records : List (DurableTransactionRestartObservation width))
    (transaction : DurableTransactionIdentityObservation) : RestartEntry where
  transaction
  firstOwnedPagePosition := (ownedPositions records transaction).head?
  lastOwnedPagePosition := (ownedPositions records transaction).getLast?
  ownedPageRecordCount := (ownedPositions records transaction).length
  state := transactionState records transaction

def transactionEntry (records : List (DurableTransactionRestartObservation width))
    (transaction : DurableTransactionIdentityObservation) : Option RestartEntry :=
  if ownedPositions records transaction = [] ∧
      commitPosition records transaction = none then none
  else some (entryOf records transaction)

abbrev TableOf (records : List (DurableTransactionRestartObservation width))
    (transactions : List RestartEntry) : Prop :=
  Describes RestartEntry.transaction (transactionEntry records) transactions

section Records

variable {records : List (DurableTransactionRestartObservation width)}

@[simp] theorem ownedPositions_append (first second :
    List (DurableTransactionRestartObservation width))
    (transaction : DurableTransactionIdentityObservation) :
    ownedPositions (first ++ second) transaction =
      ownedPositions first transaction ++ ownedPositions second transaction := by
  simp [ownedPositions]

@[simp] theorem ownedPositions_page (page : DurablePageWalObservation width)
    (transaction : DurableTransactionIdentityObservation) :
    ownedPositions [.page page] transaction = [] := rfl

@[simp] theorem ownedPositions_commit (commit : DurableTransactionCommitObservation)
    (transaction : DurableTransactionIdentityObservation) :
    ownedPositions [(.commit commit : DurableTransactionRestartObservation width)]
      transaction = [] := rfl

theorem ownedPositions_transactionPage (page : DurableTransactionPageObservation width)
    (transaction : DurableTransactionIdentityObservation) :
    ownedPositions [.transactionPage page] transaction =
      if page.owner = transaction then [page.position] else [] := by
  by_cases owned : page.owner = transaction <;>
    simp [ownedPositions, DurableTransactionRestartObservation.ownedPage, owned]

@[simp] theorem commitPosition_append (first second :
    List (DurableTransactionRestartObservation width))
    (transaction : DurableTransactionIdentityObservation) :
    commitPosition (first ++ second) transaction =
      (commitPosition first transaction).or (commitPosition second transaction) := by
  simp [commitPosition, commitPositions, commitRecords, List.head?_append]

@[simp] theorem commitPosition_page (page : DurablePageWalObservation width)
    (transaction : DurableTransactionIdentityObservation) :
    commitPosition [.page page] transaction = none := rfl

@[simp] theorem commitPosition_transactionPage
    (page : DurableTransactionPageObservation width)
    (transaction : DurableTransactionIdentityObservation) :
    commitPosition [.transactionPage page] transaction = none := rfl

theorem commitPosition_commit (commit : DurableTransactionCommitObservation)
    (transaction : DurableTransactionIdentityObservation) :
    commitPosition [(.commit commit : DurableTransactionRestartObservation width)]
      transaction =
      if commit.transaction = transaction then some commit.position else none := by
  by_cases owned : commit.transaction = transaction <;>
    simp [commitPosition, commitPositions, commitRecords,
      DurableTransactionRestartObservation.commitRecord, owned]

theorem commitPosition_eq_none {transaction : DurableTransactionIdentityObservation} :
    commitPosition records transaction = none ↔
      ∀ record ∈ records, ∀ commit ∈ record.commitRecord,
        commit.transaction ≠ transaction := by
  simp only [commitPosition, commitPositions, commitRecords, List.head?_eq_none_iff,
    List.map_eq_nil_iff, List.filter_eq_nil_iff, List.mem_filterMap, decide_eq_true_eq,
    Option.mem_def]
  constructor
  · intro missing record among commit isCommit
    exact missing commit ⟨record, among, isCommit⟩
  · intro missing commit found
    rcases found with ⟨record, among, isCommit⟩
    exact missing record among commit isCommit

theorem transactionEntry_page (page : DurablePageWalObservation width) :
    transactionEntry (records ++ [.page page]) = transactionEntry records := by
  funext transaction
  simp [transactionEntry, entryOf, transactionState]

theorem transactionEntry_transactionPage
    (page : DurableTransactionPageObservation width) :
    transactionEntry (records ++ [.transactionPage page]) =
      Function.update (transactionEntry records) page.owner (some
        { transaction := page.owner
          firstOwnedPagePosition :=
            ((ownedPositions records page.owner).head?).or (some page.position)
          lastOwnedPagePosition := some page.position
          ownedPageRecordCount := (ownedPositions records page.owner).length + 1
          state := transactionState records page.owner }) := by
  funext transaction
  by_cases owned : transaction = page.owner
  · subst owned
    simp [transactionEntry, entryOf, transactionState, ownedPositions_transactionPage,
      List.head?_append]
  · rw [Function.update_of_ne owned]
    simp [transactionEntry, entryOf, transactionState, ownedPositions_transactionPage,
      Ne.symm owned]

theorem transactionEntry_commit (commit : DurableTransactionCommitObservation) :
    transactionEntry (records ++ [.commit commit]) =
      Function.update (transactionEntry records) commit.transaction (some
        { transaction := commit.transaction
          firstOwnedPagePosition := (ownedPositions records commit.transaction).head?
          lastOwnedPagePosition := (ownedPositions records commit.transaction).getLast?
          ownedPageRecordCount := (ownedPositions records commit.transaction).length
          state := .committed
            ((commitPosition records commit.transaction).getD commit.position) }) := by
  funext transaction
  by_cases owned : transaction = commit.transaction
  · subst owned
    cases committed : commitPosition records commit.transaction <;>
      simp [transactionEntry, entryOf, transactionState, commitPosition_commit, committed]
  · rw [Function.update_of_ne owned]
    simp [transactionEntry, entryOf, transactionState, commitPosition_commit,
      Ne.symm owned]

/-! ## Each step keeps the table that of the records -/

variable {ε : Type} {transactions next : List RestartEntry}

theorem recordOwnedPage_ok_iff (table : TableOf records transactions)
    (pageAfterCommit : LogSequenceNumber → ε) (ownedPageCountExhausted : ε)
    (page : DurableTransactionPageObservation width)
    (room : (ownedPositions records page.owner).length < u64Max) :
    recordOwnedPage pageAfterCommit ownedPageCountExhausted page transactions = .ok next ↔
      commitPosition records page.owner = none ∧
        TableOf (records ++ [.transactionPage page]) next := by
  have keeps :
      ∀ entry changed, RestartEntry.addOwnedPage pageAfterCommit ownedPageCountExhausted
      page.position entry = .ok changed → changed.transaction = entry.transaction := by
    intro entry changed succeeds
    rw [(RestartEntry.addOwnedPage_ok_iff.mp succeeds).2.2]
  have owner : (RestartEntry.ofOwnedPage page).transaction = page.owner := rfl
  rw [recordOwnedPage, table.upsert_ok_iff owner keeps, TableOf,
    transactionEntry_transactionPage]
  by_cases fresh : ownedPositions records page.owner = [] ∧
      commitPosition records page.owner = none
  · simp [transactionEntry, fresh, transactionState, RestartEntry.ofOwnedPage]
  · rw [transactionEntry, if_neg fresh, Option.elim_some, entryOf]
    simp only [RestartEntry.addOwnedPage_ok_iff, room, true_and]
    cases committed : commitPosition records page.owner with
    | some position => simp [transactionState, committed]
    | none =>
        have first : ((ownedPositions records page.owner).head?).or (some page.position) =
            (ownedPositions records page.owner).head? := by
          cases owned : ownedPositions records page.owner with
          | nil => exact absurd ⟨owned, committed⟩ fresh
          | cons position rest => rfl
        simp [transactionState, committed, first]

theorem recordCommit_ok_iff (table : TableOf records transactions)
    (duplicateCommit : LogSequenceNumber → ε)
    (commit : DurableTransactionCommitObservation) :
    recordCommit duplicateCommit commit transactions = .ok next ↔
      commitPosition records commit.transaction = none ∧
        TableOf (records ++ [.commit commit]) next := by
  have keeps :
      ∀ entry changed, RestartEntry.addCommit duplicateCommit commit.position entry =
      .ok changed → changed.transaction = entry.transaction := by
    intro entry changed succeeds
    rw [(RestartEntry.addCommit_ok_iff.mp succeeds).2]
  have owner : (RestartEntry.ofCommit commit).transaction = commit.transaction := rfl
  rw [recordCommit, table.upsert_ok_iff owner keeps, TableOf, transactionEntry_commit]
  by_cases fresh : ownedPositions records commit.transaction = [] ∧
      commitPosition records commit.transaction = none
  · simp [transactionEntry, fresh, RestartEntry.ofCommit]
  · rw [transactionEntry, if_neg fresh, Option.elim_some, entryOf]
    simp only [RestartEntry.addCommit_ok_iff]
    cases committed : commitPosition records commit.transaction <;>
      simp [transactionState, committed]

/-- The record's transaction has no commit yet. -/
def Extends (records : List (DurableTransactionRestartObservation width))
    (record : DurableTransactionRestartObservation width) : Prop :=
  ∀ transaction ∈ record.owner, commitPosition records transaction = none

theorem extends_iff {record : DurableTransactionRestartObservation width} :
    Extends records record ↔ ∀ earlier ∈ records, ∀ commit ∈ earlier.commitRecord,
      record.owner ≠ some commit.transaction := by
  simp only [Extends, commitPosition_eq_none]
  constructor
  · intro fresh earlier among commit isCommit owned
    exact fresh commit.transaction owned earlier among commit isCommit rfl
  · intro fresh transaction owned earlier among commit isCommit same
    exact fresh earlier among commit isCommit (same ▸ owned)

theorem ownedPositions_length_le (transaction : DurableTransactionIdentityObservation) :
    (ownedPositions records transaction).length ≤ records.length := by
  rw [ownedPositions, List.length_map]
  exact (List.length_filter_le _ _).trans (List.length_filterMap_le _ _)

section Extend

variable
  (pageAfterCommit : DurableTransactionPageObservation width → LogSequenceNumber → ε)
  (ownedPageCountExhausted : DurableTransactionPageObservation width → ε)
  (duplicateCommit : DurableTransactionCommitObservation → LogSequenceNumber → ε)

theorem extendTable_ok_iff (table : TableOf records transactions)
    (record : DurableTransactionRestartObservation width)
    (room : records.length < u64Max) :
    extendTable pageAfterCommit ownedPageCountExhausted duplicateCommit
      transactions record = .ok next ↔
      Extends records record ∧ TableOf (records ++ [record]) next := by
  cases record with
  | page page =>
      simp only [extendTable, Except.pure_ok_iff, Extends,
        DurableTransactionRestartObservation.owner, Option.not_mem_none, false_implies,
        implies_true, true_and, TableOf, transactionEntry_page]
      constructor
      · intro same
        exact same ▸ table
      · intro described
        exact table.unique described
  | transactionPage page =>
      have roomForOwner := (ownedPositions_length_le page.owner).trans_lt room
      rw [extendTable, recordOwnedPage_ok_iff table _ _ page roomForOwner]
      simp [Extends, DurableTransactionRestartObservation.owner]
  | commit commit =>
      rw [extendTable, recordCommit_ok_iff table]
      simp [Extends, DurableTransactionRestartObservation.owner]

theorem exists_tableOf (records : List (DurableTransactionRestartObservation width)) :
    ∃ transactions, TableOf records transactions := by
  induction records using List.reverseRecOn with
  | nil => exact ⟨[], Describes.nil⟩
  | append_singleton records record induction =>
      rcases induction with ⟨transactions, table⟩
      cases record with
      | page page =>
          simp only [TableOf, transactionEntry_page]
          exact ⟨transactions, table⟩
      | transactionPage page =>
          simp only [TableOf, transactionEntry_transactionPage]
          exact table.exists_update rfl
      | commit commit =>
          simp only [TableOf, transactionEntry_commit]
          exact table.exists_update rfl

theorem foldlM_extendTable_ok_iff
    (rest : List (DurableTransactionRestartObservation width))
    (table : TableOf records transactions)
    (final : records.Pairwise fun earlier later =>
      ∀ commit ∈ earlier.commitRecord, later.owner ≠ some commit.transaction)
    (room : (records ++ rest).length ≤ u64Max) :
    rest.foldlM (extendTable pageAfterCommit ownedPageCountExhausted duplicateCommit)
        transactions = .ok next ↔
      ((records ++ rest).Pairwise fun earlier later =>
        ∀ commit ∈ earlier.commitRecord, later.owner ≠ some commit.transaction) ∧
        TableOf (records ++ rest) next := by
  induction rest generalizing records transactions with
  | nil =>
      rw [List.append_nil, List.foldlM_nil, Except.pure_ok_iff]
      constructor
      · intro same
        exact ⟨final, same ▸ table⟩
      · intro holds
        exact table.unique holds.2
  | cons record rest induction =>
      have split : records ++ record :: rest = (records ++ [record]) ++ rest := by simp
      have roomHere : records.length < u64Max := by
        rw [List.length_append, List.length_cons] at room
        omega
      rw [List.foldlM_cons, Except.bind_ok_iff]
      simp only [extendTable_ok_iff _ _ _ table record roomHere]
      constructor
      · intro succeeds
        rcases succeeds with ⟨middle, ⟨fresh, table⟩, succeeds⟩
        have extended :=
          List.pairwise_append.mpr ⟨final, List.pairwise_singleton _ record,
          fun earlier among later isRecord =>
            List.mem_singleton.mp isRecord ▸ extends_iff.mp fresh earlier among⟩
        rw [split]
        exact (induction table extended (split ▸ room)).mp succeeds
      · intro holds
        rw [split] at holds
        have extended := (List.pairwise_append.mp holds.1).1
        have fresh : Extends records record := extends_iff.mpr fun earlier among =>
          (List.pairwise_append.mp extended).2.2 earlier among record List.mem_cons_self
        rcases exists_tableOf (records ++ [record]) with ⟨middle, table⟩
        exact ⟨middle, ⟨fresh, table⟩,
          (induction table extended (split ▸ room)).mpr holds⟩

end Extend

/-! ## The analysis accepts exactly the valid prefixes -/

theorem DurableTransactionRestartObservation.position_ne_zero
    (record : DurableTransactionRestartObservation width) : record.position.get ≠ 0 := by
  cases record with
  | page page => exact page.position_ne_zero
  | transactionPage owned => exact owned.page.position_ne_zero
  | commit commit => exact commit.position_ne_zero

variable {lineage : LogLineage}

/-- Positions are nonzero 64-bit integers, and each record has its own. -/
theorem ordered_length_le
    (ordered : records.Pairwise fun earlier later =>
      earlier.position.get < later.position.get) :
    records.length ≤ u64Max := by
  have positions : ((0 : U64) :: records.map (·.position.get)).Nodup := by
    refine List.nodup_cons.mpr ⟨?_, ?_⟩
    · intro isZero
      rcases List.mem_map.mp isZero with ⟨record, _, zero⟩
      exact record.position_ne_zero zero
    · exact List.pairwise_map.mpr (ordered.imp ne_of_lt)
  have bound := positions.length_le_card
  rw [Fintype.card_fin, List.length_cons, List.length_map] at bound
  rw [u64Max]
  omega

theorem ValidPrefix.length_le (valid : ValidPrefix lineage records) :
    records.length ≤ u64Max :=
  ordered_length_le valid.ordered

theorem checkRecordOrder_accepts (lineage : LogLineage) :
    Accepts
      (fun item : DurableTransactionRestartObservation width × Nat =>
        item.1.position.lineage = lineage)
      (fun earlier later => earlier.1.position.get < later.1.position.get)
      (fun _ _ => some ()) (checkRecordOrder lineage) := by
  intro previous kept item next
  simp only [checkRecordOrder, Except.bind_ok_iff, rejectIf_ok_iff, requireAfter_ok_iff,
    Except.pure_ok_iff, not_not]
  grind

theorem scan_checkRecordOrder_ok_iff (value : Unit) :
    scan (checkRecordOrder lineage) () records.zipIdx = .ok value ↔
      (∀ record ∈ records, record.position.lineage = lineage) ∧
        records.Pairwise fun earlier later =>
          earlier.position.get < later.position.get := by
  have unzipped : records.zipIdx.map Prod.fst = records := List.zipIdx_map_fst 0 records
  have keeps : ∀ items : List (DurableTransactionRestartObservation width × Nat),
      items.foldlM (fun _ _ => some ()) () = some value := by
    intro items
    induction items with
    | nil => rfl
    | cons item items induction => exact induction
  rw [scan_ok_iff (checkRecordOrder_accepts lineage), and_iff_left (keeps _)]
  conv_rhs => rw [← unzipped, List.forall_mem_map, List.pairwise_map]

/-- The analysis accepts exactly the valid prefixes, at their frontiers, and its
table is that of the records. -/
theorem analyzeDurableTransactionRestartEvidence_ok_iff
    {durableFrontier : Option LogSequenceNumber} {analysis : RestartAnalysis} :
    analyzeDurableTransactionRestartEvidence lineage durableFrontier records =
      .ok analysis ↔
      ValidPrefix lineage records ∧ durableFrontier = records.getLast?.map (·.position) ∧
        analysis.lineage = lineage ∧ analysis.durableFrontier = durableFrontier ∧
        TableOf records analysis.transactions := by
  cases last : records.getLast? with
  | none =>
      have empty := List.getLast?_eq_none_iff.mp last
      subst empty
      cases durableFrontier with
      | none =>
          constructor
          · intro analyzed
            cases analyzed
            exact ⟨⟨by simp, .nil, .nil⟩, rfl, rfl, rfl, Describes.nil⟩
          · intro holds
            rcases analysis with ⟨ownLineage, frontier, transactions⟩
            rcases holds with ⟨_, _, rfl, rfl, table⟩
            have none := table.unique Describes.nil
            simp only at none
            subst none
            rfl
      | some frontier =>
          simp [analyzeDurableTransactionRestartEvidence, Except.bind_ok_iff, throw,
            throwThe, MonadExceptOf.throw]
  | some record =>
      have among := List.mem_of_getLast? last
      cases durableFrontier with
      | none =>
          simp [analyzeDurableTransactionRestartEvidence, Except.bind_ok_iff, throw,
            throwThe, MonadExceptOf.throw, last]
      | some frontier =>
          simp only [analyzeDurableTransactionRestartEvidence, checkRestartFrontier,
            Except.bind_ok_iff, rejectIf_ok_iff, last, scan_checkRecordOrder_ok_iff,
            Except.pure_ok_iff, not_not, Option.map_some, Option.some.injEq]
          constructor
          · intro analyzed
            rcases analyzed with
              ⟨_, _, _, ⟨own, ordered⟩, _, tail, transactions, folded, rfl⟩
            have short := ordered_length_le ordered
            have final :=
              (foldlM_extendTable_ok_iff _ _ _ records Describes.nil .nil short).mp folded
            exact ⟨⟨own, ordered, final.1⟩, tail.symm, rfl, rfl, final.2⟩
          · intro holds
            rcases analysis with ⟨ownLineage, ownFrontier, transactions⟩
            rcases holds with ⟨valid, rfl, rfl, rfl, table⟩
            have folded : records.foldlM analyzeRecord [] = .ok transactions :=
              (foldlM_extendTable_ok_iff _ _ _ records Describes.nil .nil
                valid.length_le).mpr ⟨valid.final, table⟩
            exact ⟨(), ⟨(), (valid.own record among).symm, record.position_ne_zero⟩, (),
              ⟨valid.own, valid.ordered⟩, (), rfl, transactions, folded, rfl⟩

end Records

end Ntsql.Transaction
