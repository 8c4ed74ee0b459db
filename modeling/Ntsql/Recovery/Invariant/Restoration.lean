import Ntsql.Recovery.Invariant.Definitions

/-! # What restoration makes of one transaction

Restoration folds the replayed records into one table for all transactions, but
an entry of the table depends only on its own transaction's records. Where a
transaction's pages precede its commit, a replayed commit removes the entry, and
without one the entry is the seed followed by the page positions it lacks. -/

namespace Ntsql.Recovery

variable {model : RecoveryModel}

open RecoveryModel

/-- Positions of the page records of `txn`, in log order. -/
def pagePositions (txn : TransactionId) (records : List WalRecord) : List WalPosition :=
  (records.filter fun record => record.IsPageOf txn).map WalRecord.position

/-- What one replayed record makes of the entry of `txn`. -/
def observed (txn : TransactionId) (listing : Option (List WalPosition))
    (record : WalRecord) :
    Option (List WalPosition) :=
  if record.IsPageOf txn then
    let positions := listing.getD []
    some (if record.position ∈ positions then positions else positions ++
      [record.position])
  else if record.IsCommitOf txn then none
  else listing

/-- The entry of `txn` once `records` are replayed over `listing`. -/
def observedThrough (txn : TransactionId) (listing : Option (List WalPosition))
    (records : List WalRecord) : Option (List WalPosition) :=
  records.foldl (observed txn) listing

theorem mem_pagePositions {txn : TransactionId} {records : List WalRecord}
    {position : WalPosition} :
    position ∈ pagePositions txn records ↔
      ∃ record ∈ records, record.IsPageOf txn ∧ record.position = position := by
  simp only [pagePositions, List.mem_map, List.mem_filter, decide_eq_true_eq, and_assoc]

theorem pagePositions_cons_of_page {txn : TransactionId} {record : WalRecord}
    {records : List WalRecord} (isPage : record.IsPageOf txn) :
    pagePositions txn (record :: records) = record.position :: pagePositions txn
      records := by
  simp [pagePositions, isPage]

/-! ## The table, entry by entry -/

theorem observe_getElem? (restored : RestoredTransactions) (record : WalRecord)
    (txn : TransactionId) :
    (restored.observe record).active[txn]? = observed txn restored.active[txn]?
      record := by
  unfold RestoredTransactions.observe
  split
  · rename_i owner kind isOwner
    by_cases same : owner = txn
    · subst same
      simp [observed, WalRecord.IsPageOf, kind, isOwner, TransactionPositions.observePage]
    · have other : ¬record.IsPageOf txn :=
        fun isPage => same (Option.some.inj (isOwner.symm.trans isPage.2))
      simp [observed, other, WalRecord.IsCommitOf, kind, TransactionPositions.observePage,
        Std.ExtTreeMap.getElem?_insert, same]
  · rename_i owner kind isOwner
    by_cases same : owner = txn
    · subst same
      simp [observed, WalRecord.IsPageOf, WalRecord.IsCommitOf, kind, isOwner]
    · have other : ¬record.IsCommitOf txn :=
        fun isCommit => same (Option.some.inj (isOwner.symm.trans isCommit.2))
      simp [observed, other, WalRecord.IsPageOf, kind, Std.ExtTreeMap.getElem?_erase,
        same]
  · rename_i notPage notCommit
    have pageless : ¬record.IsPageOf txn := fun isPage => notPage txn isPage.1 isPage.2
    have commitless : ¬record.IsCommitOf txn :=
      fun isCommit => notCommit txn isCommit.1 isCommit.2
    simp [observed, pageless, commitless]

theorem foldl_observe_getElem? (restored : RestoredTransactions)
    (records : List WalRecord) (txn : TransactionId) :
    (records.foldl RestoredTransactions.observe restored).active[txn]? =
      observedThrough txn restored.active[txn]? records := by
  induction records generalizing restored with
  | nil => rfl
  | cons record records induction =>
      rw [List.foldl_cons, induction, observe_getElem?]
      rfl

theorem restoredFrom_getElem? (records : List WalRecord) (txn : TransactionId) :
    (model.restoredFrom records).active[txn]? =
      observedThrough txn model.restorationSeed[txn]? records :=
  foldl_observe_getElem? _ records txn

/-! ## Entries in log order -/

section Ordered

variable {txn : TransactionId} {records : List WalRecord}

theorem observedThrough_none (pageless : ∀ record ∈ records, ¬record.IsPageOf txn) :
    observedThrough txn none records = none := by
  induction records with
  | nil => rfl
  | cons record records induction =>
      have unchanged : observed txn none record = none := by
        simp [observed, pageless record List.mem_cons_self]
      change observedThrough txn (observed txn none record) records = none
      rw [unchanged]
      exact induction fun other member =>
        pageless other (List.mem_cons_of_mem record member)

theorem mem_observedThrough {listing : Option (List WalPosition)}
    {positions : List WalPosition}
    (found : observedThrough txn listing records = some positions)
    {position : WalPosition} (member : position ∈ positions) :
    position ∈ listing.getD [] ∨ position ∈ pagePositions txn records := by
  induction records generalizing listing with
  | nil =>
      change listing = some positions at found
      rw [found]
      exact .inl member
  | cons record records induction =>
      rcases induction found with earlier | later
      · unfold observed at earlier
        split at earlier
        · rename_i isPage
          rw [pagePositions_cons_of_page isPage]
          simp only [Option.getD_some] at earlier
          split at earlier
          · exact .inl earlier
          · rcases List.mem_append.mp earlier with seeded | last
            · exact .inl seeded
            · rw [List.mem_singleton.mp last]
              exact .inr List.mem_cons_self
        · split at earlier
          · cases earlier
          · exact .inl earlier
      · rcases mem_pagePositions.mp later with ⟨other, present, isPage, equal⟩
        exact .inr (mem_pagePositions.mpr ⟨other, List.mem_cons_of_mem record present,
          isPage, equal⟩)

end Ordered

end Ntsql.Recovery
