import Ntsql.Transaction.CheckpointDerivation

/-! # Growth of a durable prefix

What the records after a boundary may add to the transactions of those before
it: nothing to the committed ones, and only later positions to the others. -/

namespace Ntsql.Transaction

open SortedTable

variable {width : Nat} {lineage : LogLineage}
  {selected rest records : List (DurableTransactionRestartObservation width)}
  {transaction : DurableTransactionIdentityObservation} {position : LogSequenceNumber}

/-! ## Positions are those of records -/

theorem mem_ownedPositions :
    position ∈ ownedPositions records transaction ↔
      ∃ page, .transactionPage page ∈ records ∧ page.owner = transaction ∧
        page.position = position := by
  simp only [ownedPositions, List.mem_map, List.mem_filter, List.mem_filterMap,
    decide_eq_true_eq]
  constructor
  · intro found
    rcases found with ⟨page, ⟨⟨record, among, isOwned⟩, owner⟩, here⟩
    cases record <;> cases isOwned
    exact ⟨_, among, owner, here⟩
  · intro found
    rcases found with ⟨page, among, owner, here⟩
    exact ⟨page, ⟨⟨_, among, rfl⟩, owner⟩, here⟩

theorem exists_commit (committed : commitPosition records transaction = some position) :
    ∃ commit, .commit commit ∈ records ∧ commit.transaction = transaction ∧
      commit.position = position := by
  have among := List.mem_of_mem_head? committed
  rcases mem_commitPositions.mp among with ⟨commit, isCommit, owner, here⟩
  exact ⟨commit, mem_commitRecords.mp isCommit, owner, here⟩

@[simp] theorem commitPosition_transactionState (records :
    List (DurableTransactionRestartObservation width))
    (transaction : DurableTransactionIdentityObservation) :
    (transactionState records transaction).commitPosition =
      commitPosition records transaction := by
  rw [transactionState]
  cases commitPosition records transaction <;> rfl

theorem exists_owner (entry : transactionEntry records transaction ≠ none) :
    ∃ record ∈ records, record.owner = some transaction := by
  rcases Option.ne_none_iff_exists'.mp entry with ⟨row, found⟩
  rcases (transactionEntry_eq_some.mp found).1 with owned | committed
  · rcases List.exists_mem_of_ne_nil _ owned with ⟨position, among⟩
    rcases mem_ownedPositions.mp among with ⟨page, isRecord, owner, _⟩
    exact ⟨.transactionPage page, isRecord, congrArg some owner⟩
  · rcases Option.ne_none_iff_exists'.mp committed with ⟨position, isPosition⟩
    rcases exists_commit isPosition with ⟨commit, isRecord, owner, _⟩
    exact ⟨.commit commit, isRecord, congrArg some owner⟩

theorem transactionEntry_of_owner {record : DurableTransactionRestartObservation width}
    (among : record ∈ records) (owner : record.owner = some transaction) :
    transactionEntry records transaction = some (entryOf records transaction) := by
  refine transactionEntry_eq_some.mpr ⟨?_, rfl⟩
  cases record with
  | page page => cases owner
  | transactionPage page =>
      left
      exact List.ne_nil_of_mem
        (mem_ownedPositions.mpr ⟨page, among, Option.some.inj owner, rfl⟩)
  | commit commit =>
      right
      intro absent
      exact commitPosition_eq_none.mp absent _ among commit rfl (Option.some.inj owner)

/-! ## Positions of a valid prefix -/

theorem ValidPrefix.owned_lineage (valid : ValidPrefix lineage records)
    (among : position ∈ ownedPositions records transaction) :
      position.lineage = lineage := by
  rcases mem_ownedPositions.mp among with ⟨page, isRecord, _, rfl⟩
  exact valid.own _ isRecord

theorem ValidPrefix.commit_lineage (valid : ValidPrefix lineage records)
    (committed : commitPosition records transaction = some position) :
    position.lineage = lineage := by
  rcases exists_commit committed with ⟨commit, isRecord, _, rfl⟩
  exact valid.own _ isRecord

theorem ValidPrefix.ownedPositions_ordered (valid : ValidPrefix lineage records)
    (transaction : DurableTransactionIdentityObservation) :
    (ownedPositions records transaction).Pairwise fun earlier later =>
      earlier.get < later.get := by
  rw [ownedPositions, List.pairwise_map]
  apply List.Pairwise.filter
  rw [List.pairwise_filterMap]
  apply valid.ordered.imp
  intro earlier later before first isFirst second isSecond
  cases earlier <;> cases isFirst
  cases later <;> cases isSecond
  exact before

theorem ValidPrefix.owned_in_range (valid : ValidPrefix lineage records)
    (among : position ∈ ownedPositions records transaction) :
    ∃ first last, (ownedPositions records transaction).head? = some first ∧
      (ownedPositions records transaction).getLast? = some last ∧
      first.get ≤ position.get ∧ position.get ≤ last.get := by
  have ordered := valid.ownedPositions_ordered transaction
  generalize ownedPositions records transaction = positions at among ordered
  cases positions with
  | nil => simp at among
  | cons first others =>
      refine ⟨first, (first :: others).getLast (by simp), rfl,
        List.getLast?_eq_getLast_of_ne_nil _, ?_, ?_⟩
      · rcases List.mem_cons.mp among with rfl | later
        · exact le_rfl
        · exact ((List.pairwise_cons.mp ordered).1 position later).le
      · rcases List.eq_nil_or_concat (first :: others) with empty | ⟨front, last, split⟩
        · cases empty
        · simp only [split, List.concat_eq_append, List.getLast_append_singleton]
            at among ordered ⊢
          rcases List.mem_append.mp among with before | here
          · exact ((List.pairwise_append.mp ordered).2.2 position before last
              List.mem_cons_self).le
          · rw [List.mem_singleton.mp here]

theorem ValidPrefix.commitPosition_eq (valid : ValidPrefix lineage records)
    {commit : DurableTransactionCommitObservation} (isRecord : .commit commit ∈ records) :
    commitPosition records commit.transaction = some commit.position := by
  have among :
      commit.position ∈ commitPositions (commitRecords records) commit.transaction :=
    mem_commitPositions.mpr ⟨commit, mem_commitRecords.mpr isRecord, rfl, rfl⟩
  have single := valid.commitPositions_le_one commit.transaction
  rw [commitPosition]
  generalize commitPositions (commitRecords records) commit.transaction = positions
    at among single
  cases positions with
  | nil => simp at among
  | cons first others =>
      rw [List.length_cons] at single
      rw [List.length_eq_zero_iff.mp (by omega : others.length = 0)] at among
      rw [List.mem_singleton.mp among]
      rfl

/-! ## Across the boundary -/

section Boundary

variable {frontier : LogSequenceNumber} (valid : ValidPrefix lineage (selected ++ rest))

include valid

theorem ValidPrefix.settledAfter
    (committed : commitPosition selected transaction ≠ none) :
    ownedPositions rest transaction = [] ∧ commitPosition rest transaction = none := by
  rcases Option.ne_none_iff_exists'.mp committed with ⟨position, isPosition⟩
  rcases exists_commit isPosition with ⟨commit, isRecord, owner, _⟩
  have apart := (List.pairwise_append.mp valid.final).2.2 _ isRecord
  constructor
  · by_contra owned
    rcases List.exists_mem_of_ne_nil _ owned with ⟨position, among⟩
    rcases mem_ownedPositions.mp among with ⟨page, isPage, pageOwner, _⟩
    exact apart _ isPage commit rfl (congrArg some (pageOwner.trans owner.symm))
  · refine commitPosition_eq_none.mpr fun record among other isCommit same => ?_
    cases record <;> cases isCommit
    exact apart _ among commit rfl (congrArg some (same.trans owner.symm))

variable (boundary : lastPosition selected = some frontier)

include boundary

theorem ValidPrefix.position_le_frontier
    {record : DurableTransactionRestartObservation width}
    (among : record ∈ selected) : record.position.get ≤ frontier.get := by
  rcases Option.map_eq_some_iff.mp boundary with ⟨last, isLast, rfl⟩
  exact valid.append_left.position_le_last among isLast

theorem ValidPrefix.frontier_lt_position
    {record : DurableTransactionRestartObservation width}
    (among : record ∈ rest) : frontier.get < record.position.get := by
  rcases Option.map_eq_some_iff.mp boundary with ⟨last, isLast, rfl⟩
  exact (List.pairwise_append.mp valid.ordered).2.2 last (List.mem_of_getLast? isLast)
    record among

theorem ValidPrefix.owned_le_frontier
    (among : position ∈ ownedPositions selected transaction) :
    position.get ≤ frontier.get := by
  rcases mem_ownedPositions.mp among with ⟨page, isRecord, _, rfl⟩
  exact valid.position_le_frontier boundary isRecord

theorem ValidPrefix.frontier_lt_owned
    (among : position ∈ ownedPositions rest transaction) :
    frontier.get < position.get := by
  rcases mem_ownedPositions.mp among with ⟨page, isRecord, _, rfl⟩
  exact valid.frontier_lt_position boundary isRecord

theorem ValidPrefix.commit_le_frontier
    (committed : commitPosition selected transaction = some position) :
    position.get ≤ frontier.get := by
  rcases exists_commit committed with ⟨commit, isRecord, _, rfl⟩
  exact valid.position_le_frontier boundary isRecord

theorem ValidPrefix.frontier_lt_commit
    (committed : commitPosition rest transaction = some position) :
    frontier.get < position.get := by
  rcases exists_commit committed with ⟨commit, isRecord, _, rfl⟩
  exact valid.frontier_lt_position boundary isRecord

end Boundary

end Ntsql.Transaction
