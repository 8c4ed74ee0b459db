import Ntsql.Recovery.Trace

/-! # Bounds of a trace

A validation counts with 64-bit counters that cannot overflow before the number
of operations is refused, so it decides plain bounds on what a trace holds. -/

namespace Ntsql.Recovery

namespace TraceOp

def isBegin : TraceOp → Bool
  | .beginTransaction => true
  | _ => false

def isCrash : TraceOp → Bool
  | .crash => true
  | _ => false

def publishes : TraceOp → Bool
  | .publishCheckpoint _ => true
  | _ => false

def page? : TraceOp → Option U64
  | .appendTransactionPage _ pageId _ _ => some pageId
  | .appendRawPage pageId _ _ => some pageId
  | .liveMutationAfterComplete pageId _ _ => some pageId
  | _ => none

def appendsRecord (op : TraceOp) : Bool :=
  op.page?.isSome || match op with
    | .appendTransactionCommit _ => true
    | _ => false

end TraceOp

def transactionsIn (ops : List TraceOp) : Nat := ops.countP TraceOp.isBegin

def crashesIn (ops : List TraceOp) : Nat := ops.countP TraceOp.isCrash

def pagesIn (ops : List TraceOp) : Finset U64 := (ops.filterMap TraceOp.page?).toFinset

def recordsIn (ops : List TraceOp) : Nat := ops.countP TraceOp.appendsRecord

/-- The records since the latest publication, once there was one. -/
def pendingStep (pending : Option Nat) (op : TraceOp) : Option Nat :=
  if op.publishes then some 0
  else pending.map fun count => if op.appendsRecord then count + 1 else count

def pendingAfter (ops : List TraceOp) : Option Nat := ops.foldl pendingStep none

theorem pendingAfter_append (front back : List TraceOp) :
    pendingAfter (front ++ back) = back.foldl pendingStep (pendingAfter front) :=
  List.foldl_append

/-! ## Between publications -/

theorem foldl_pendingStep {segment : List TraceOp}
    (silent : ∀ op ∈ segment, op.publishes = false) (pending : Option Nat) :
    segment.foldl pendingStep pending = pending.map (· + recordsIn segment) := by
  induction segment generalizing pending with
  | nil => cases pending <;> rfl
  | cons op segment induction =>
      have rest :=
        induction fun other member => silent other (List.mem_cons_of_mem op member)
      rw [List.foldl_cons, rest, pendingStep, silent op List.mem_cons_self, recordsIn,
        recordsIn, List.countP_cons]
      cases pending with
      | none => rfl
      | some count =>
          cases op.appendsRecord
          · rfl
          · simp only [Bool.false_eq_true, if_false, if_true, Option.map_some,
              Option.some.injEq]
            omega

theorem pendingAfter_segment {front segment : List TraceOp} {anchor : CheckpointAnchor}
    (silent : ∀ op ∈ segment, op.publishes = false) :
    pendingAfter (front ++ .publishCheckpoint anchor :: segment) =
      some (recordsIn segment) := by
  rw [pendingAfter_append, List.foldl_cons, foldl_pendingStep silent, pendingStep]
  simp [TraceOp.publishes]

theorem exists_segment {ops : List TraceOp} {count : Nat}
    (pending : pendingAfter ops = some count) :
    ∃ front anchor segment, ops = front ++ .publishCheckpoint anchor :: segment ∧
      (∀ op ∈ segment, op.publishes = false) ∧ recordsIn segment = count := by
  induction ops using List.reverseRecOn generalizing count with
  | nil => cases pending
  | append_singleton ops op induction =>
      rw [pendingAfter_append, List.foldl_cons, List.foldl_nil, pendingStep] at pending
      cases publishes : op.publishes with
      | true =>
          rw [publishes, if_pos rfl] at pending
          cases pending
          cases op with
          | publishCheckpoint anchor => exact ⟨ops, anchor, [], rfl, nofun, rfl⟩
          | _ => cases publishes
      | false =>
          rw [publishes, if_neg Bool.false_ne_true] at pending
          rcases Option.map_eq_some_iff.mp pending with ⟨earlier, isEarlier, rfl⟩
          rcases induction isEarlier with ⟨front, anchor, segment, rfl, silent, counted⟩
          refine ⟨front, anchor, segment ++ [op], by simp, ?_, ?_⟩
          · intro other member
            rcases List.mem_append.mp member with inside | last
            · exact silent other inside
            · rw [List.mem_singleton.mp last, publishes]
          · rw [recordsIn, List.countP_append, ← recordsIn, counted,
              List.countP_singleton]
            cases op.appendsRecord <;> rfl

/-! ## What a validation counts -/

/-- `counts` are those of the operations so far. -/
structure TraceCounts.Describes (counts : TraceCounts) (ops : List TraceOp) : Prop where
  transactions : counts.transactions.val = transactionsIn ops
  crashes : counts.crashes.val = crashesIn ops
  pages : counts.pages = pagesIn ops
  seen : counts.checkpointSeen = (pendingAfter ops).isSome
  records : counts.postCheckpointRecords.val = (pendingAfter ops).getD 0

theorem pendingAfter_le (ops : List TraceOp) :
    (pendingAfter ops).getD 0 ≤ ops.length := by
  cases pending : pendingAfter ops with
  | none => exact Nat.zero_le _
  | some count =>
      rcases exists_segment pending with ⟨front, anchor, segment, rfl, _, counted⟩
      have bound : recordsIn segment ≤ segment.length := List.countP_le_length
      simp only [Option.getD_some, List.length_append, List.length_cons]
      omega

theorem countOne_eq {field : String} {max counter : U64}
    (fits : counter.val + 1 < 2 ^ 64) :
    countOne field max counter = .ok ⟨counter.val + 1, fits⟩ := by
  rw [countOne, okOr_ok_iff, checkedSucc_eq_some]

theorem transactionsIn_append (ops : List TraceOp) (op : TraceOp) :
    transactionsIn (ops ++ [op]) = transactionsIn ops + if op.isBegin then 1 else 0 := by
  rw [transactionsIn, List.countP_append, List.countP_singleton, transactionsIn]

theorem crashesIn_append (ops : List TraceOp) (op : TraceOp) :
    crashesIn (ops ++ [op]) = crashesIn ops + if op.isCrash then 1 else 0 := by
  rw [crashesIn, List.countP_append, List.countP_singleton, crashesIn]

theorem pagesIn_append (ops : List TraceOp) (op : TraceOp) :
    pagesIn (ops ++ [op]) = match op.page? with
      | some page => insert page (pagesIn ops)
      | none => pagesIn ops := by
  rw [pagesIn, List.filterMap_append, List.toFinset_append, pagesIn]
  cases page : op.page? with
  | none => simp [page]
  | some pageId =>
      ext other
      simp [page]

theorem pendingAfter_concat (ops : List TraceOp) (op : TraceOp) :
    pendingAfter (ops ++ [op]) = pendingStep (pendingAfter ops) op := by
  rw [pendingAfter_append]
  rfl

namespace TraceCounts

variable {counts : TraceCounts} {ops : List TraceOp}

theorem Describes.zero : TraceCounts.zero.Describes [] where
  transactions := rfl
  crashes := rfl
  pages := rfl
  seen := rfl
  records := rfl

theorem Describes.records_fits (describes : counts.Describes ops)
    (fits : ops.length + 1 < 2 ^ 64) :
    counts.postCheckpointRecords.val + 1 < 2 ^ 64 := by
  have bound := pendingAfter_le ops
  rw [← describes.records] at bound
  omega

/-- What an operation adds, apart from the records it appends. -/
structure Accounts (counts next : TraceCounts) (op : TraceOp) : Prop where
  transactions :
    next.transactions.val = counts.transactions.val + if op.isBegin then 1 else 0
  crashes : next.crashes.val = counts.crashes.val + if op.isCrash then 1 else 0
  pages : next.pages = match op.page? with
    | some page => insert page counts.pages
    | none => counts.pages
  seen : next.checkpointSeen = counts.checkpointSeen
  records : next.postCheckpointRecords = counts.postCheckpointRecords

theorem Accounts.describes {next : TraceCounts} {op : TraceOp}
    (accounts : counts.Accounts next op) (describes : counts.Describes ops)
    (silent : op.publishes = false)
    (appends : op.appendsRecord = false) : next.Describes (ops ++ [op]) := by
  have pending : pendingAfter (ops ++ [op]) = pendingAfter ops := by
    rw [pendingAfter_concat, pendingStep, silent, appends]
    cases pendingAfter ops <;> rfl
  constructor
  · rw [transactionsIn_append, accounts.transactions, describes.transactions]
  · rw [crashesIn_append, accounts.crashes, describes.crashes]
  · rw [pagesIn_append, accounts.pages, describes.pages]
  · rw [pending, accounts.seen, describes.seen]
  · rw [pending, accounts.records, describes.records]

theorem Accounts.countRecord {next : TraceCounts} {op : TraceOp}
    (accounts : counts.Accounts next op) (describes : counts.Describes ops)
    (bounds : TraceBounds) (fits : ops.length + 1 < 2 ^ 64)
    (silent : op.publishes = false) (appends : op.appendsRecord = true) :
    ∃ final, next.countRecord bounds = .ok final ∧ final.Describes (ops ++ [op]) := by
  have pending : pendingAfter (ops ++ [op]) = (pendingAfter ops).map (· + 1) := by
    rw [pendingAfter_concat, pendingStep, silent, appends]
    rfl
  have transactions : next.transactions.val = transactionsIn (ops ++ [op]) := by
    rw [transactionsIn_append, accounts.transactions, describes.transactions]
  have crashes : next.crashes.val = crashesIn (ops ++ [op]) := by
    rw [crashesIn_append, accounts.crashes, describes.crashes]
  have pages : next.pages = pagesIn (ops ++ [op]) := by
    rw [pagesIn_append, accounts.pages, describes.pages]
  have seen := accounts.seen.trans describes.seen
  have records := describes.records
  rw [← accounts.records] at records
  rw [TraceCounts.countRecord]
  cases earlier : pendingAfter ops with
  | none =>
      rw [earlier] at seen records pending
      rw [if_neg (by rw [seen]; decide)]
      exact ⟨next, rfl, transactions, crashes, pages, by rw [pending]; exact seen,
        by rw [pending]; exact records⟩
  | some count =>
      rw [earlier] at seen records pending
      have counterFits : next.postCheckpointRecords.val + 1 < 2 ^ 64 := by
        rw [accounts.records]
        exact describes.records_fits fits
      rw [if_pos (by rw [seen]; rfl), countOne_eq counterFits]
      exact ⟨_, rfl, transactions, crashes, pages, by rw [pending]; exact seen,
        by rw [pending]; exact congrArg (· + 1) records⟩

theorem Accounts.refl {op : TraceOp} (begins : op.isBegin = false)
    (crashes : op.isCrash = false)
    (page : op.page? = none) : counts.Accounts counts op where
  transactions := by rw [begins]; rfl
  crashes := by rw [crashes]; rfl
  pages := by rw [page]
  seen := rfl
  records := rfl

theorem Accounts.insertPage {op : TraceOp} {pageId : U64} (begins : op.isBegin = false)
    (crashes : op.isCrash = false) (page : op.page? = some pageId) :
    counts.Accounts { counts with pages := insert pageId counts.pages } op where
  transactions := by rw [begins]; rfl
  crashes := by rw [crashes]; rfl
  pages := by rw [page]
  seen := rfl
  records := rfl

theorem Describes.count (describes : counts.Describes ops) (bounds : TraceBounds)
    (op : TraceOp) (fits : ops.length + 1 < 2 ^ 64) :
    ∃ next, counts.count bounds op = .ok next ∧ next.Describes (ops ++ [op]) := by
  have begun : transactionsIn ops ≤ ops.length := List.countP_le_length
  have crashed : crashesIn ops ≤ ops.length := List.countP_le_length
  cases op with
  | beginTransaction =>
      have counterFits : counts.transactions.val + 1 < 2 ^ 64 := by
        rw [describes.transactions]
        omega
      have accounts : counts.Accounts
          { counts with transactions := ⟨counts.transactions.val + 1, counterFits⟩ }
          .beginTransaction := ⟨rfl, rfl, rfl, rfl, rfl⟩
      refine ⟨_, ?_, accounts.describes describes rfl rfl⟩
      rw [TraceCounts.count, countOne_eq counterFits]
      rfl
  | crash =>
      have counterFits : counts.crashes.val + 1 < 2 ^ 64 := by
        rw [describes.crashes]
        omega
      have accounts : counts.Accounts
          { counts with crashes := ⟨counts.crashes.val + 1, counterFits⟩ } .crash :=
        ⟨rfl, rfl, rfl, rfl, rfl⟩
      refine ⟨_, ?_, accounts.describes describes rfl rfl⟩
      rw [TraceCounts.count, countOne_eq counterFits]
      rfl
  | appendTransactionPage | appendRawPage | liveMutationAfterComplete =>
      exact (Accounts.insertPage rfl rfl rfl).countRecord describes bounds fits rfl rfl
  | appendTransactionCommit txnIndex =>
      exact (Accounts.refl rfl rfl rfl).countRecord describes bounds fits rfl rfl
  | publishCheckpoint anchor =>
      refine ⟨_, rfl, ?_, ?_, ?_, ?_, ?_⟩
      · rw [transactionsIn_append]
        exact describes.transactions
      · rw [crashesIn_append]
        exact describes.crashes
      · rw [pagesIn_append]
        exact describes.pages
      · rw [pendingAfter_concat]
        rfl
      · rw [pendingAfter_concat]
        rfl
  | allocateEpoch | flushWal | writePageStore | reopen | select | planReplay | repairPages
  | repairPagesFault | repairPagesAppliedFault | restoreTransactions | complete
  | analyzeRetention | analyzeRetentionExpectStale | reclaim =>
      exact ⟨counts, rfl, (Accounts.refl rfl rfl rfl).describes describes rfl rfl⟩

theorem Describes.foldlM (bounds : TraceBounds) {rest : List TraceOp}
    (describes : counts.Describes ops) (fits : ops.length + rest.length < 2 ^ 64) :
    ∃ final, rest.foldlM (TraceCounts.count bounds) counts = .ok final ∧
      final.Describes (ops ++ rest) := by
  induction rest generalizing counts ops with
  | nil => exact ⟨counts, rfl, by rwa [List.append_nil]⟩
  | cons op rest induction =>
      rw [List.length_cons] at fits
      rcases describes.count bounds op (by omega) with ⟨next, counted, nextDescribes⟩
      have restFits : (ops ++ [op]).length + rest.length < 2 ^ 64 := by
        rw [List.length_append, List.length_singleton]
        omega
      rcases induction nextDescribes restFits with ⟨final, folded, finalDescribes⟩
      rw [List.append_assoc, List.singleton_append] at finalDescribes
      refine ⟨final, ?_, finalDescribes⟩
      rw [List.foldlM_cons, counted]
      exact folded

theorem counted_from_zero (bounds : TraceBounds) (fits : ops.length < 2 ^ 64) :
    ∃ final, ops.foldlM (TraceCounts.count bounds) TraceCounts.zero = .ok final ∧
      final.Describes ops := by
  have emptyFits : ([] : List TraceOp).length + ops.length < 2 ^ 64 := by
    rwa [List.length_nil, Nat.zero_add]
  exact Describes.zero.foldlM bounds emptyFits

end TraceCounts

structure WithinBounds (ops : List TraceOp) (bounds : TraceBounds) : Prop where
  length : ops.length ≤ bounds.maxOps.val
  transactions : transactionsIn ops ≤ bounds.maxTxns.val
  pages : (pagesIn ops).card ≤ bounds.maxPages.val
  crashes : crashesIn ops ≤ bounds.maxCrashCycles.val
  records : (pendingAfter ops).getD 0 ≤ bounds.maxPostCheckpointRecords.val

/-- The last bound is one on what is pending at the end of the trace. -/
theorem validateTraceAgainstBounds_ok_iff {ops : List TraceOp} {bounds : TraceBounds}
    {value : Unit} :
    validateTraceAgainstBounds ops bounds = .ok value ↔ WithinBounds ops bounds := by
  have maxFits := bounds.maxOps.isLt
  simp only [validateTraceAgainstBounds, Except.bind_ok_iff, okOr_ok_iff, rejectIf_ok_iff,
    tryU64_eq_some, Except.forM_ok_iff, List.forall_mem_cons, List.not_mem_nil,
    false_imp_iff, implies_true, and_true, gt_iff_lt, not_lt]
  constructor
  · rintro ⟨opCount, isCount, _, short, counts, counted, pageCount, isPages,
      transactions, pages, crashes, records⟩
    have length : ops.length < 2 ^ 64 := by
      rw [← isCount]
      exact opCount.isLt
    rcases TraceCounts.counted_from_zero bounds length with ⟨final, folded, describes⟩
    rw [folded] at counted
    cases counted
    rw [Fin.le_def] at short transactions pages crashes records
    constructor
    · rwa [← isCount]
    · rwa [← describes.transactions]
    · rwa [← describes.pages, ← isPages]
    · rwa [← describes.crashes]
    · rwa [← describes.records]
  · intro within
    have length : ops.length < 2 ^ 64 := within.length.trans_lt maxFits
    rcases TraceCounts.counted_from_zero bounds length with ⟨final, folded, describes⟩
    have pagesFit : final.pages.card < 2 ^ 64 := by
      rw [describes.pages]
      exact within.pages.trans_lt bounds.maxPages.isLt
    refine ⟨⟨ops.length, length⟩, rfl, (), within.length, final, folded,
      ⟨final.pages.card, pagesFit⟩, rfl, ?_, ?_, ?_, ?_⟩
    · rw [Fin.le_def, describes.transactions]
      exact within.transactions
    · have pages := within.pages
      rw [← describes.pages] at pages
      exact pages
    · rw [Fin.le_def, describes.crashes]
      exact within.crashes
    · rw [Fin.le_def, describes.records]
      exact within.records

end Ntsql.Recovery
