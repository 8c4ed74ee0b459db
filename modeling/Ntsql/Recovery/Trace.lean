import Ntsql.Recovery.Operations

/-! # Traces

A trace is a list of operations with the indices and values they take. It is
checked against bounds, executed against a fresh model and searched for the
shortest prefix that satisfies a predicate. -/

namespace Ntsql.Recovery

inductive TraceOp
  | allocateEpoch
  | beginTransaction
  | appendTransactionPage (txnIndex : Nat) (pageId value version : U64)
  | appendTransactionCommit (txnIndex : Nat)
  | appendRawPage (pageId value version : U64)
  | flushWal
  | writePageStore (positionIndex : Nat)
  | publishCheckpoint (anchor : CheckpointAnchor)
  | crash
  | reopen
  | select
  | planReplay
  | repairPages
  | repairPagesFault
  | repairPagesAppliedFault
  | restoreTransactions
  | complete
  | analyzeRetention
  | analyzeRetentionExpectStale
  | reclaim
  /-- A live mutation after completion, which makes the evidence stale. -/
  | liveMutationAfterComplete (pageId value version : U64)
deriving DecidableEq

def CheckpointAnchor.display (anchor : CheckpointAnchor) : String :=
  "anchor(v:" ++ toString anchor.version.val ++ ",d:" ++
    String.ofList (Nat.toDigits 16 anchor.digest.val) ++ ")"

def TraceOp.display : TraceOp → String
  | .allocateEpoch => "allocate-epoch"
  | .beginTransaction => "begin-txn"
  | .appendTransactionPage txnIndex pageId _ _ =>
      "append-txn-page(ti:" ++ toString txnIndex ++ ",p:" ++ toString pageId.val ++ ")"
  | .appendTransactionCommit txnIndex => "append-commit(ti:" ++ toString txnIndex ++ ")"
  | .appendRawPage pageId _ _ => "append-raw(p:" ++ toString pageId.val ++ ")"
  | .flushWal => "flush"
  | .writePageStore positionIndex => "write-ps(pi:" ++ toString positionIndex ++ ")"
  | .publishCheckpoint anchor => "publish-cp(" ++ anchor.display ++ ")"
  | .crash => "crash"
  | .reopen => "reopen"
  | .select => "select"
  | .planReplay => "plan-replay"
  | .repairPages => "repair"
  | .repairPagesFault => "repair-fault"
  | .repairPagesAppliedFault => "repair-applied-fault"
  | .restoreTransactions => "restore-txns"
  | .complete => "complete"
  | .analyzeRetention => "analyze-retention"
  | .analyzeRetentionExpectStale => "analyze-retention-expect-stale"
  | .reclaim => "reclaim"
  | .liveMutationAfterComplete pageId _ _ =>
      "live-mutation(p:" ++ toString pageId.val ++ ")"

/-! ## Bounds -/

def HARD_MAX_OPS : U64 := 10000

def HARD_MAX_TXNS : U64 := 1000

def HARD_MAX_PAGES : U64 := 10000

def HARD_MAX_POST_CP_RECORDS : U64 := 5000

def HARD_MAX_CRASH_CYCLES : U64 := 100

def SKELETON_MIN_OPS : U64 := 53

def SKELETON_MIN_PAGES : U64 := 2

def SKELETON_MIN_CRASH_CYCLES : U64 := 6

def maxU64 : U64 := ⟨u64Max, u64Max_lt⟩

structure TraceBounds where
  maxOps : U64
  maxTxns : U64
  maxPages : U64
  maxPostCheckpointRecords : U64
  maxCrashCycles : U64

def hardBounds : TraceBounds where
  maxOps := HARD_MAX_OPS
  maxTxns := HARD_MAX_TXNS
  maxPages := HARD_MAX_PAGES
  maxPostCheckpointRecords := HARD_MAX_POST_CP_RECORDS
  maxCrashCycles := HARD_MAX_CRASH_CYCLES

/-- The hard caps, then what the skeleton needs. -/
def TraceBounds.validate (bounds : TraceBounds) : Except ModelError Unit := do
  rejectIf (bounds.maxOps > HARD_MAX_OPS)
    (.boundsExceeded "max_ops" bounds.maxOps HARD_MAX_OPS)
  rejectIf (bounds.maxTxns > HARD_MAX_TXNS)
    (.boundsExceeded "max_txns" bounds.maxTxns HARD_MAX_TXNS)
  rejectIf (bounds.maxPages > HARD_MAX_PAGES)
    (.boundsExceeded "max_pages" bounds.maxPages HARD_MAX_PAGES)
  rejectIf (bounds.maxPostCheckpointRecords > HARD_MAX_POST_CP_RECORDS)
    (.boundsExceeded "max_post_checkpoint_records" bounds.maxPostCheckpointRecords
      HARD_MAX_POST_CP_RECORDS)
  rejectIf (bounds.maxCrashCycles > HARD_MAX_CRASH_CYCLES)
    (.boundsExceeded "max_crash_cycles" bounds.maxCrashCycles HARD_MAX_CRASH_CYCLES)
  rejectIf (bounds.maxTxns < 1)
    (.skeletonRequiresMoreCapacity "max_txns" 1 bounds.maxTxns)
  rejectIf (bounds.maxPostCheckpointRecords < 1)
    (.skeletonRequiresMoreCapacity "max_post_checkpoint_records" 1
      bounds.maxPostCheckpointRecords)
  rejectIf (bounds.maxOps < SKELETON_MIN_OPS)
    (.skeletonRequiresMoreCapacity "max_ops" SKELETON_MIN_OPS bounds.maxOps)
  rejectIf (bounds.maxPages < SKELETON_MIN_PAGES)
    (.skeletonRequiresMoreCapacity "max_pages" SKELETON_MIN_PAGES bounds.maxPages)
  rejectIf (bounds.maxCrashCycles < SKELETON_MIN_CRASH_CYCLES)
    (.skeletonRequiresMoreCapacity "max_crash_cycles" SKELETON_MIN_CRASH_CYCLES
      bounds.maxCrashCycles)

structure TraceCounts where
  transactions : U64
  crashes : U64
  pages : Finset U64
  checkpointSeen : Bool
  postCheckpointRecords : U64

def TraceCounts.zero : TraceCounts := ⟨0, 0, ∅, false, 0⟩

/-- `counter.checked_add(1)`, where overflow exceeds the bound of the field. -/
def countOne (field : String) (max counter : U64) : Except ModelError U64 :=
  okOr (checkedSucc counter) (.boundsExceeded field maxU64 max)

def TraceCounts.countRecord (bounds : TraceBounds) (counts : TraceCounts) :
    Except ModelError TraceCounts :=
  if counts.checkpointSeen then do
    let postCheckpointRecords ← countOne "trace_post_checkpoint_records"
      bounds.maxPostCheckpointRecords counts.postCheckpointRecords
    return { counts with postCheckpointRecords }
  else .ok counts

def TraceCounts.count (bounds : TraceBounds) (counts : TraceCounts) :
    TraceOp → Except ModelError TraceCounts
  | .beginTransaction => do
      let transactions ← countOne "trace_transactions" bounds.maxTxns counts.transactions
      return { counts with transactions }
  | .crash => do
      let crashes ← countOne "trace_crashes" bounds.maxCrashCycles counts.crashes
      return { counts with crashes }
  | .appendTransactionPage _ pageId _ _ | .appendRawPage pageId _ _
  | .liveMutationAfterComplete pageId _ _ =>
      { counts with pages := insert pageId counts.pages }.countRecord bounds
  | .appendTransactionCommit _ => counts.countRecord bounds
  | .publishCheckpoint _ =>
      .ok { counts with checkpointSeen := true, postCheckpointRecords := 0 }
  | .allocateEpoch | .flushWal | .writePageStore
      _ | .reopen | .select | .planReplay | .repairPages
  | .repairPagesFault | .repairPagesAppliedFault | .restoreTransactions | .complete
  | .analyzeRetention | .analyzeRetentionExpectStale | .reclaim => .ok counts

def validateTraceAgainstBounds (ops : List TraceOp) (bounds : TraceBounds) :
    Except ModelError Unit := do
  let opCount ← okOr (tryU64 ops.length)
    (.boundsExceeded "trace_ops" maxU64 bounds.maxOps)
  rejectIf (opCount > bounds.maxOps) (.boundsExceeded "trace_ops" opCount bounds.maxOps)
  let counts ← ops.foldlM (TraceCounts.count bounds) TraceCounts.zero
  let pageCount ← okOr (tryU64 counts.pages.card)
    (.boundsExceeded "trace_pages" maxU64 bounds.maxPages)
  forM [("trace_transactions", counts.transactions, bounds.maxTxns),
      ("trace_pages", pageCount, bounds.maxPages),
      ("trace_crashes", counts.crashes, bounds.maxCrashCycles),
      ("trace_post_checkpoint_records", counts.postCheckpointRecords,
        bounds.maxPostCheckpointRecords)] fun (field, value, max) =>
    rejectIf (value > max) (.boundsExceeded field value max)

/-! ## Execution -/

structure TraceExecutionError where
  seed : U64
  opIndex : Nat
  operation : String
  error : ModelError
  executed : List String

/-- The model and what the trace's indices refer to. -/
structure TraceRun where
  model : RecoveryModel
  txnIds : List TransactionId
  pagePositions : List WalPosition
  pageVersionCounter : U64

abbrev TraceM := EStateM ModelError TraceRun

def onModel (action : ModelM α) : TraceM α := fun run =>
  match action run.model with
  | .ok value model => .ok value { run with model }
  | .error error model => .error error { run with model }

def pushPosition (position : WalPosition) : TraceM Unit :=
  modify fun run => { run with pagePositions := run.pagePositions ++ [position] }

def transactionAt (index : Nat) : TraceM TransactionId := do
  let run ← get
  check (okOr run.txnIds[index]? (.invalidTransactionIndex index))

def pageIdOf (pageId : U64) : TraceM PageId :=
  check (okOr (PageId.new pageId) .invalidPageId)

def expectRepairFault : TraceM Unit := fun run =>
  match repairPagesFault run.model with
  | .error .repairFault model => .ok () { run with model }
  | .error error model => .error error { run with model }
  | .ok () model =>
      .error (.invalidPhase model.phase "repair_fault should have failed")
        { run with model }

def expectAppliedFault : TraceM Unit := do
  match ← onModel repairPagesAppliedFault with
  | .appliedThenError _ _ => return ()
  | .unapplied error => throw error
  | .ok _ =>
      let run ← get
      throw (.invalidPhase run.model.phase "applied_fault should have error")

def expectStaleEvidence : TraceM Unit := fun run =>
  match analyzeRetention run.model with
  | .error (.staleCompletionEvidence _) model => .ok () { run with model }
  | .error error model => .error error { run with model }
  | .ok () model =>
      .error (.invalidPhase model.phase
        "retention analysis unexpectedly accepted stale evidence") { run with model }

def TraceOp.execute : TraceOp → TraceM Unit
  | .allocateEpoch => do
      let _ ← onModel allocateCoordinatorEpoch
  | .beginTransaction => do
      let id ← onModel Recovery.beginTransaction
      modify fun run => { run with txnIds := run.txnIds ++ [id] }
  | .appendTransactionPage txnIndex pageId value version => do
      let txn ← transactionAt txnIndex
      let page ← pageIdOf pageId
      let position ← onModel (Recovery.appendTransactionPage txn page value ⟨version⟩)
      pushPosition position
  | .appendTransactionCommit txnIndex => do
      let txn ← transactionAt txnIndex
      let position ← onModel (Recovery.appendTransactionCommit txn)
      pushPosition position
  | .appendRawPage pageId value version => do
      let page ← pageIdOf pageId
      let position ← onModel (Recovery.appendRawPage page value ⟨version⟩)
      pushPosition position
  | .flushWal => do
      let _ ← onModel Recovery.flushWal
  | .writePageStore positionIndex => do
      let run ← get
      let position ← check (okOr run.pagePositions[positionIndex]?
        (.invalidTransactionIndex positionIndex))
      let _ ← onModel (Recovery.writePageStore position)
  | .publishCheckpoint anchor => onModel (Recovery.publishCheckpoint anchor)
  | .crash => do
      onModel Recovery.crash
      modify fun run =>
        { run with txnIds := [], pagePositions := [], pageVersionCounter := 0 }
  | .reopen => do
      let _ ← onModel Recovery.reopen
      modify fun run =>
        { run with pagePositions := run.model.walRecords.map WalRecord.position }
  | .select => onModel Recovery.select
  | .planReplay => do
      let _ ← onModel Recovery.planReplay
  | .repairPages => do
      let _ ← onModel Recovery.repairPages
  | .repairPagesFault => expectRepairFault
  | .repairPagesAppliedFault => expectAppliedFault
  | .restoreTransactions => do
      let _ ← onModel Recovery.restoreTransactions
  | .complete => do
      onModel Recovery.complete
      modify fun run => { run with pageVersionCounter := 0 }
  | .analyzeRetention => onModel Recovery.analyzeRetention
  | .analyzeRetentionExpectStale => expectStaleEvidence
  | .reclaim => do
      let _ ← onModel Recovery.reclaim
  | .liveMutationAfterComplete pageId value version => do
      let page ← pageIdOf pageId
      let run ← get
      let counter ← check
        (okOr (checkedSucc run.pageVersionCounter) .pageVersionExhausted)
      set { run with pageVersionCounter := counter }
      let position ← onModel (Recovery.appendRawPage page value ⟨version⟩)
      let _ ← onModel Recovery.flushWal
      pushPosition position

/-- The operations from `index` on; `ops` is the whole trace. -/
def executeFrom (seed : U64) (ops : List TraceOp) :
    Nat → List TraceOp → TraceRun → Except TraceExecutionError TraceRun
  | _, [], run => .ok run
  | index, op :: rest, run =>
      match op.execute run with
      | .ok _ next => executeFrom seed ops (index + 1) rest next
      | .error error _ =>
          .error ⟨seed, index, op.display, error,
            (ops.take (index + 1)).map TraceOp.display⟩

def TraceRun.new (logId : LogId) : TraceRun := ⟨RecoveryModel.new logId, [], [], 0⟩

def executeTrace (seed : U64) (ops : List TraceOp) (logId : LogId) :
    Except TraceExecutionError RecoveryModel :=
  match validateTraceAgainstBounds ops hardBounds with
  | .error error => .error ⟨seed, 0, "trace-bounds", error, []⟩
  | .ok () => do
      let run ← executeFrom seed ops 0 ops (TraceRun.new logId)
      return run.model

structure PrefixSearchError where
  seed : U64
  opIndex : Nat
  error : ModelError
  executed : List String

/-- The prefixes of the given lengths in turn. -/
def searchPrefixes (seed : U64) (ops : List TraceOp) (logId : LogId)
    (predicate : RecoveryModel → Bool) : List Nat → Except PrefixSearchError (Option Nat)
  | [] => .ok none
  | length :: lengths =>
      match executeTrace seed (ops.take length) logId with
      | .ok model =>
          if predicate model then .ok (some length)
          else searchPrefixes seed ops logId predicate lengths
      | .error error => .error ⟨error.seed, error.opIndex, error.error, error.executed⟩

def findMinimalPrefix (seed : U64) (ops : List TraceOp) (logId : LogId)
    (predicate : RecoveryModel → Bool) : Except PrefixSearchError (Option Nat) :=
  searchPrefixes seed ops logId predicate (List.range' 1 ops.length)

end Ntsql.Recovery
