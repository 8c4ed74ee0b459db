import Ntsql.Recovery.Trace

/-! # Generating traces

A legal trace from a seed: a fixed skeleton through every recovery scenario,
with as many raw pages before the first publication as the bounds allow. -/

namespace Ntsql.Recovery

structure SimpleRng where
  state : U64

namespace SimpleRng

def new (seed : U64) : SimpleRng := ⟨if seed = 0 then 1 else seed⟩

/-- xorshift64 -/
def nextU64 (rng : SimpleRng) : U64 × SimpleRng :=
  let x := rng.state
  let x := x ^^^ (x <<< 13)
  let x := x ^^^ (x >>> 7)
  let x := x ^^^ (x <<< 17)
  (x, ⟨x⟩)

def nextBounded (rng : SimpleRng) (bound : U64) :
    Except ModelError (U64 × SimpleRng) := do
  rejectIf (bound = 0) (.boundsExceeded "rng_bound" 0 0)
  let (drawn, rng) := rng.nextU64
  return (drawn % bound, rng)

end SimpleRng

/-- `u128::from(drawn) | 1`, under version one. -/
def boundAnchor (drawn : U64) : CheckpointAnchor where
  version := 1
  digest := ⟨drawn.val ||| 1, Nat.or_lt_two_pow (by omega) (by decide)⟩

/-- Basic work and a checkpoint; a crash whose repair fails and is retried; a
live mutation that makes the evidence stale; a crash whose repair is applied
and then fails; reclamation, twice, each with a crash after it. -/
def skeletonTrace (anchor : CheckpointAnchor) (pageValue rawValue mutation : U64) :
    List TraceOp :=
  [.allocateEpoch, .beginTransaction, .appendTransactionPage 0 1 pageValue 1,
    .appendTransactionCommit 0, .appendRawPage 2 rawValue 1, .flushWal, .writePageStore 0,
    .writePageStore 2,
    .publishCheckpoint anchor,
    .crash, .reopen, .select, .planReplay, .repairPagesFault,
    .crash, .reopen, .select, .planReplay, .repairPages, .restoreTransactions, .complete,
    .liveMutationAfterComplete 1 mutation 2, .analyzeRetentionExpectStale,
    .crash, .reopen, .select, .planReplay, .repairPagesAppliedFault,
    .crash, .reopen, .select, .planReplay, .repairPages, .restoreTransactions, .complete,
    .analyzeRetention, .reclaim,
    .crash, .reopen, .select, .planReplay, .repairPages, .restoreTransactions, .complete,
    .analyzeRetention, .reclaim,
    .crash, .reopen, .select, .planReplay, .repairPages, .restoreTransactions, .complete]

/-- Where raw pages go in: right before the publication. -/
def extraIndex : Nat := 8

def MAX_EXTRA_OPS : U64 := 20

/-- One more raw page and, while there is room, a flush after it. -/
def insertExtra (bounds : TraceBounds) (generated : SimpleRng × List TraceOp) (i : Nat) :
    Except ModelError (SimpleRng × List TraceOp) := do
  let (rng, ops) := generated
  let (drawn, rng) ← rng.nextBounded bounds.maxPages
  let pageId ← okOr (checkedSucc drawn)
    (.boundsExceeded "generated_page_id" bounds.maxPages HARD_MAX_PAGES)
  let (value, rng) := rng.nextU64
  let offset ← okOr (tryU64 i) .pageVersionExhausted
  let version ← okOr (tryU64 (offset.val + 100)) .pageVersionExhausted
  let ops := ops.insertIdx extraIndex (.appendRawPage pageId value version)
  let ops :=
    if ops.length < bounds.maxOps.val then ops.insertIdx (extraIndex + 1)
      .flushWal else ops
  return (rng, ops)

/-- At most half of what the bounds leave after `used` operations. -/
def drawExtraCount (bounds : TraceBounds) (used : U64) (rng : SimpleRng) :
    Except ModelError (U64 × SimpleRng) := do
  rejectIf (bounds.maxOps < used) (.boundsExceeded "generated_ops" used bounds.maxOps)
  let maxExtra := min ((bounds.maxOps - used) / 2) MAX_EXTRA_OPS
  if maxExtra = 0 then return (0, rng)
  else
    let bound ← okOr (checkedSucc maxExtra)
      (.boundsExceeded "random_extra_ops" maxExtra MAX_EXTRA_OPS)
    rng.nextBounded bound

def addExtras (bounds : TraceBounds) (used : U64) (rng : SimpleRng) (ops : List TraceOp) :
    Except ModelError (List TraceOp) :=
  if used < bounds.maxOps then do
    let (extra, rng) ← drawExtraCount bounds used rng
    let generated ← (List.range extra.val).foldlM (insertExtra bounds) (rng, ops)
    return generated.2
  else .ok ops

def generateTrace (seed : U64) (bounds : TraceBounds) :
    Except ModelError (List TraceOp) := do
  bounds.validate
  let rng := SimpleRng.new seed
  let (digest, rng) := rng.nextU64
  let (pageValue, rng) := rng.nextU64
  let (rawValue, rng) := rng.nextU64
  let (mutation, rng) := rng.nextU64
  let skeleton := skeletonTrace (boundAnchor digest) pageValue rawValue mutation
  let used ← okOr (tryU64 skeleton.length)
    (.boundsExceeded "generated_ops" maxU64 bounds.maxOps)
  let ops ← addExtras bounds used rng skeleton
  validateTraceAgainstBounds ops bounds
  return ops

end Ntsql.Recovery
