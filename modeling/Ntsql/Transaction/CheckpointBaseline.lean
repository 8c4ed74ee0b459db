import Ntsql.Transaction.PageEvidence

/-! # Restart checkpoint baselines

What a restart checkpoint says of a durable prefix, and the untrusted fields an
encoded checkpoint decodes to. Names drop the source's prefix
`DurableTransaction`. -/

namespace Ntsql.Transaction

/-! ## Baselines -/

inductive RestartRequiredPageImage where
  | raw (pagePosition : U64)
  | committedTransaction (transaction : DurableTransactionIdentityObservation)
      (pagePosition commitPosition : U64)
deriving DecidableEq

inductive RestartPageState where
  | noRequiredImage
  | storeMissing (required : RestartRequiredPageImage)
  | storeCurrent (required : RestartRequiredPageImage) (storedPosition : U64)
  | storeBehind (storedPosition : U64) (required : RestartRequiredPageImage)
deriving DecidableEq

structure RestartPageEntry where
  pageNumber : PageNumber
  state : RestartPageState
deriving DecidableEq

inductive RestartReplayStartCause where
  | storeMissing (pageNumber : PageNumber)
  | storeBehind (pageNumber : PageNumber)
  | uncommittedTransaction (transaction : DurableTransactionIdentityObservation)
deriving DecidableEq

inductive RestartReplayStart where
  | afterFrontier (frontier : Option U64)
  | atPosition (position : U64) (cause : RestartReplayStartCause)
deriving DecidableEq

inductive RestartCheckpointBaselineState where
  | uncommitted
  | committed (commitPosition : U64)
deriving DecidableEq

structure RestartCheckpointBaselineEntry where
  transaction : DurableTransactionIdentityObservation
  firstOwnedPagePosition : Option U64
  lastOwnedPagePosition : Option U64
  ownedPageRecordCount : U64
  state : RestartCheckpointBaselineState
deriving DecidableEq

structure RestartCheckpointBaseline where
  persistentLogId : PersistentLogId
  durableFrontier : Option U64
  transactions : List RestartCheckpointBaselineEntry
deriving DecidableEq

structure RestartCheckpointCompletenessBaseline where
  transactionBaseline : RestartCheckpointBaseline
  pages : List RestartPageEntry
  replayStart : RestartReplayStart
deriving DecidableEq

/-! ## Observations -/

inductive RestartCheckpointBaselineStateObservation where
  | uncommitted
  | committed (commitPosition : U64)
deriving DecidableEq

structure RestartCheckpointBaselineEntryObservation where
  epoch : U64
  sequence : U64
  firstOwnedPagePosition : Option U64
  lastOwnedPagePosition : Option U64
  ownedPageRecordCount : U64
  state : RestartCheckpointBaselineStateObservation
deriving DecidableEq

structure RestartCheckpointBaselineObservation where
  persistentLogId : U128
  durableFrontier : Option U64
  transactions : List RestartCheckpointBaselineEntryObservation
deriving DecidableEq

inductive RestartCheckpointCompletenessBaselinePageStateObservation where
  | noRequiredImage
  | storeMissing
  | storeCurrent
  | storeBehind
deriving DecidableEq

inductive RestartCheckpointCompletenessBaselineRequiredImageObservation where
  | raw (pagePosition : U64)
  | committedTransaction (epoch sequence pagePosition commitPosition : U64)
deriving DecidableEq

structure RestartCheckpointCompletenessBaselinePageObservation where
  pageNumber : U64
  state : RestartCheckpointCompletenessBaselinePageStateObservation
  requiredImage : Option RestartCheckpointCompletenessBaselineRequiredImageObservation
  storedPosition : Option U64
deriving DecidableEq

inductive RestartCheckpointCompletenessBaselineReplayCauseObservation where
  | storeMissingPage (pageNumber : U64)
  | storeBehindPage (pageNumber : U64)
  | uncommittedTransaction (epoch sequence : U64)
deriving DecidableEq

inductive RestartCheckpointCompletenessBaselineReplayKindObservation where
  | afterFrontier
  | atPosition
deriving DecidableEq

structure RestartCheckpointCompletenessBaselineReplayObservation where
  kind : RestartCheckpointCompletenessBaselineReplayKindObservation
  frontier : Option U64
  position : Option U64
  cause : Option RestartCheckpointCompletenessBaselineReplayCauseObservation
deriving DecidableEq

structure RestartCheckpointCompletenessBaselineObservation where
  transactions : RestartCheckpointBaselineObservation
  pages : List RestartCheckpointCompletenessBaselinePageObservation
  replay : RestartCheckpointCompletenessBaselineReplayObservation
deriving DecidableEq

/-! ## The fields of a baseline -/

def RestartCheckpointBaselineState.observe :
    RestartCheckpointBaselineState → RestartCheckpointBaselineStateObservation
  | .uncommitted => .uncommitted
  | .committed commitPosition => .committed commitPosition

def RestartCheckpointBaselineEntry.observe (entry : RestartCheckpointBaselineEntry) :
    RestartCheckpointBaselineEntryObservation where
  epoch := entry.transaction.epoch.get
  sequence := entry.transaction.sequence.get
  firstOwnedPagePosition := entry.firstOwnedPagePosition
  lastOwnedPagePosition := entry.lastOwnedPagePosition
  ownedPageRecordCount := entry.ownedPageRecordCount
  state := entry.state.observe

def RestartCheckpointBaseline.observe (baseline : RestartCheckpointBaseline) :
    RestartCheckpointBaselineObservation where
  persistentLogId := baseline.persistentLogId.get
  durableFrontier := baseline.durableFrontier
  transactions := baseline.transactions.map (·.observe)

def RestartRequiredPageImage.observe :
    RestartRequiredPageImage →
      RestartCheckpointCompletenessBaselineRequiredImageObservation
  | .raw pagePosition => .raw pagePosition
  | .committedTransaction transaction pagePosition commitPosition =>
      .committedTransaction transaction.epoch.get transaction.sequence.get pagePosition
        commitPosition

def RestartPageState.requiredImage : RestartPageState → Option RestartRequiredPageImage
  | .noRequiredImage => none
  | .storeMissing required => some required
  | .storeCurrent required _ => some required
  | .storeBehind _ required => some required

def RestartPageState.storedPosition : RestartPageState → Option U64
  | .noRequiredImage => none
  | .storeMissing _ => none
  | .storeCurrent _ storedPosition => some storedPosition
  | .storeBehind storedPosition _ => some storedPosition

def RestartPageState.observe :
    RestartPageState → RestartCheckpointCompletenessBaselinePageStateObservation
  | .noRequiredImage => .noRequiredImage
  | .storeMissing _ => .storeMissing
  | .storeCurrent _ _ => .storeCurrent
  | .storeBehind _ _ => .storeBehind

def RestartPageEntry.observe (entry : RestartPageEntry) :
    RestartCheckpointCompletenessBaselinePageObservation where
  pageNumber := entry.pageNumber.get
  state := entry.state.observe
  requiredImage := entry.state.requiredImage.map (·.observe)
  storedPosition := entry.state.storedPosition

def RestartReplayStartCause.observe :
    RestartReplayStartCause → RestartCheckpointCompletenessBaselineReplayCauseObservation
  | .storeMissing pageNumber => .storeMissingPage pageNumber.get
  | .storeBehind pageNumber => .storeBehindPage pageNumber.get
  | .uncommittedTransaction transaction =>
      .uncommittedTransaction transaction.epoch.get transaction.sequence.get

def RestartReplayStart.observe :
    RestartReplayStart → RestartCheckpointCompletenessBaselineReplayObservation
  | .afterFrontier frontier => ⟨.afterFrontier, frontier, none, none⟩
  | .atPosition position cause => ⟨.atPosition, none, some position, some cause.observe⟩

def RestartCheckpointCompletenessBaseline.observe
    (baseline : RestartCheckpointCompletenessBaseline) :
    RestartCheckpointCompletenessBaselineObservation where
  transactions := baseline.transactionBaseline.observe
  pages := baseline.pages.map (·.observe)
  replay := baseline.replayStart.observe

end Ntsql.Transaction
