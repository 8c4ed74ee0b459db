import Ntsql.Foundation.LatestImage
import Ntsql.Recovery.State

/-! # Live operations

Epochs, transactions, WAL appends and flushes, page-store writes and checkpoint
publication. Each is legal only while live or after a completed recovery. -/

namespace Ntsql.Recovery

/-- `match high_water { Some(hw) if hw >= epoch => {} _ => high_water = Some(epoch) }`. -/
def raiseHighWater (highWater : Option U64) (epoch : U64) : Option U64 :=
  match highWater with
  | some current => if current ≥ epoch then some current else some epoch
  | none => some epoch

/-- Allocating an epoch advances the epoch high-water even when no transaction
ever commits under it. -/
def allocateCoordinatorEpoch : ModelM U64 := do
  let model ← get
  check (model.requireLiveOrComplete "allocate_epoch")
  let epoch ← check (okOr model.nextEpoch .epochExhausted)
  let allocated := { model with
    nextEpoch := checkedSucc epoch
    currentEpoch := some epoch
    nextSequence := some 1
    epochHighWater := raiseHighWater model.epochHighWater epoch }
  set (allocated.markCompletionStale "epoch allocated")
  return epoch

/-- The sequence number is taken before the identity is checked. -/
def beginTransaction : ModelM TransactionId := do
  let model ← get
  check (model.requireLiveOrComplete "begin_transaction")
  let epoch ← check (okOr model.currentEpoch .noActiveEpoch)
  let sequence ← check (okOr model.nextSequence .sequenceExhausted)
  set { model with nextSequence := checkedSucc sequence }
  let id ← check (okOr (TransactionId.new epoch sequence) .noActiveEpoch)
  check (rejectIf (model.activeTransactions.contains id) (.duplicateTransactionId id))
  modify fun model =>
    { model with
      activeTransactions := model.activeTransactions.insert id [] }
  modify fun model => model.markCompletionStale "transaction begun"
  return id

namespace RecoveryModel

def pushRecord (model : RecoveryModel) (record : WalRecord) : RecoveryModel :=
  { model with walRecords := model.walRecords ++ [record] }

/-- The record a live append writes at `position`. -/
def transactionPageRecord (model : RecoveryModel) (position : WalPosition)
    (txn : TransactionId) (page : PageId) (pageValue : U64) (pageVersion : PageVersion) :
    WalRecord where
  logId := model.logId
  lineageId := model.lineageId
  position := position
  kind := .transactionPage
  transaction := some txn
  page := some page
  pageValue := some pageValue
  pageVersion := some pageVersion

def transactionCommitRecord (model : RecoveryModel) (position : WalPosition)
    (txn : TransactionId) : WalRecord where
  logId := model.logId
  lineageId := model.lineageId
  position := position
  kind := .transactionCommit
  transaction := some txn
  page := none
  pageValue := none
  pageVersion := none

def rawPageRecord (model : RecoveryModel) (position : WalPosition) (page : PageId)
    (pageValue : U64) (pageVersion : PageVersion) : WalRecord where
  logId := model.logId
  lineageId := model.lineageId
  position := position
  kind := .rawPage
  transaction := none
  page := some page
  pageValue := some pageValue
  pageVersion := some pageVersion

/-- `if let Some(positions) = active.get_mut(&txn) { positions.push(position) }`. -/
def pushActivePosition (model : RecoveryModel) (txn : TransactionId)
    (position : WalPosition) : RecoveryModel :=
  match model.activeTransactions[txn]? with
  | some positions =>
      { model with
        activeTransactions :=
          model.activeTransactions.insert txn (positions ++ [position]) }
  | none => model

end RecoveryModel

def appendTransactionPage (txn : TransactionId) (page : PageId) (pageValue : U64)
    (pageVersion : PageVersion) : ModelM WalPosition := do
  let model ← get
  check (model.requireLiveOrComplete "append_txn_page")
  check (rejectIf (¬model.activeTransactions.contains txn) (.transactionNotFound txn))
  let position ← allocatePosition
  modify fun model =>
    model.pushRecord (model.transactionPageRecord position txn page pageValue pageVersion)
  modify fun model => model.pushActivePosition txn position
  modify fun model => model.markCompletionStale "page appended"
  return position

def appendTransactionCommit (txn : TransactionId) : ModelM WalPosition := do
  let model ← get
  check (model.requireLiveOrComplete "append_commit")
  check (rejectIf (¬model.activeTransactions.contains txn) (.transactionNotFound txn))
  check (rejectIf (model.committedTransactions.contains txn)
    (.transactionAlreadyCommitted txn))
  let position ← allocatePosition
  modify fun model => model.pushRecord (model.transactionCommitRecord position txn)
  modify fun model =>
    { model with
      committedTransactions := model.committedTransactions.insert txn position
      activeTransactions := model.activeTransactions.erase txn }
  modify fun model => model.markCompletionStale "commit appended"
  return position

def appendRawPage (page : PageId) (pageValue : U64) (pageVersion : PageVersion) :
    ModelM WalPosition := do
  let model ← get
  check (model.requireLiveOrComplete "append_raw_page")
  let position ← allocatePosition
  modify fun model =>
    model.pushRecord (model.rawPageRecord position page pageValue pageVersion)
  modify fun model => model.markCompletionStale "raw page appended"
  return position

/-- Flushing does not mark completion evidence stale. -/
def flushWal : ModelM (Option WalPosition) := do
  let model ← get
  check (model.requireLiveOrComplete "flush_wal")
  match model.walRecords.getLast? with
  | some record =>
      set { model with
        flushPosition := some record.position
        logicalHighWater := some record.position }
      return some record.position
  | none => return model.flushPosition

namespace RecoveryModel

/-- A well-shaped commit of `txn` at or below `frontier` in this lineage. -/
def HasExactCommit (model : RecoveryModel) (frontier : WalPosition)
    (txn : TransactionId) : Prop :=
  ∃ candidate ∈ model.walRecords,
    candidate.position ≤ frontier ∧ candidate.kind = .transactionCommit ∧
      candidate.transaction = some txn ∧ candidate.page = none ∧
      candidate.pageValue = none ∧ candidate.pageVersion = none ∧
      candidate.logId = model.logId ∧ candidate.lineageId = model.lineageId

instance (model : RecoveryModel) (frontier : WalPosition) (txn : TransactionId) :
    Decidable (model.HasExactCommit frontier txn) :=
  inferInstanceAs (Decidable (∃ candidate ∈ model.walRecords, _))

def snapshotOf (model : RecoveryModel) (page : PageId) (value : U64)
    (position : WalPosition) (version : PageVersion) : PageSnapshot where
  logId := model.logId
  lineageId := model.lineageId
  pageId := page
  value := value
  writtenAt := position
  version := version

/-- The store refuses a position below the one it holds for the page. -/
def rejectRegression (model : RecoveryModel) (page : PageId) (position : WalPosition) :
    Except ModelError Unit :=
  match model.pageStore[page]? with
  | some current =>
      rejectIf (current.writtenAt > position)
        (.pageStoreRegression page current.writtenAt position)
  | none => .ok ()

/-- The durable frontier a page write relies on, when it reaches `position`. -/
def durableFrontierAt (model : RecoveryModel) (record : WalRecord)
    (position : WalPosition) :
    Except ModelError WalPosition :=
  match model.flushPosition.filter fun frontier => frontier ≥ position with
  | some frontier => .ok frontier
  | none =>
      match record.page with
      | some page => .error (.pageNotDurable page)
      | none => .error (.durableRecordMissing position)

/-- The checks `write_page_store` makes on the record at `position`, ending in
the snapshot it installs. -/
def checkPageWrite (model : RecoveryModel) (position : WalPosition) :
    Except ModelError PageSnapshot := do
  let record ← okOr (model.recordAt position) (.durableRecordMissing position)
  rejectIf (record.logId ≠ model.logId)
    (.foreignLogId model.logId record.logId "write_page_store record")
  validateRecordShape record
  let durableFrontier ← model.durableFrontierAt record position
  match record.kind with
  | .transactionPage =>
      let txn ← okOr record.transaction
        (.invalidRecordShape "TransactionPage missing transaction")
      let page ← okOr record.page (.invalidRecordShape "TransactionPage missing page")
      let value ← okOr record.pageValue
        (.invalidRecordShape "TransactionPage missing value")
      let version ← okOr record.pageVersion
        (.invalidRecordShape "TransactionPage missing version")
      rejectIf (¬model.HasExactCommit durableFrontier txn) (.pageUncommitted page txn)
      model.rejectRegression page position
      return model.snapshotOf page value position version
  | .rawPage =>
      rejectIf record.transaction.isSome (.invalidRecordShape "RawPage has transaction")
      let page ← okOr record.page (.invalidRecordShape "RawPage missing page")
      let value ← okOr record.pageValue (.invalidRecordShape "RawPage missing value")
      let version ← okOr record.pageVersion
        (.invalidRecordShape "RawPage missing version")
      model.rejectRegression page position
      return model.snapshotOf page value position version
  | .transactionCommit =>
      .error (.invalidRecordShape "TransactionCommit has no page to write")

end RecoveryModel

def writePageStore (position : WalPosition) : ModelM PageId := do
  let model ← get
  check (model.requireLiveOrComplete "write_page_store")
  let snapshot ← check (model.checkPageWrite position)
  let written :=
    { model with pageStore := model.pageStore.insert snapshot.pageId snapshot }
  set (written.markCompletionStale "page store written")
  return snapshot.pageId

/-- The store holds nothing for `page`, or something older than `position`. -/
abbrev StoreLags (store : PageStore) (page : PageId) (position : WalPosition) : Prop :=
  LatestImage.Lags PageSnapshot.writtenAt store page position

/-- The smaller of the earliest position so far and `position`. -/
def lowerEarliest (earliest : Option WalPosition) (position : WalPosition) :
    Option WalPosition :=
  match earliest with
  | none => some position
  | some earliest => some (min earliest position)

namespace RecoveryModel

/-- A durable page record that the page store is missing or behind on. -/
def NeedsReplay (model : RecoveryModel) (frontier : WalPosition)
    (record : WalRecord) : Prop :=
  record.position ≤ frontier ∧
    (record.kind = .transactionPage ∨ record.kind = .rawPage) ∧
    ∃ page ∈ record.page, StoreLags model.pageStore page record.position

instance (model : RecoveryModel) (frontier : WalPosition) (record : WalRecord) :
    Decidable (model.NeedsReplay frontier record) := by
  unfold NeedsReplay
  infer_instance

/-- Earliest durable page record the page store does not represent. -/
def computeReplayStart (model : RecoveryModel) : Option WalPosition :=
  match model.flushPosition with
  | none => none
  | some frontier =>
      model.walRecords.foldl (fun earliest record =>
        if model.NeedsReplay frontier record then lowerEarliest earliest record.position
        else earliest) none

/-- Restored observations, overlaid with the runtime's active transactions. -/
def checkpointTransactions (model : RecoveryModel) : TransactionPositions :=
  model.activeTransactions.toList.foldl
    (fun transactions entry => transactions.insert entry.1 entry.2)
    model.persistedTransactions

/-- The checkpoint `publish_checkpoint` builds from the current state. -/
def checkpointSnapshot (model : RecoveryModel) (anchor : CheckpointAnchor) :
    CheckpointSnapshot where
  logId := model.logId
  lineageId := model.lineageId
  anchor := anchor
  frontier := match model.flushPosition with
    | some position => .at position
    | none => .empty
  replayStart := model.computeReplayStart
  pages := model.pageStore
  transactionSummary :=
    { active := model.checkpointTransactions
      epochHighWater := model.epochHighWater }

end RecoveryModel

def publishCheckpoint (anchor : CheckpointAnchor) : ModelM Unit := do
  let model ← get
  check (model.requireLiveOrComplete "publish_checkpoint")
  let published := { model with checkpointSlot := some (model.checkpointSnapshot anchor) }
  set (published.markCompletionStale "checkpoint published")

end Ntsql.Recovery
