import Ntsql.Recovery.Guard

/-! # Invariants of a run

What holds in every state a run reaches: of the log, of the transactions in
it, of the page store, of the published checkpoint and of each phase. The
predicates are over the data they speak of, so that an operation leaving that
data alone leaves them alone by definition. -/

namespace Ntsql.Recovery

open RecoveryModel

namespace WalRecord

/-- A page record of `txn`. -/
def IsPageOf (record : WalRecord) (txn : TransactionId) : Prop :=
  record.kind = .transactionPage ∧ record.transaction = some txn

/-- The commit record of `txn`. -/
def IsCommitOf (record : WalRecord) (txn : TransactionId) : Prop :=
  record.kind = .transactionCommit ∧ record.transaction = some txn

instance (record : WalRecord) (txn : TransactionId) : Decidable (record.IsPageOf txn) :=
  inferInstanceAs (Decidable (_ ∧ _))

instance (record : WalRecord) (txn : TransactionId) : Decidable (record.IsCommitOf txn) :=
  inferInstanceAs (Decidable (_ ∧ _))

end WalRecord

/-- `records` hold a commit of `txn` at or below `frontier`. -/
def Committed (records : List WalRecord) (frontier : Option WalPosition)
    (txn : TransactionId) : Prop :=
  ∃ commit ∈ records, commit.IsCommitOf txn ∧ Covers frontier commit.position

/-- A record at or below `frontier` that writes a page: a raw page, or a page
of a transaction committed at or below `frontier`. -/
structure TakesEffect (records : List WalRecord) (frontier : Option WalPosition)
    (record : WalRecord) : Prop where
  member : record ∈ records
  durable : Covers frontier record.position
  decided : record.kind = .rawPage ∨
    ∃ txn, record.IsPageOf txn ∧ Committed records frontier txn

/-- A stored snapshot is the image of a record that took effect. -/
def Backed (records : List WalRecord) (frontier : Option WalPosition) (page : PageId)
    (snapshot : PageSnapshot) : Prop :=
  ∃ record, TakesEffect records frontier record ∧ record.position = snapshot.writtenAt ∧
    record.Carries page snapshot.value snapshot.version

abbrev StoreHolds (store : PageStore) (page : PageId) (position : WalPosition) : Prop :=
  LatestImage.Holds PageSnapshot.writtenAt store page position

abbrev StoreAdvances (store later : PageStore) : Prop :=
  LatestImage.Advances PageSnapshot.writtenAt store later

def epochAfter : Option U64 → Option U64
  | none => some 1
  | some epoch => checkedSucc epoch

namespace RecoveryModel

/-! ## The log -/

structure LogInvariant (model : RecoveryModel) : Prop where
  ordered : DurableLog.Ordered WalRecord.position model.walRecords
  accepted : ∀ record ∈ model.walRecords, model.Accepts record
  below : ∀ next ∈ model.nextPosition, ∀ record ∈ model.walRecords,
    record.position.get < next
  flushedBelow : ∀ next ∈ model.nextPosition, ∀ flushed ∈ model.flushPosition,
    flushed.get < next
  /-- The flushed record is there, or every record is past it. -/
  flushedRecorded : ∀ flushed ∈ model.flushPosition,
    (∃ record ∈ model.walRecords, record.position = flushed) ∨
      ∀ record ∈ model.walRecords, flushed < record.position
  highWater : model.logicalHighWater = model.flushPosition

/-! ## Transactions -/

/-- An identity the counters have passed. -/
def Issued (model : RecoveryModel) (txn : TransactionId) : Prop :=
  (∃ highWater ∈ model.epochHighWater, txn.epoch ≤ highWater) ∧
    (model.currentEpoch = some txn.epoch → ∀ next ∈ model.nextSequence,
      txn.sequence < next)

structure TransactionInvariant (model : RecoveryModel) : Prop where
  epochCurrent : ∀ epoch ∈ model.currentEpoch, model.epochHighWater = some epoch
  epochNext : model.nextEpoch = epochAfter model.epochHighWater
  issued : ∀ record ∈ model.walRecords, ∀ txn ∈ record.transaction, model.Issued txn
  /-- A transaction's pages come before its commit. -/
  pagesFirst : ∀ txn, ∀ page ∈ model.walRecords, ∀ commit ∈ model.walRecords,
    page.IsPageOf txn → commit.IsCommitOf txn → page.position < commit.position
  undecided : ∀ txn ∈ model.activeTransactions, ∀ record ∈ model.walRecords,
    ¬record.IsCommitOf txn
  /-- An active transaction lists its page records. -/
  listed : ∀ txn positions, model.activeTransactions[txn]? = some positions →
    positions = (model.walRecords.filter fun record => record.IsPageOf txn).map
      WalRecord.position

/-! ## Pages -/

structure PageInvariant (model : RecoveryModel) : Prop where
  owned : ∀ (page : PageId) (snapshot : PageSnapshot),
    model.pageStore[page]? = some snapshot →
    snapshot.BelongsTo model.logId model.lineageId page
  backed : ∀ (page : PageId) (snapshot : PageSnapshot),
    model.pageStore[page]? = some snapshot →
    Backed model.walRecords model.flushPosition page snapshot

/-! ## The published checkpoint -/

structure CheckpointInvariant (model : RecoveryModel) (checkpoint : CheckpointSnapshot) :
    Prop where
  logId_eq : checkpoint.logId = model.logId
  lineageId_eq : checkpoint.lineageId = model.lineageId
  pagesOwned : ∀ (page : PageId) (snapshot : PageSnapshot),
    checkpoint.pages[page]? = some snapshot →
    snapshot.BelongsTo model.logId model.lineageId page
  frontierFlushed : Reaches checkpoint.frontier.position model.flushPosition
  replayStartCovered : ∀ replayStart ∈ checkpoint.replayStart,
    Covers checkpoint.frontier.position replayStart
  /-- The store holds every page record the replay window leaves out. -/
  represented : ∀ record ∈ model.walRecords,
    record.kind = .transactionPage ∨ record.kind = .rawPage →
    ¬checkpoint.InWindow record.position →
    ∀ page ∈ record.page, StoreHolds model.pageStore page record.position
  /-- The store holds every checkpointed page. -/
  pagesHeld : ∀ (page : PageId) (snapshot : PageSnapshot),
    checkpoint.pages[page]? = some snapshot →
    StoreHolds model.pageStore page snapshot.writtenAt
  epochBelow : ∀ epoch ∈ checkpoint.transactionSummary.epochHighWater,
    ∃ highWater ∈ model.epochHighWater, epoch ≤ highWater

def SlotInvariant (model : RecoveryModel) : Prop :=
  ∀ checkpoint ∈ model.checkpointSlot, model.CheckpointInvariant checkpoint

/-! ## Phases -/

/-- The replay window over the records at or below `frontier`. -/
def windowThrough (model : RecoveryModel) (frontier : Option WalPosition) :
    List WalRecord :=
  match model.selectedCheckpoint with
  | some checkpoint =>
      (DurableLog.durablePrefix WalRecord.position frontier model.walRecords).filter
        fun record => checkpoint.InWindow record.position
  | none => DurableLog.durablePrefix WalRecord.position frontier model.walRecords

/-- The store holds everything that took effect at or below `frontier`. -/
def RepairedThrough (model : RecoveryModel) (frontier : Option WalPosition) : Prop :=
  ∀ record, TakesEffect model.walRecords frontier record →
    ∀ page ∈ record.page, StoreHolds model.pageStore page record.position

/-- The persisted transactions are those the window through `frontier`
restores. -/
def RestoredThrough (model : RecoveryModel) (frontier : Option WalPosition) : Prop :=
  model.persistedTransactions = (model.restoredFrom (model.windowThrough frontier)).active

/-- What recovery established and nothing has touched since. -/
structure Settled (model : RecoveryModel) (frontier : Option WalPosition) : Prop where
  selectedSlot : model.selectedCheckpoint = model.checkpointSlot
  quiet : model.activeTransactions = ∅
  repaired : model.RepairedThrough frontier
  restored : model.RestoredThrough frontier
  frontierFlushed : Reaches frontier model.flushPosition
  storeWithin : ∀ (page : PageId) (snapshot : PageSnapshot),
    model.pageStore[page]? = some snapshot → Covers frontier snapshot.writtenAt

/-- Retention was analyzed for the selected checkpoint. -/
structure Analyzed (model : RecoveryModel) (evidence : CompletionEvidence)
    (analysis : RetentionAnalysis) (checkpoint : CheckpointSnapshot) : Prop where
  fresh : model.HasFresh evidence
  recorded : model.retentionAnalysis = some analysis
  selected : model.selectedCheckpoint = some checkpoint
  floor : model.retentionFloor checkpoint = .ok analysis.retainedFirst
  anchored : analysis.checkpointAnchor = checkpoint.anchor

structure PhaseInvariant (model : RecoveryModel) : Prop where
  quiet : ¬model.IsLive → model.activeTransactions = ∅
  selectedSlot : model.phase = .selected ∨ model.phase = .replayPlanned ∨
      model.phase = .pagesRepaired ∨ model.phase = .transactionsRestored →
    model.selectedCheckpoint = model.checkpointSlot
  planned : model.phase = .replayPlanned ∨ model.phase = .pagesRepaired →
    model.replayPlan = some model.replayWindow
  repaired : model.phase = .pagesRepaired ∨ model.phase = .transactionsRestored →
    model.RepairedThrough model.flushPosition
  restored : model.phase = .transactionsRestored →
    model.RestoredThrough model.flushPosition
  settled : model.phase = .completeLive ∨ model.phase = .retentionAnalyzed →
    ∀ evidence, model.HasFresh evidence → model.Settled evidence.frontier
  analyzed : model.phase = .retentionAnalyzed →
    ∃ evidence analysis checkpoint, model.Analyzed evidence analysis checkpoint

/-- Everything a run keeps. -/
structure Sound (model : RecoveryModel) : Prop where
  guarded : model.Guarded
  log : model.LogInvariant
  transactions : model.TransactionInvariant
  pages : model.PageInvariant
  slot : model.SlotInvariant
  phases : model.PhaseInvariant

end RecoveryModel

end Ntsql.Recovery
