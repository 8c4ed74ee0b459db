import Ntsql.Recovery.State

/-! # Crash, reopen and selection

A crash keeps what is durable; `reopen` revalidates all of it and rebrands it
with a new lineage; `select` freezes the checkpoint the recovery uses. -/

namespace Ntsql.Recovery

/-- Every record belongs to this log and lineage, has its kind's shape and a
position above the previous one. -/
def validateRecords (logId : LogId) (lineageId : LineageId) :
    Option WalPosition → List WalRecord → Except ModelError Unit
  | _, [] => .ok ()
  | previous, record :: records => do
      rejectIf (record.logId ≠ logId ∨ record.lineageId ≠ lineageId)
        .foreignSourceMetadata
      validateRecordShape record
      rejectIf (∃ position ∈ previous, position ≥ record.position)
        (.invalidSelectedOnOpen "selected WAL positions are not strictly increasing")
      validateRecords logId lineageId (some record.position) records

/-- A snapshot filed under `page` in this log and lineage. -/
def PageSnapshot.BelongsTo (snapshot : PageSnapshot) (logId : LogId)
    (lineageId : LineageId) (page : PageId) : Prop :=
  snapshot.logId = logId ∧ snapshot.lineageId = lineageId ∧ snapshot.pageId = page

instance (snapshot : PageSnapshot) (logId : LogId) (lineageId : LineageId)
    (page : PageId) :
    Decidable (snapshot.BelongsTo logId lineageId page) :=
  inferInstanceAs (Decidable (_ ∧ _ ∧ _))

namespace RecoveryModel

/-- Position of the first durable record. -/
def currentRetainedFirst (model : RecoveryModel) : Option WalPosition :=
  model.durableWalRecords.head?.map WalRecord.position

/-- `wal_records` holds a commit of `transaction` at or below `frontier`. -/
def HasCommit (model : RecoveryModel) (frontier : Option WalPosition)
    (transaction : TransactionId) : Prop :=
  ∃ candidate ∈ model.walRecords,
    candidate.kind = .transactionCommit ∧ candidate.transaction = some transaction ∧
      Covers frontier candidate.position

instance (model : RecoveryModel) (frontier : Option WalPosition)
    (transaction : TransactionId) : Decidable (model.HasCommit frontier transaction) :=
  inferInstanceAs (Decidable (∃ candidate ∈ model.walRecords, _))

/-- A checkpointed page must be the image of the record it names, and a
transaction's page must be committed at or below the frontier. -/
def validateCheckpointPage (model : RecoveryModel) (frontier : Option WalPosition)
    (entry : PageId × PageSnapshot) : Except ModelError Unit := do
  let (page, snapshot) := entry
  rejectIf (¬snapshot.BelongsTo model.logId model.lineageId page ∨
      Precedes frontier (some snapshot.writtenAt))
    (.pageCheckpointContradiction page)
  let record ← okOr (model.recordAt snapshot.writtenAt)
    (.retentionBoundaryMissing snapshot.writtenAt)
  validateRecordShape record
  rejectIf (record.page ≠ some page ∨ record.pageValue ≠ some snapshot.value ∨
      record.pageVersion ≠ some snapshot.version)
    (.pageCheckpointContradiction page)
  if record.kind = .transactionPage then
    let transaction ← okOr record.transaction
      (.invalidRecordShape "checkpoint transaction page has no owner")
    rejectIf (¬model.HasCommit frontier transaction) (.pageUncommitted page transaction)
  else .ok ()

/-- A position listed for an active transaction must be one of its page
records at or below the frontier. -/
def validateActivePosition (model : RecoveryModel) (frontier : Option WalPosition)
    (transaction : TransactionId) (position : WalPosition) : Except ModelError Unit := do
  let record ← okOr (model.recordAt position) (.retentionBoundaryMissing position)
  rejectIf (record.kind ≠ .transactionPage ∨ record.transaction ≠ some transaction ∨
      Precedes frontier (some record.position))
    (.invalidRecordShape "checkpoint active transaction position is not exact")

def validateCompletePrefixCheckpoint (model : RecoveryModel)
    (checkpoint : CheckpointSnapshot) : Except ModelError Unit := do
  let frontier := checkpoint.frontier.position
  rejectIf (Precedes model.logicalHighWater frontier)
    (.invalidSelectedOnOpen "checkpoint frontier exceeds complete WAL prefix")
  match checkpoint.replayStart with
  | some replayStart =>
      rejectIf (Precedes frontier (some replayStart) ∨
          ¬∃ record ∈ model.walRecords, record.position = replayStart)
        (.retentionBoundaryMissing replayStart)
  | none => .ok ()
  forM checkpoint.pages.toList (model.validateCheckpointPage frontier)
  forM checkpoint.transactionSummary.active.toList fun entry =>
    forM entry.2 (model.validateActivePosition frontier entry.1)
  rejectIf (Precedes model.epochHighWater checkpoint.transactionSummary.epochHighWater)
    (.metadataMismatch "checkpoint_epoch_high_water")

/-- Generation zero carries no replacement header; every later generation
carries a format and an anchor. -/
def validateGenerationMetadata (model : RecoveryModel) : Except ModelError Unit :=
  if model.walGeneration.isZero then
    rejectIf (model.walFormatVersion ≠ completePrefixFormatVersion ∨
        model.generationAnchor.isSome ∨ model.retainedFirst.isSome ∨
        model.replacementLogicalHighWater.isSome ∨ model.replacementEpochHighWater.isSome)
      (.invalidSelectedOnOpen "generation-zero WAL metadata is inconsistent")
  else
    rejectIf (model.walFormatVersion ≠ generationFormatVersion ∨
        model.generationAnchor.isNone)
      (.invalidSelectedOnOpen "pruned WAL metadata is incomplete")

/-- The installed replacement header against the current WAL. -/
def validateReplacementHeader (model : RecoveryModel) : Except ModelError Unit := do
  rejectIf (¬model.walGeneration.isZero ∧ model.retainedFirst.isSome ∧
      model.currentRetainedFirst ≠ model.retainedFirst)
    (.invalidSelectedOnOpen "selected WAL retained-first metadata is inconsistent")
  rejectIf (¬model.walGeneration.isZero ∧ model.retainedFirst.isNone ∧
      ∃ current ∈ model.currentRetainedFirst,
        ∃ baseline ∈ model.replacementLogicalHighWater, current ≤ baseline)
    (.invalidSelectedOnOpen
      "selected WAL post-replacement suffix overlaps header high-water")
  rejectIf (¬model.walGeneration.isZero ∧
      Precedes model.logicalHighWater model.replacementLogicalHighWater)
    (.invalidSelectedOnOpen "selected WAL current high-water precedes replacement header")
  rejectIf (¬model.walGeneration.isZero ∧
      Precedes model.epochHighWater model.replacementEpochHighWater)
    (.invalidSelectedOnOpen "selected WAL current epoch precedes replacement header")
  rejectIf (model.flushPosition ≠ model.logicalHighWater)
    (.invalidSelectedOnOpen "selected WAL high-water metadata is inconsistent")

/-- The checkpoint slot against this log, lineage and generation. -/
def validateSlotOnOpen (model : RecoveryModel) : Except ModelError Unit := do
  rejectIf (model.selectedCheckpointEntry ≠ .valid)
    (.invalidSelectedOnOpen "selected checkpoint is partial or corrupt")
  match model.checkpointSlot with
  | some checkpoint =>
      rejectIf (checkpoint.logId ≠ model.logId ∨ checkpoint.lineageId ≠ model.lineageId)
        (.foreignLogId model.logId checkpoint.logId "selected checkpoint on open")
      forM checkpoint.pages.toList fun entry =>
        rejectIf (¬entry.2.BelongsTo model.logId model.lineageId entry.1)
          .foreignSourceMetadata
  | none => .ok ()
  if model.walGeneration.isZero then
    match model.checkpointSlot with
    | some checkpoint => model.validateCompletePrefixCheckpoint checkpoint
    | none => .ok ()
  else
    let checkpoint ← okOr model.checkpointSlot
      (.invalidSelectedOnOpen "pruned WAL has no selected checkpoint")
    rejectIf (some checkpoint.anchor ≠ model.generationAnchor)
      (.invalidSelectedOnOpen "pruned WAL checkpoint anchor does not match generation")

def validateSelectedOnOpen (model : RecoveryModel) : Except ModelError Unit := do
  rejectIf (model.selectedWalEntry ≠ .valid)
    (.invalidSelectedOnOpen "selected WAL is partial or corrupt")
  model.validateGenerationMetadata
  validateRecords model.logId model.lineageId none model.walRecords
  model.validateReplacementHeader
  forM model.pageStore.toList fun entry =>
    rejectIf (¬entry.2.BelongsTo model.logId model.lineageId entry.1)
      .foreignSourceMetadata
  model.validateSlotOnOpen

def candidateAliasContext (model : RecoveryModel) : Option String :=
  match model.checkpointCandidate with
  | .present _ _ .inodeAlias => some "checkpoint candidate"
  | _ =>
      match model.walCandidate with
      | .present _ _ .inodeAlias => some "WAL candidate"
      | _ => none

def rejectAlias (model : RecoveryModel) : Except ModelError Unit :=
  match model.candidateAliasContext with
  | some context => .error (.inodeAliasCandidate context)
  | none => .ok ()

end RecoveryModel

def WalRecord.rebrand (lineage : LineageId) (record : WalRecord) : WalRecord :=
  { record with lineageId := lineage }

def PageSnapshot.rebrand (lineage : LineageId) (snapshot : PageSnapshot) : PageSnapshot :=
  { snapshot with lineageId := lineage }

def PageStore.rebrand (lineage : LineageId) (store : PageStore) : PageStore :=
  store.map fun _ snapshot => snapshot.rebrand lineage

def CheckpointSnapshot.rebrand (lineage : LineageId) (checkpoint : CheckpointSnapshot) :
    CheckpointSnapshot :=
  { checkpoint with
    lineageId := lineage
    pages := PageStore.rebrand lineage checkpoint.pages }

/-- Every phase but `crashed`. -/
def crashablePhases : List RecoveryPhase :=
  [.live, .completeLive, .retentionAnalyzed, .reclaimed, .unrecovered, .selected,
    .replayPlanned, .pagesRepaired, .transactionsRestored]

namespace RecoveryModel

/-- What a crash leaves; the unflushed tail survives only when it is preserved. -/
def afterCrash (model : RecoveryModel) (preserveCompleteTail : Bool) : RecoveryModel :=
  { model with
    walRecords :=
      if preserveCompleteTail then model.walRecords
      else match model.flushPosition with
        | some frontier => model.walRecords.filter fun record =>
            record.position ≤ frontier
        | none => []
    logicalHighWater := model.flushPosition
    activeTransactions := ∅
    persistedTransactions := ∅
    committedTransactions := ∅
    currentEpoch := none
    nextSequence := none
    completionEvidence := none
    retentionAnalysis := none
    replayPlan := none
    restorationSummary := none
    selectedCheckpoint := none
    locks := .allFree
    phase := .crashed }

/-- Rebrand everything persisted with the new lineage. -/
def afterReopen (model : RecoveryModel) (lineage : LineageId) : RecoveryModel :=
  { model with
    lineageId := lineage
    walRecords := model.walRecords.map (WalRecord.rebrand lineage)
    pageStore := PageStore.rebrand lineage model.pageStore
    checkpointSlot := model.checkpointSlot.map (CheckpointSnapshot.rebrand lineage)
    checkpointCandidate := .absent
    walCandidate := .absent
    locks := .allRecovery
    phase := .unrecovered }

end RecoveryModel

def crashWithCompleteTail (preserveCompleteTail : Bool) : ModelM Unit := do
  let model ← get
  check (model.requirePhase crashablePhases "crash")
  set (model.afterCrash preserveCompleteTail)

/-- Crash and discard complete but unflushed WAL records. -/
def crash : ModelM Unit := crashWithCompleteTail false

/-- Crash while retaining a physically complete, unflushed WAL tail. -/
def crashPreservingCompleteWalTail : ModelM Unit := crashWithCompleteTail true

def reopen : ModelM LineageId := do
  let model ← get
  check (model.requirePhase [.crashed] "reopen")
  let lineage ← check (okOr model.lineageId.checkedNext .lineageExhausted)
  check model.validateSelectedOnOpen
  check model.rejectAlias
  set (model.afterReopen lineage)
  return lineage

namespace RecoveryModel

def observeMinimalMetadata (model : RecoveryModel) : MinimalMetadata :=
  ⟨model.logId, model.walGeneration⟩

def observeFullMetadata (model : RecoveryModel) : Option FullMetadata :=
  model.generationAnchor.map fun requiredAnchor =>
    { minimal := model.observeMinimalMetadata
      formatVersion := model.walFormatVersion
      retainedFirst := model.currentRetainedFirst
      logicalHighWater := model.logicalHighWater
      epochHighWater := model.epochHighWater
      requiredAnchor := requiredAnchor }

/-- A pruned generation is selected only through its exact observed metadata
and the checkpoint its anchor names. -/
def checkPrunedSelection (model : RecoveryModel) (minimal : MinimalMetadata)
    (full : Option FullMetadata) : Except ModelError Unit := do
  let full ← okOr full (.missingGenerationAnchor model.walGeneration)
  rejectIf (full.minimal.logId ≠ model.logId) .foreignSourceMetadata
  rejectIf (full.minimal ≠ minimal) (.metadataMismatch "minimal_full_generation")
  rejectIf (full.formatVersion ≠ model.walFormatVersion ∨
      full.retainedFirst ≠ model.currentRetainedFirst ∨
      full.logicalHighWater ≠ model.logicalHighWater ∨
      full.epochHighWater ≠ model.epochHighWater)
    (.metadataMismatch "current_full_metadata")
  rejectIf (full.formatVersion ≠ generationFormatVersion)
    (.metadataMismatch "pruned_format_version")
  let anchor ← okOr model.generationAnchor (.missingGenerationAnchor model.walGeneration)
  rejectIf (full.requiredAnchor ≠ anchor)
    (.checkpointAnchorMismatch anchor (some full.requiredAnchor))
  let checkpoint ← okOr model.checkpointSlot
    (.noCheckpointForNonzeroGeneration model.walGeneration)
  rejectIf (checkpoint.anchor ≠ anchor)
    (.checkpointAnchorMismatch anchor (some checkpoint.anchor))
  rejectIf (checkpoint.logId ≠ model.logId)
    (.foreignLogId model.logId checkpoint.logId "nonzero generation checkpoint")

def checkSelection (model : RecoveryModel) (minimal : MinimalMetadata)
    (full : Option FullMetadata) : Except ModelError Unit := do
  rejectIf (minimal.logId ≠ model.logId) .foreignSourceMetadata
  rejectIf (minimal ≠ model.observeMinimalMetadata)
    (.metadataMismatch "current_minimal_metadata")
  if model.walGeneration.isZero then
    rejectIf full.isSome (.metadataMismatch "generation_zero_full_metadata")
    match model.checkpointSlot with
    | some checkpoint => model.validateCompletePrefixCheckpoint checkpoint
    | none => .ok ()
  else
    model.checkPrunedSelection minimal full
  match model.checkpointSlot with
  | some checkpoint =>
      rejectIf (checkpoint.logId ≠ model.logId ∨ checkpoint.lineageId ≠ model.lineageId)
        (.foreignLogId model.logId checkpoint.logId "checkpoint selection")
  | none => .ok ()

end RecoveryModel

def selectObserved (minimal : MinimalMetadata) (full : Option FullMetadata) :
    ModelM Unit := do
  let model ← get
  check (model.requirePhase [.unrecovered] "select_observed")
  check (model.checkSelection minimal full)
  set { model with
    selectedCheckpoint := model.checkpointSlot
    phase := .selected }

def select : ModelM Unit := do
  let model ← get
  selectObserved model.observeMinimalMetadata model.observeFullMetadata

end Ntsql.Recovery
