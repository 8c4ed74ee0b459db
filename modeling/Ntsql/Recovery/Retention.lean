import Ntsql.Recovery.Replacement
import Ntsql.Recovery.Replay

/-! # Retention analysis and reclamation

The retained floor is the least of the checkpoint frontier, its replay start,
the first position of every unresolved transaction, every stored page's
position and the previous generation's own floor. -/

namespace Ntsql.Recovery

namespace RecoveryModel

/-- Completion evidence must exist and not be stale. -/
def requireFreshEvidence (model : RecoveryModel) : Except ModelError Unit := do
  let evidence ← okOr model.completionEvidence .noCompletionEvidence
  if evidence.stale then
    let reason ← okOr evidence.staleReason
      (.invalidRecordShape "stale completion evidence has no reason")
    .error (.staleCompletionEvidence reason)
  else .ok ()

/-- Lower the floor to a position that must still be recorded. -/
def retainBoundary (model : RecoveryModel) (earliest : Option WalPosition)
    (boundary : Option WalPosition) : Except ModelError (Option WalPosition) :=
  match boundary with
  | none => .ok earliest
  | some position => do
      rejectIf (¬∃ record ∈ model.walRecords, record.position = position)
        (.retentionBoundaryMissing position)
      return lowerEarliest earliest position

/-- Lower the floor to an unresolved transaction's first position. -/
def retainTransaction (model : RecoveryModel) (earliest : Option WalPosition)
    (entry : TransactionId × List WalPosition) : Except ModelError (Option WalPosition) :=
  match entry.2.head? with
  | none => .ok earliest
  | some position => do
      let record ← okOr (model.recordAt position) (.retentionBoundaryMissing position)
      rejectIf (record.kind ≠ .transactionPage ∨ record.transaction ≠ some entry.1 ∨
          record.logId ≠ model.logId ∨ record.lineageId ≠ model.lineageId)
        (.invalidRecordShape "active transaction retention boundary is not exact")
      return lowerEarliest earliest position

/-- Lower the floor to a stored page's exact backing record. -/
def retainStoredPage (model : RecoveryModel) (checkpoint : CheckpointSnapshot)
    (earliest : Option WalPosition) (snapshot : PageSnapshot) :
    Except ModelError (Option WalPosition) := do
  rejectIf (∃ checkpointed ∈ checkpoint.pages[snapshot.pageId]?,
      checkpointed ≠ snapshot ∧ checkpointed.writtenAt ≥ snapshot.writtenAt)
    (.pageCheckpointContradiction snapshot.pageId)
  let record ← okOr (model.recordAt snapshot.writtenAt)
    (.retentionBoundaryMissing snapshot.writtenAt)
  rejectIf (record.logId ≠ snapshot.logId ∨ record.lineageId ≠ snapshot.lineageId ∨
      record.page ≠ some snapshot.pageId ∨ record.pageValue ≠ some snapshot.value ∨
      record.pageVersion ≠ some snapshot.version)
    (.pageCheckpointContradiction snapshot.pageId)
  if record.kind = .transactionPage then
    let transaction ← okOr record.transaction
      (.invalidRecordShape "retained transaction page has no owner")
    rejectIf (¬model.HasCommit model.logicalHighWater transaction)
      (.pageUncommitted snapshot.pageId transaction)
  else
    rejectIf (record.kind ≠ .rawPage ∨ record.transaction.isSome)
      (.invalidRecordShape "page-store retention boundary has invalid record kind")
  return lowerEarliest earliest snapshot.writtenAt

/-- The floor over all retention sources, in the order the source visits them. -/
def retentionFloor (model : RecoveryModel) (checkpoint : CheckpointSnapshot) :
    Except ModelError (Option WalPosition) := do
  let earliest ← model.retainBoundary none checkpoint.frontier.position
  let earliest ← model.retainBoundary earliest checkpoint.replayStart
  let earliest ← model.persistedTransactions.toList.foldlM
    model.retainTransaction earliest
  let earliest ← (model.pageStore.toList.map Prod.snd).foldlM
    (model.retainStoredPage checkpoint) earliest
  model.retainBoundary earliest model.retainedFirst

end RecoveryModel

def analyzeRetention : ModelM Unit := do
  let model ← get
  check (model.requirePhase [.completeLive] "analyze_retention")
  check model.requireFreshEvidence
  let checkpoint ← check (okOr model.selectedCheckpoint .noCheckpointForReclamation)
  check (rejectIf
    (checkpoint.logId ≠ model.logId ∨ checkpoint.lineageId ≠ model.lineageId)
    (.foreignLogId model.logId checkpoint.logId "retention checkpoint"))
  let floor ← check (model.retentionFloor checkpoint)
  set { model with
    retentionAnalysis := some
      { retainedFirst := floor
        checkpointAnchor := checkpoint.anchor
        checkpointLogId := checkpoint.logId }
    phase := .retentionAnalyzed }

namespace RecoveryModel

/-- The records at or above the analyzed floor; none when there is no floor. -/
def retainedSuffix (model : RecoveryModel) (retainedFirst : Option WalPosition) :
    List WalRecord :=
  match retainedFirst with
  | some floor => model.walRecords.filter fun record => record.position ≥ floor
  | none => []

/-- The replacement `reclaim` builds, after every check that precedes it. -/
def buildReplacement (model : RecoveryModel) : Except ModelError WalReplacement := do
  rejectIf
    (model.walRecords.getLast?.map WalRecord.position ≠ model.flushPosition ∧
      model.walRecords ≠ [])
    .volatileSuffixPresent
  let analysis ← okOr model.retentionAnalysis .noRetentionAnalysis
  let generation ← okOr model.walGeneration.checkedNext .generationExhausted
  let checkpoint ← okOr model.selectedCheckpoint .noCheckpointForReclamation
  rejectIf (checkpoint.logId ≠ model.logId ∨ checkpoint.logId ≠ analysis.checkpointLogId)
    (.foreignLogId model.logId checkpoint.logId "reclamation checkpoint")
  rejectIf (checkpoint.anchor ≠ analysis.checkpointAnchor)
    (.checkpointAnchorMismatch analysis.checkpointAnchor (some checkpoint.anchor))
  let suffix := model.retainedSuffix analysis.retainedFirst
  match analysis.retainedFirst with
  | some position =>
      rejectIf (suffix.head?.map WalRecord.position ≠ some position)
        (.retentionBoundaryMissing position)
  | none => .ok ()
  match model.walCandidate with
  | .absent => .ok ()
  | .present .. => .error .noPendingCandidate
  return {
    targetGeneration := generation
    anchor := analysis.checkpointAnchor
    retainedSuffix := suffix
    retainedFirst := analysis.retainedFirst
    formatVersion := generationFormatVersion
    logicalHighWater := model.logicalHighWater
    epochHighWater := model.epochHighWater }

end RecoveryModel

/-- Advance the WAL candidate until it reports its last stage or reports that
the replacement is complete. Ten steps exceed the nine stage changes. -/
def advanceToCompletion : Nat → ModelM Unit
  | 0 => return ()
  | steps + 1 => fun model =>
      match advanceWalCandidate model with
      | .ok stage model =>
          if stage = .afterDirectorySync then .ok () model
          else advanceToCompletion steps model
      | .error .replacementComplete model => .ok () model
      | .error error model => .error error model

def reclaim : ModelM Generation := do
  let model ← get
  check (model.requirePhase [.retentionAnalyzed] "reclaim")
  let replacement ← check model.buildReplacement
  beginWalCandidate replacement
  modify fun model => { model with retentionAnalysis := none }
  advanceToCompletion 10
  modify fun model => { model with phase := .reclaimed }
  return replacement.targetGeneration

end Ntsql.Recovery
