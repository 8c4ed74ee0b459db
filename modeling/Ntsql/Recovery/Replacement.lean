import Ntsql.Recovery.State

/-! # Candidate replacement

The staged replacement of the checkpoint slot and of the WAL generation. The
rename (`afterCurrentReplace`) is the only stage that changes selected state. -/

namespace Ntsql.Recovery

def beginCheckpointCandidate (snapshot : CheckpointSnapshot) : ModelM Unit := do
  let model ← get
  check (model.requireLiveOrComplete "begin_cp_candidate")
  let begun := { model with
    checkpointCandidate := .present snapshot .beforeCleanup .absent }
  set (begun.markCompletionStale "checkpoint replacement begun")

/-- The checkpoint candidate's entry once its replacement has moved to `next`. -/
def checkpointCandidateEntry (entry : CandidateEntry) : ReplacementStage → CandidateEntry
  | .afterCleanup => .absent
  | .afterCreate => .partialWrite
  | .afterWrite | .beforeSync | .afterSync | .beforeRename => .valid
  | .afterCurrentReplace => .absent
  | .duringDirectorySync | .afterDirectorySync | .beforeCleanup => entry

namespace RecoveryModel

/-- The model once a checkpoint replacement has moved to `next`: the rename
fills the slot, the last stage clears the candidate. -/
def reachCheckpointStage (model : RecoveryModel) (snapshot : CheckpointSnapshot)
    (entry : CandidateEntry) (next : ReplacementStage) : RecoveryModel :=
  let renamed :=
    if next = .afterCurrentReplace then
      { model with checkpointSlot := some snapshot }.markCompletionStale
        "checkpoint replaced"
    else model
  { renamed with
    checkpointCandidate :=
      if next = .afterDirectorySync then .absent
      else .present snapshot next (checkpointCandidateEntry entry next) }

end RecoveryModel

def advanceCheckpointCandidate : ModelM ReplacementStage := do
  let model ← get
  match model.checkpointCandidate with
  | .absent => throw .noPendingCandidate
  | .present snapshot stage entry =>
      let next ← check (okOr stage.next .replacementComplete)
      set (model.reachCheckpointStage snapshot entry next)
      return next

def setCheckpointCandidateEntry (entry : CandidateEntry) : ModelM Unit := do
  let model ← get
  match model.checkpointCandidate with
  | .absent => throw .noPendingCandidate
  | .present snapshot stage _ =>
      set { model with checkpointCandidate := .present snapshot stage entry }

def beginWalCandidate (replacement : WalReplacement) : ModelM Unit := do
  let model ← get
  check (model.requirePhase [.retentionAnalyzed] "begin_wal_candidate")
  let expectedGeneration ← check
    (okOr model.walGeneration.checkedNext .generationExhausted)
  check (rejectIf (replacement.targetGeneration ≠ expectedGeneration)
    (.metadataMismatch "candidate_generation"))
  check (rejectIf (replacement.formatVersion ≠ generationFormatVersion)
    (.metadataMismatch "candidate_format_version"))
  check (rejectIf
    (∃ record ∈ replacement.retainedSuffix,
      record.logId ≠ model.logId ∨ record.lineageId ≠ model.lineageId)
    .foreignSourceMetadata)
  set { model with
    locks := { model.locks with walOldInode := .live, walNewInode := .live }
    walCandidate := .present replacement .beforeCleanup .absent }

namespace RecoveryModel

/-- The rename: selected generation, anchor and records switch to the target. -/
def installReplacement (model : RecoveryModel) (replacement : WalReplacement) :
    RecoveryModel :=
  { model with
    walGeneration := replacement.targetGeneration
    walFormatVersion := replacement.formatVersion
    generationAnchor := some replacement.anchor
    walRecords := replacement.retainedSuffix
    retainedFirst := replacement.retainedFirst
    replacementLogicalHighWater := replacement.logicalHighWater
    replacementEpochHighWater := replacement.epochHighWater
    logicalHighWater := replacement.logicalHighWater
    flushPosition := replacement.logicalHighWater
    epochHighWater := replacement.epochHighWater }

end RecoveryModel

/-- The WAL candidate's entry once its replacement has moved to a stage. -/
def walCandidateEntry : ReplacementStage → CandidateEntry
  | .afterCreate => .partialWrite
  | .afterWrite | .beforeSync | .afterSync | .beforeRename => .valid
  | .afterCleanup | .afterCurrentReplace | .duringDirectorySync | .afterDirectorySync
  | .beforeCleanup => .absent

namespace RecoveryModel

/-- The model once a WAL replacement has moved to `next`: the rename installs
the target, the last stage clears the candidate and frees both inodes. -/
def reachWalStage (model : RecoveryModel) (replacement : WalReplacement)
    (next : ReplacementStage) : RecoveryModel :=
  let renamed :=
    if next = .afterCurrentReplace then model.installReplacement replacement else model
  if next = .afterDirectorySync then
    { renamed with
      walCandidate := .absent
      locks := { model.locks with walOldInode := .free, walNewInode := .free } }
  else
    { renamed with walCandidate := .present replacement next (walCandidateEntry next) }

end RecoveryModel

def advanceWalCandidate : ModelM ReplacementStage := do
  let model ← get
  match model.walCandidate with
  | .absent => throw .noPendingCandidate
  | .present replacement stage _ =>
      let next ← check (okOr stage.next .replacementComplete)
      set (model.reachWalStage replacement next)
      return next

def setWalCandidateEntry (entry : CandidateEntry) : ModelM Unit := do
  let model ← get
  match model.walCandidate with
  | .absent => throw .noPendingCandidate
  | .present replacement stage _ =>
      set { model with walCandidate := .present replacement stage entry }

def setSelectedEntriesForOpen (wal checkpoint : SelectedEntryState) : ModelM Unit := do
  let model ← get
  check (model.requirePhase [.crashed] "set_selected_entries_for_open")
  set { model with selectedWalEntry := wal, selectedCheckpointEntry := checkpoint }

def setCheckpointCandidateForOpen (candidate : CheckpointCandidateState) :
    ModelM Unit := do
  let model ← get
  check (model.requirePhase [.crashed] "set_checkpoint_candidate_for_open")
  set { model with checkpointCandidate := candidate }

def setWalCandidateForOpen (candidate : WalCandidateState) : ModelM Unit := do
  let model ← get
  check (model.requirePhase [.crashed] "set_wal_candidate_for_open")
  set { model with walCandidate := candidate }

end Ntsql.Recovery
