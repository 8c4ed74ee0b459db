import Ntsql.Storage.CommitLog

/-! # Reclaiming a commit log

The records that are still needed are written to a candidate file under a header
that remembers the counters, and the candidate replaces the log's file. -/

namespace Ntsql.Storage

open Bytes

/-- What the owner of a restart authorizes. The anchor's version is that of the
fingerprint format, which is never zero. -/
structure WalReclamationPermit where
  persistentLogId : PersistentLogId
  lineage : LogLineage
  durableFrontier : Option LogSequenceNumber
  retainedFirstLogicalRecord : Option LogSequenceNumber
  allocatedEpochHighWater : NonZeroU64
  physicalFormatVersion : U16
  sourceGeneration : U64
  selectedCheckpointAnchor : U16 × U128
  anchorVersion_ne_zero : selectedCheckpointAnchor.1 ≠ 0
deriving DecidableEq

structure WalReclamationEffectObservation where
  oldGeneration : U64
  newGeneration : U64
  physicalFormatVersion : U16
  retainedFirstLogicalRecord : Option LogSequenceNumber
  durableFrontier : Option LogSequenceNumber
  retainedLogicalRecordCount : Nat
  retainedPhysicalUnitCount : Nat
  allocatedEpochHighWater : NonZeroU64
deriving DecidableEq

inductive WalReclamationHeader where
  | v4 (header : Bytes 128)
  | v5 (header : Bytes 192)

def WalReclamationHeader.asBytes : WalReclamationHeader → List UInt8
  | .v4 header => header.toList
  | .v5 header => header.toList

/-- Everything that is decided before the first request. -/
structure ReclamationPlan (width : Nat) where
  format : LogFormat
  generation : U64
  retainedFirst : Option LogSequenceNumber
  logicalHighWater : Option LogSequenceNumber
  allocatedEpochHighWater : NonZeroU64
  anchor : U16 × U128
  records : List (FileLogRecord width)
  header : WalReclamationHeader
  frames : List (Bytes 56)

namespace FileCommitLog

variable {width : Nat}

abbrev Reclaim (width : Nat) :=
  EStateM FileTransactionRestartWalReclamationError (FileCommitLog width)

def buildReclamationFramePlan (records : List (FileLogRecord width))
    (logicalHighWater : Option U64) (layout : PageLayout) (format : LogFormat) :
    Except FileTransactionRestartWalReclamationError (List (Bytes 56)) :=
  let frames := records.flatMap (recordFrames format layout)
  if records = [] then
    .ok frames
  else do
    let highWater ← okOr logicalHighWater .permitMismatch
    return frames ++ [buildFrame format .durableThrough highWater 0 0]

/-- The anchor is compared once there is one. -/
def anchorMatches (log : FileCommitLog width) (permit : WalReclamationPermit) : Bool :=
  match log.selectedCheckpointAnchor with
  | some anchor => anchor = permit.selectedCheckpointAnchor
  | none => log.generation = 0

def retainedStart (log : FileCommitLog width) (permit : WalReclamationPermit) :
    Except FileTransactionRestartWalReclamationError Nat :=
  match permit.retainedFirstLogicalRecord with
  | some floor =>
      okOr ((log.records.take log.durableLen).findIdx? fun record =>
        record.position = floor) (.retainedBoundaryMissing floor.get)
  | none => .ok log.durableLen

def reclamationHeader (log : FileCommitLog width) (metadata : V4HeaderMetadata)
    (format : LogFormat) (pageWidth : U64) :
    Except FileTransactionRestartWalReclamationError WalReclamationHeader :=
  if format = .v5 then do
    let databaseFileIdentity ← okOr log.databaseFileIdentity .missingDatabaseFileIdentity
    return .v5 (buildHeaderV5Reclaimed metadata pageWidth databaseFileIdentity)
  else
    .ok (.v4 (buildHeaderV4 metadata pageWidth))

/-- The first part of `reclaim_restart_wal_prefix`, which only reads the log. -/
def planReclamation (log : FileCommitLog width) (permit : WalReclamationPermit) :
    Except FileTransactionRestartWalReclamationError (ReclamationPlan width) := do
  let unsupported := .unsupportedPhysicalFormat log.format.version
  rejectIf log.writer.poisoned .poisonedWriter
  rejectIf (log.format ≠ .v3 ∧ log.format ≠ .v4 ∧ log.format ≠ .v5) unsupported
  let allocatedEpochHighWater ← okOr log.allocatedEpochHighWater .noAllocatedEpoch
  let currentHighWater := log.durablePosition
  rejectIf (permit.persistentLogId ≠ log.persistentId ∨ permit.lineage ≠ log.lineage ∨
      permit.physicalFormatVersion ≠ log.format.version ∨
      permit.sourceGeneration ≠ log.generation ∨ permit.durableFrontier ≠
        currentHighWater ∨
      permit.allocatedEpochHighWater ≠ allocatedEpochHighWater ∨
        ¬log.anchorMatches permit)
    .permitMismatch
  rejectIf (log.records.length ≠ log.durableLen)
    (.volatileLogicalSuffix log.durableLen log.records.length)
  let start ← log.retainedStart permit
  let records := (log.records.take log.durableLen).drop start
  let generation ← okOr (checkedSucc log.generation) .generationExhausted
  let layout ← (PageLayout.forConst width).mapError fun _ => unsupported
  let logicalHighWater := currentHighWater.map LogSequenceNumber.get
  let format := if log.format = .v5 then .v5 else .v4
  let frames ← buildReclamationFramePlan records logicalHighWater layout format
  let anchor := permit.selectedCheckpointAnchor
  let header ← log.reclamationHeader {
    persistentId := log.persistentId
    generation
    retainedFirst := permit.retainedFirstLogicalRecord.map LogSequenceNumber.get
    logicalHighWater
    allocatedEpochHighWater
    selectedCheckpointAnchor := anchor } format layout.width
  return {
    format, generation
    retainedFirst := permit.retainedFirstLogicalRecord
    logicalHighWater := currentHighWater
    allocatedEpochHighWater, anchor, records, header, frames }

/-! ## Replacing the file -/

/-- Reaching an armed fault poisons the log. -/
def reclamationFault (point : FaultPoint) : Reclaim width Unit := do
  if ← consumeFault point then
    modify fun log => { log with writer := { log.writer with poisoned := true } }
    throw (.injectedFault point)

/-- A request that writes no bytes. Its failure poisons the log. -/
def reclamationRequest (stage : FileIoStage) : Reclaim width Unit :=
  request .io (AppendFile.syncAll stage true)

/-- `write_all` on the candidate file, whose failure poisons the log. -/
def writeCandidate {length : Nat} (frames : List (FileIoStage × Bytes length))
    (candidate : List UInt8) : Reclaim width (List UInt8) :=
  fun log =>
    match AppendFile.writeFrames frames {
      bytes := candidate, script := log.writer.script, poisoned := false } with
    | (.ok (), file) =>
        .ok file.bytes { log with writer := { log.writer with script := file.script } }
    | (.error stage, file) => .error (.io stage) { log with
        writer := { log.writer with script := file.script, poisoned := true } }

def writeReclamationHeader (candidate : List UInt8) :
    WalReclamationHeader → Reclaim width (List UInt8)
  | .v4 header => writeCandidate [(.writeReclamationHeader, header)] candidate
  | .v5 header => writeCandidate [(.writeReclamationHeader, header)] candidate

/-- Write and synchronize the candidate, and rename it over the log's file. -/
def createCandidate (plan : ReclamationPlan width) : Reclaim width (List UInt8) := do
  reclamationFault .beforeReclamationCandidateCleanup
  reclamationRequest .removeReclamationCandidate
  reclamationRequest .createReclamationCandidate
  reclamationRequest .acquireReclamationCandidateLock
  reclamationFault .beforeReclamationWrite
  let candidate ← writeReclamationHeader [] plan.header
  reclamationFault .duringReclamationCopy
  let candidate ← writeCandidate
    (plan.frames.map fun frame => (.writeReclamationFrame, frame)) candidate
  reclamationFault .beforeReclamationCandidateSync
  reclamationRequest .syncReclamationCandidate
  reclamationFault .afterReclamationCandidateSync
  reclamationFault .beforeReclamationRename
  reclamationRequest .renameReclamationCandidate
  return candidate

/-- Make the rename durable. -/
def publishCandidate : Reclaim width Unit := do
  reclamationFault .afterReclamationRename
  reclamationFault .duringReclamationDirectorySync
  reclamationRequest .syncReclamationDirectory
  reclamationRequest .seekEnd

def adopt (log : FileCommitLog width) (plan : ReclamationPlan width) :
    FileCommitLog width :=
  { log with
    writer := { log.writer with poisoned := false }
    format := plan.format
    generation := plan.generation
    reclaimedRetainedFirst := plan.retainedFirst
    reclaimedLogicalHighWater := plan.logicalHighWater
    reclaimedAllocatedEpochHighWater := some plan.allocatedEpochHighWater
    selectedCheckpointAnchor := some plan.anchor
    records := plan.records
    durableLen := plan.records.length
    nextPosition :=
      match plan.logicalHighWater with
      | some position => checkedSucc position.get
      | none => some 1 }

def reclaimRestartWalPrefix (permit : WalReclamationPermit) :
    Reclaim width WalReclamationEffectObservation := do
  let plan ← check ((← get).planReclamation permit)
  let candidate ← createCandidate plan
  modify fun log => { log with writer := { log.writer with bytes := candidate } }
  publishCandidate
  modify fun log => log.adopt plan
  return {
    oldGeneration := permit.sourceGeneration
    newGeneration := plan.generation
    physicalFormatVersion := plan.format.version
    retainedFirstLogicalRecord := permit.retainedFirstLogicalRecord
    durableFrontier := permit.durableFrontier
    retainedLogicalRecordCount := plan.records.length
    retainedPhysicalUnitCount := plan.frames.length
    allocatedEpochHighWater := plan.allocatedEpochHighWater }

end FileCommitLog

end Ntsql.Storage
