import Ntsql.Foundation.CheckedSlice
import Ntsql.Foundation.PortRun
import Ntsql.Transaction.CheckpointSelection
import Ntsql.Transaction.DurablePrefix

/-! # Reclaiming the prefix of a write-ahead log

An owner whose retention was analyzed observes everything again, frees the
prefix once and observes what is installed. Names drop the source's prefix
`DurableTransaction`; the error types of the ports are one type. -/

namespace Ntsql.Transaction

open Checked PortRun

/-! ## Evidence -/

inductive RestartWalRetentionRequirementCause where
  | selectedCheckpointFrontier
  | selectedReplayStart (cause : RestartReplayStartCause)
  | storedPage (pageNumber : PageNumber)
  | unresolvedTransaction (transaction : DurableTransactionIdentityObservation)
  | sourceConstraint
deriving DecidableEq

structure RestartWalRetentionRequirement where
  position : LogSequenceNumber
  cause : RestartWalRetentionRequirementCause
deriving DecidableEq

structure RestartWalRetentionAnalysis where
  persistentLogId : PersistentLogId
  lineage : LogLineage
  durableFrontier : Option LogSequenceNumber
  retainedFirstRecord : Option LogSequenceNumber
  allocatedEpochHighWater : NonZeroU64
  requirements : List RestartWalRetentionRequirement
  storePageCount : Nat
  unresolvedTransactionCount : Nat
deriving DecidableEq

structure RestartRetentionMetadataObservation where
  lineage : LogLineage
  allocatedEpochHighWater : NonZeroU64
  oldestRequiredLogPosition : Option LogSequenceNumber
deriving DecidableEq

structure RestartWalReclamationSourceObservation where
  lineage : LogLineage
  physicalFormatVersion : U16
  sourceGeneration : U64
  retainedFirstLogicalRecord : Option LogSequenceNumber
  logicalPositionHighWater : Option LogSequenceNumber
  allocatedEpochHighWater : NonZeroU64
  selectedCheckpointAnchor : Option RestartSelectedCheckpointAnchor
deriving DecidableEq

structure RestartWalReclamationReplacementObservation where
  oldGeneration : U64
  newGeneration : U64
  physicalFormatVersion : U16
deriving DecidableEq

structure RestartWalReclamationEffectObservation where
  replacement : RestartWalReclamationReplacementObservation
  retainedFirstLogicalRecord : Option LogSequenceNumber
  logicalPositionHighWater : Option LogSequenceNumber
  retainedLogicalRecordCount : U64
  retainedPhysicalUnitCount : U64
  allocatedEpochHighWater : NonZeroU64
deriving DecidableEq

/-- `NonZeroU16`. -/
structure NonZeroU16 where
  get : U16
  nonzero : get ≠ 0
deriving DecidableEq

def NonZeroU16.new (value : U16) : Option NonZeroU16 :=
  if nonzero : value ≠ 0 then some ⟨value, nonzero⟩ else none

theorem NonZeroU16.new_eq_some_iff {value : U16} {nonzero : NonZeroU16} :
    NonZeroU16.new value = some nonzero ↔ nonzero.get = value := by
  rcases nonzero with ⟨get, proof⟩
  rw [NonZeroU16.new]
  split
  · simp [eq_comm]
  · rename_i zero
    simp only [reduceCtorEq, false_iff]
    rintro rfl
    exact zero proof

/-- Authority for one invocation of the effect. -/
structure RestartWalReclamationPermit where
  persistentLogId : PersistentLogId
  lineage : LogLineage
  durableFrontier : Option LogSequenceNumber
  retainedFirstLogicalRecord : Option LogSequenceNumber
  allocatedEpochHighWater : NonZeroU64
  physicalFormatVersion : NonZeroU16
  sourceGeneration : U64
  selectedCheckpointAnchor : RestartSelectedCheckpointAnchor
deriving DecidableEq

structure RestartWalReclamationReceipt where
  persistentLogId : PersistentLogId
  sourcePhysicalFormatVersion : NonZeroU16
  replacementPhysicalFormatVersion : NonZeroU16
  selectedCheckpointAnchor : RestartSelectedCheckpointAnchor
  effect : RestartWalReclamationEffectObservation
deriving DecidableEq

inductive RestartWalReclamationEvidenceError (RetentionError : Type) where
  | currentCheckpointChanged
  | freshRetention (source : RetentionError)
  | frozenRetentionAnalysisChanged
  | sourceLineageMismatch (expected actual : LogLineage)
  | zeroPhysicalFormatVersion
  | sourceObservationChanged (expectedGeneration actualGeneration : U64)
  | foreignSourcePosition (position : LogSequenceNumber)
  | sourceLogicalHighWaterChanged (expected actual : Option U64)
  | sourceRetainedFirstRecordChanged (expected actual : Option U64)
  | sourceAlreadyPrunedPastFloor (retainedFirst floor : U64)
  | retainedLogicalRecordCountWidthExceeded (recordCount : Nat)
  | sourceAllocatedEpochHighWaterChanged (expected actual : U64)
  | selectedCheckpointAnchorChanged (expected : RestartSelectedCheckpointAnchor)
      (actual : Option RestartSelectedCheckpointAnchor)
  | sourceGenerationExhausted (generation : U64)
  | effectGenerationChanged (expectedOld actualOld actualNew : U64)
  | effectPhysicalFormatVersionZero
  | effectRetainedFirstRecordChanged (expected actual : Option U64)
  | effectLogicalHighWaterChanged (expected actual : Option U64)
  | effectAllocatedEpochHighWaterChanged (expected actual : U64)
  | effectLogicalRecordCountChanged (expected actual : U64)
  | effectPhysicalUnitCountEmpty (retainedLogicalRecordCount : U64)
  | installedGenerationChanged (expected actual : U64)
  | installedPhysicalFormatVersionChanged (expected actual : U16)
  | installedRetainedRecordCountChanged (expected actual : Nat)
  | installedRetainedRecordChanged (index : Nat) (expectedPosition actualPosition : U64)
deriving DecidableEq

inductive RestartWalReclamationPreflightError
    (PortError PlanningError RetentionError : Type) where
  | checkpointSource (source : PortError)
  | currentCheckpointMissing
  | storeInventory (source : PortError)
  | retentionMetadata (source : PortError)
  | reclamationSource (source : PortError)
  | walSource (source : PortError)
  | replayPlanning (source : PlanningError)
  | evidence (source : RestartWalReclamationEvidenceError RetentionError)

inductive RestartWalReclamationOutcomeIndeterminateError
    (PortError RetentionError : Type) where
  | effect (source : PortError)
  | receipt (source : RestartWalReclamationEvidenceError RetentionError)
  | installedSource (source : PortError)
  | installedWal (source : PortError)
  | installedEvidence (source : RestartWalReclamationEvidenceError RetentionError)

inductive RestartWalReclamationError (PortError PlanningError RetentionError : Type) where
  | preflight
      (source : RestartWalReclamationPreflightError PortError PlanningError
        RetentionError)
  | outcomeIndeterminate
      (source : RestartWalReclamationOutcomeIndeterminateError PortError RetentionError)

/-! ## Validation before the effect -/

def restartWalRetentionAnalysesMatch
    (expected actual : RestartWalRetentionAnalysis) : Bool :=
  expected.persistentLogId = actual.persistentLogId &&
  expected.lineage = actual.lineage &&
  expected.durableFrontier = actual.durableFrontier &&
  expected.retainedFirstRecord = actual.retainedFirstRecord &&
  expected.allocatedEpochHighWater = actual.allocatedEpochHighWater &&
  expected.storePageCount = actual.storePageCount &&
  expected.unresolvedTransactionCount = actual.unresolvedTransactionCount &&
  expected.requirements.length = actual.requirements.length &&
  (expected.requirements.zip actual.requirements).all
    (fun pair => pair.1.position = pair.2.position && pair.1.cause = pair.2.cause)

def restartWalReclamationSourceObservationsMatch
    (expected actual : RestartWalReclamationSourceObservation) : Bool :=
  expected.lineage = actual.lineage &&
  expected.physicalFormatVersion = actual.physicalFormatVersion &&
  expected.sourceGeneration = actual.sourceGeneration &&
  expected.retainedFirstLogicalRecord = actual.retainedFirstLogicalRecord &&
  expected.logicalPositionHighWater = actual.logicalPositionHighWater &&
  expected.allocatedEpochHighWater = actual.allocatedEpochHighWater &&
  expected.selectedCheckpointAnchor = actual.selectedCheckpointAnchor

section Validation

variable {width : Nat} {RetentionError : Type}

structure RestartWalReclamationValidatedPreflight (width : Nat) where
  sourcePhysicalFormatVersion : NonZeroU16
  sourceGeneration : U64
  selectedCheckpointAnchor : RestartSelectedCheckpointAnchor
  retainedLogicalRecordCount : U64
  retainedObservations : List (DurableTransactionRestartObservation width)
deriving DecidableEq

/-- A position of another lineage is foreign. -/
def ownPosition (lineage : LogLineage) (position : Option LogSequenceNumber) :
    Except (RestartWalReclamationEvidenceError RetentionError) (Option U64) :=
  match position with
  | some position => do
      rejectIf (position.lineage ≠ lineage) (.foreignSourcePosition position)
      return some position.get
  | none => .ok none

/-- The first record observed must not be past the floor. -/
def checkNotPrunedPastFloor (retainedFirst floor : Option U64) :
    Except (RestartWalReclamationEvidenceError RetentionError) Unit :=
  match retainedFirst, floor with
  | some retainedFirst, some floor =>
      rejectIf (floor < retainedFirst) (.sourceAlreadyPrunedPastFloor retainedFirst floor)
  | _, _ => .ok ()

def anchorMatches (generation : U64) (actual : Option RestartSelectedCheckpointAnchor)
    (selected : RestartSelectedCheckpointAnchor) : Bool :=
  match actual with
  | none => generation = 0
  | some actual => generation ≠ 0 && actual = selected

/-- The records at or after the floor; none when nothing is to be retained. -/
def retainedRecords (floor : Option LogSequenceNumber)
    (observations : List (DurableTransactionRestartObservation width)) :
    List (DurableTransactionRestartObservation width) :=
  match floor with
  | none => []
  | some floor => observations.filter fun observation =>
      floor.get ≤ observation.position.get

def validateRestartWalReclamationSourceEvidence (frozen : RestartWalRetentionAnalysis)
    (source : RestartWalReclamationSourceObservation)
    (observations : List (DurableTransactionRestartObservation width))
    (selectedCheckpointAnchor : RestartSelectedCheckpointAnchor) :
    Except (RestartWalReclamationEvidenceError RetentionError)
      (RestartWalReclamationValidatedPreflight width) := do
  rejectIf (source.lineage ≠ frozen.lineage)
    (.sourceLineageMismatch frozen.lineage source.lineage)
  let sourcePhysicalFormatVersion ← okOr (NonZeroU16.new source.physicalFormatVersion)
    .zeroPhysicalFormatVersion
  let actualFirst ← ownPosition frozen.lineage source.retainedFirstLogicalRecord
  let actualHighWater ← ownPosition frozen.lineage source.logicalPositionHighWater
  let expectedHighWater := frozen.durableFrontier.map (·.get)
  rejectIf (actualHighWater ≠ expectedHighWater)
    (.sourceLogicalHighWaterChanged expectedHighWater actualHighWater)
  let expectedFirst := observations.head?.map (·.position.get)
  rejectIf (actualFirst ≠ expectedFirst)
    (.sourceRetainedFirstRecordChanged expectedFirst actualFirst)
  checkNotPrunedPastFloor actualFirst (frozen.retainedFirstRecord.map (·.get))
  rejectIf (source.allocatedEpochHighWater ≠ frozen.allocatedEpochHighWater)
    (.sourceAllocatedEpochHighWaterChanged frozen.allocatedEpochHighWater.get
      source.allocatedEpochHighWater.get)
  rejectIf (¬anchorMatches source.sourceGeneration source.selectedCheckpointAnchor
      selectedCheckpointAnchor)
    (.selectedCheckpointAnchorChanged selectedCheckpointAnchor
      source.selectedCheckpointAnchor)
  rejectIf (source.sourceGeneration.val = u64Max)
    (.sourceGenerationExhausted source.sourceGeneration)
  let retainedObservations := retainedRecords frozen.retainedFirstRecord observations
  let retainedLogicalRecordCount ← okOr (u64TryFrom retainedObservations.length)
    (.retainedLogicalRecordCountWidthExceeded retainedObservations.length)
  return {
    sourcePhysicalFormatVersion, sourceGeneration := source.sourceGeneration
    selectedCheckpointAnchor, retainedLogicalRecordCount, retainedObservations }

/-! ## Validation after the effect -/

/-- `validated.source_generation + 1`; the sum does not overflow. -/
def RestartWalReclamationValidatedPreflight.nextGeneration
    (validated : RestartWalReclamationValidatedPreflight width) : U64 :=
  validated.sourceGeneration + 1

def validateRestartWalReclamationEffect (frozen : RestartWalRetentionAnalysis)
    (validated : RestartWalReclamationValidatedPreflight width)
    (effect : RestartWalReclamationEffectObservation) :
    Except (RestartWalReclamationEvidenceError RetentionError)
      RestartWalReclamationReceipt := do
  rejectIf (effect.replacement.oldGeneration ≠ validated.sourceGeneration ∨
      effect.replacement.newGeneration ≠ validated.nextGeneration)
    (.effectGenerationChanged validated.sourceGeneration effect.replacement.oldGeneration
      effect.replacement.newGeneration)
  let replacementPhysicalFormatVersion ← okOr
    (NonZeroU16.new effect.replacement.physicalFormatVersion)
      .effectPhysicalFormatVersionZero
  let actualFirst ← ownPosition frozen.lineage effect.retainedFirstLogicalRecord
  let expectedFirst := frozen.retainedFirstRecord.map (·.get)
  rejectIf (actualFirst ≠ expectedFirst)
    (.effectRetainedFirstRecordChanged expectedFirst actualFirst)
  let actualHighWater ← ownPosition frozen.lineage effect.logicalPositionHighWater
  let expectedHighWater := frozen.durableFrontier.map (·.get)
  rejectIf (actualHighWater ≠ expectedHighWater)
    (.effectLogicalHighWaterChanged expectedHighWater actualHighWater)
  rejectIf (effect.allocatedEpochHighWater ≠ frozen.allocatedEpochHighWater)
    (.effectAllocatedEpochHighWaterChanged frozen.allocatedEpochHighWater.get
      effect.allocatedEpochHighWater.get)
  rejectIf (effect.retainedLogicalRecordCount ≠ validated.retainedLogicalRecordCount)
    (.effectLogicalRecordCountChanged validated.retainedLogicalRecordCount
      effect.retainedLogicalRecordCount)
  rejectIf (effect.retainedLogicalRecordCount ≠ 0 ∧ effect.retainedPhysicalUnitCount = 0)
    (.effectPhysicalUnitCountEmpty effect.retainedLogicalRecordCount)
  return {
    persistentLogId := frozen.persistentLogId
    sourcePhysicalFormatVersion := validated.sourcePhysicalFormatVersion
    replacementPhysicalFormatVersion
    selectedCheckpointAnchor := validated.selectedCheckpointAnchor, effect }

def validateInstalledRestartWalReclamationSource (frozen : RestartWalRetentionAnalysis)
    (validated : RestartWalReclamationValidatedPreflight width)
    (receipt : RestartWalReclamationReceipt)
    (installed : RestartWalReclamationSourceObservation) :
    Except (RestartWalReclamationEvidenceError RetentionError) Unit := do
  rejectIf (installed.lineage ≠ frozen.lineage)
    (.sourceLineageMismatch frozen.lineage installed.lineage)
  rejectIf (installed.sourceGeneration ≠ validated.nextGeneration)
    (.installedGenerationChanged validated.nextGeneration installed.sourceGeneration)
  let expectedFormat := receipt.replacementPhysicalFormatVersion.get
  rejectIf (installed.physicalFormatVersion ≠ expectedFormat)
    (.installedPhysicalFormatVersionChanged expectedFormat
      installed.physicalFormatVersion)
  let actualFirst ← ownPosition frozen.lineage installed.retainedFirstLogicalRecord
  let expectedFirst := frozen.retainedFirstRecord.map (·.get)
  rejectIf (actualFirst ≠ expectedFirst)
    (.sourceRetainedFirstRecordChanged expectedFirst actualFirst)
  let actualHighWater ← ownPosition frozen.lineage installed.logicalPositionHighWater
  let expectedHighWater := frozen.durableFrontier.map (·.get)
  rejectIf (actualHighWater ≠ expectedHighWater)
    (.sourceLogicalHighWaterChanged expectedHighWater actualHighWater)
  rejectIf (installed.allocatedEpochHighWater ≠ frozen.allocatedEpochHighWater)
    (.sourceAllocatedEpochHighWaterChanged frozen.allocatedEpochHighWater.get
      installed.allocatedEpochHighWater.get)
  rejectIf (installed.selectedCheckpointAnchor ≠ some validated.selectedCheckpointAnchor)
    (.selectedCheckpointAnchorChanged validated.selectedCheckpointAnchor
      installed.selectedCheckpointAnchor)

/-- Refuse the first record that is not the one expected. -/
def checkRetainedRecords : Nat → List (DurableTransactionRestartObservation width) →
    List (DurableTransactionRestartObservation width) →
      Except (RestartWalReclamationEvidenceError RetentionError) Unit
  | index, expected :: restExpected, actual :: restActual => do
      rejectIf (expected ≠ actual)
        (.installedRetainedRecordChanged index expected.position.get actual.position.get)
      checkRetainedRecords (index + 1) restExpected restActual
  | _, _, _ => .ok ()

def validateInstalledRestartWalRetainedObservations
    (expected actual : List (DurableTransactionRestartObservation width)) :
    Except (RestartWalReclamationEvidenceError RetentionError) Unit := do
  rejectIf (actual.length ≠ expected.length)
    (.installedRetainedRecordCountChanged expected.length actual.length)
  checkRetainedRecords 0 expected actual

end Validation

/-! ## The protocol -/

/-- What matters of the reclamation source: what it was asked and what it said. -/
inductive ReclamationEvent (width : Nat) where
  | gatheredEvidence (observations : List (DurableTransactionRestartObservation width))
  | observedSource (answer : Option RestartWalReclamationSourceObservation)
  | reclaimed (permit : RestartWalReclamationPermit)
      (answer : Option RestartWalReclamationEffectObservation)
  | readRetained (answer : Option (List (DurableTransactionRestartObservation width)))

structure RetentionEvidenceInput (Inventory : Type) (width : Nat) where
  lineage : LogLineage
  storeLineage : LogLineage
  durableFrontier : Option LogSequenceNumber
  observations : List (DurableTransactionRestartObservation width)
  inventory : Inventory
  metadata : RestartRetentionMetadataObservation

structure MaterializedTransactionRestartCheckpointReplay (CurrentAnalysis : Type)
    (width : Nat) where
  currentAnalysis : CurrentAnalysis
  durableFrontier : Option LogSequenceNumber
  retainedObservations : List (DurableTransactionRestartObservation width)

inductive SelectedRestartCheckpointValidation where
  | completePrefix
  | anchored

/-- The owner of an analyzed storage: what it froze when it was analyzed. -/
structure WalRetentionAnalyzedReplay where
  selectedBaseline : RestartCheckpointCompletenessBaseline
  validation : SelectedRestartCheckpointValidation
  analysis : RestartWalRetentionAnalysis

/-- The source, the store, the checkpoint source and the derivations of the owner. -/
structure ReclamationPorts (World PortError PlanningError RetentionError Inventory
    CurrentAnalysis : Type) (width : Nat) where
  loadRestartCheckpointCompletenessBaseline :
    World → Except PortError (Option RestartCheckpointCompletenessBaselineObservation) ×
      World
  durablePageStoreInventory : World → Except PortError Inventory × World
  storeLineage : World → LogLineage × World
  observeRestartRetentionMetadata :
    World → Except PortError RestartRetentionMetadataObservation × World
  observeRestartWalReclamationSource :
    World → Except PortError RestartWalReclamationSourceObservation × World
  sourceLineage : World → LogLineage × World
  durableTransactionRestartObservations : World →
    Except PortError
      (Option LogSequenceNumber × List (DurableTransactionRestartObservation width)) ×
        World
  planner : RestartCheckpointCompletenessBaseline → World →
    Except PlanningError
      (MaterializedTransactionRestartCheckpointReplay CurrentAnalysis width) × World
  reclaimRestartWalPrefix : RestartWalReclamationPermit → World →
    Except PortError RestartWalReclamationEffectObservation × World
  durableTransactionRestartRetainedObservations :
    World → Except PortError (List (DurableTransactionRestartObservation width)) × World
  analyzeCompletedRetention : RetentionEvidenceInput Inventory width →
    Except RetentionError RestartWalRetentionAnalysis
  deriveCompletedRetention : RetentionEvidenceInput Inventory width → CurrentAnalysis →
    Except RetentionError RestartWalRetentionAnalysis

section Protocol

variable {width : Nat} {World PortError PlanningError RetentionError Inventory
  CurrentAnalysis : Type}
  (ports : ReclamationPorts World PortError PlanningError RetentionError Inventory
    CurrentAnalysis width)

/-- A reclamation's runs; `Result` is what a step of it hands on. -/
abbrev Reclamation (World PortError PlanningError RetentionError : Type) (width : Nat)
    (Result : Type) :=
  EStateM (RestartWalReclamationError PortError PlanningError RetentionError)
    (PortRun World (ReclamationEvent width)) Result

def askPreflight {α ζ : Type} (port : World → Except ζ α × World)
    (failure : ζ → RestartWalReclamationPreflightError PortError PlanningError
      RetentionError) :
    Reclamation World PortError PlanningError RetentionError width α :=
  ask port (fun error => .preflight (failure error)) fun _ => none

def observeSource
    (failure : PortError →
      RestartWalReclamationError PortError PlanningError RetentionError) :
    Reclamation World PortError PlanningError RetentionError width
      RestartWalReclamationSourceObservation :=
  ask ports.observeRestartWalReclamationSource failure fun answer =>
    some (.observedSource answer.toOption)

def checkPreflight {α : Type}
    (result : Except (RestartWalReclamationEvidenceError RetentionError) α) :
    Reclamation World PortError PlanningError RetentionError width α :=
  check (result.mapError fun error => .preflight (.evidence error))

/-- Retention derived again must be the frozen one, and the source as it froze it. -/
def validateFreshEvidence (analyzed : WalRetentionAnalyzedReplay)
    (source : RestartWalReclamationSourceObservation)
    (observations : List (DurableTransactionRestartObservation width))
    (fresh : Except RetentionError RestartWalRetentionAnalysis) :
    Except (RestartWalReclamationEvidenceError RetentionError)
      (RestartWalReclamationValidatedPreflight width) := do
  let fresh ← fresh.mapError .freshRetention
  rejectIf (¬restartWalRetentionAnalysesMatch analyzed.analysis fresh)
    .frozenRetentionAnalysisChanged
  validateRestartWalReclamationSourceEvidence analyzed.analysis source observations
    (selectedRestartCheckpointAnchor analyzed.selectedBaseline)

def gatherEvidence (analyzed : WalRetentionAnalyzedReplay)
    (source : RestartWalReclamationSourceObservation) (lineage storeLineage : LogLineage)
    (inventory : Inventory) (metadata : RestartRetentionMetadataObservation) :
    Reclamation World PortError PlanningError RetentionError width
      (RestartWalReclamationValidatedPreflight width) := do
  match analyzed.validation with
  | .completePrefix =>
      let (durableFrontier, observations) ← askPreflight
        ports.durableTransactionRestartObservations .walSource
      record (.gatheredEvidence observations)
      checkPreflight (validateFreshEvidence analyzed source observations
        (ports.analyzeCompletedRetention
          { lineage, storeLineage, durableFrontier, observations, inventory, metadata }))
  | .anchored =>
      let materialized ← askPreflight (ports.planner analyzed.selectedBaseline)
        .replayPlanning
      let observations := materialized.retainedObservations
      record (.gatheredEvidence observations)
      checkPreflight (validateFreshEvidence analyzed source observations
        (ports.deriveCompletedRetention
          { lineage, storeLineage, durableFrontier := materialized.durableFrontier,
            observations, inventory, metadata } materialized.currentAnalysis))

/-- Everything that is done before the effect. -/
def preflight (analyzed : WalRetentionAnalyzedReplay) :
    Reclamation World PortError PlanningError RetentionError width
      (RestartWalReclamationValidatedPreflight width) := do
  let checkpoint ← askPreflight ports.loadRestartCheckpointCompletenessBaseline
    .checkpointSource
  let checkpoint ← check (okOr checkpoint (.preflight .currentCheckpointMissing))
  checkPreflight (rejectIf (¬restartCheckpointCompletenessBaselineMatchesOwnedObservation
    analyzed.selectedBaseline checkpoint) .currentCheckpointChanged)
  let inventory ← askPreflight ports.durablePageStoreInventory .storeInventory
  let storeLineage ← query ports.storeLineage
  let metadata ← askPreflight ports.observeRestartRetentionMetadata .retentionMetadata
  let source ← observeSource ports fun error => .preflight (.reclamationSource error)
  let lineage ← query ports.sourceLineage
  checkPreflight (rejectIf (source.sourceGeneration.val = u64Max)
    (.sourceGenerationExhausted source.sourceGeneration))
  let validated ← gatherEvidence ports analyzed source lineage storeLineage
    inventory metadata
  let reobserved ← observeSource ports fun error => .preflight (.reclamationSource error)
  checkPreflight
    (rejectIf (¬restartWalReclamationSourceObservationsMatch source reobserved)
      (.sourceObservationChanged source.sourceGeneration reobserved.sourceGeneration))
  return validated

def reclamationPermit (frozen : RestartWalRetentionAnalysis)
    (validated : RestartWalReclamationValidatedPreflight width) :
      RestartWalReclamationPermit where
  persistentLogId := frozen.persistentLogId
  lineage := frozen.lineage
  durableFrontier := frozen.durableFrontier
  retainedFirstLogicalRecord := frozen.retainedFirstRecord
  allocatedEpochHighWater := frozen.allocatedEpochHighWater
  physicalFormatVersion := validated.sourcePhysicalFormatVersion
  sourceGeneration := validated.sourceGeneration
  selectedCheckpointAnchor := validated.selectedCheckpointAnchor

def reclaimPrefix (permit : RestartWalReclamationPermit) :
    Reclamation World PortError PlanningError RetentionError width
      RestartWalReclamationEffectObservation :=
  ask (ports.reclaimRestartWalPrefix permit)
    (fun error => .outcomeIndeterminate (.effect error))
    fun answer => some (.reclaimed permit answer.toOption)

def readRetained :
    Reclamation World PortError PlanningError RetentionError width
      (List (DurableTransactionRestartObservation width)) :=
  ask ports.durableTransactionRestartRetainedObservations
    (fun error => .outcomeIndeterminate (.installedWal error))
    fun answer => some (.readRetained answer.toOption)

def checkInstalled
    (result : Except (RestartWalReclamationEvidenceError RetentionError) Unit) :
    Reclamation World PortError PlanningError RetentionError width Unit :=
  check (result.mapError fun error => .outcomeIndeterminate (.installedEvidence error))

/-- Everything that is done after the effect. -/
def confirmInstalled (analyzed : WalRetentionAnalyzedReplay)
    (validated : RestartWalReclamationValidatedPreflight width)
    (effect : RestartWalReclamationEffectObservation) :
    Reclamation World PortError PlanningError RetentionError width
      RestartWalReclamationReceipt := do
  let receipt ← check ((validateRestartWalReclamationEffect analyzed.analysis validated
    effect).mapError fun error => .outcomeIndeterminate (.receipt error))
  let installed ← observeSource ports fun error =>
    .outcomeIndeterminate (.installedSource error)
  checkInstalled
    (validateInstalledRestartWalReclamationSource analyzed.analysis validated receipt
    installed)
  let retained ← readRetained ports
  checkInstalled
    (validateInstalledRestartWalRetainedObservations validated.retainedObservations
    retained)
  let reobserved ← observeSource ports fun error =>
    .outcomeIndeterminate (.installedSource error)
  checkInstalled
    (rejectIf (¬restartWalReclamationSourceObservationsMatch installed reobserved)
      (.sourceObservationChanged installed.sourceGeneration reobserved.sourceGeneration))
  return receipt

def reclaimAnalyzedTransactionRestartWalPrefix (analyzed : WalRetentionAnalyzedReplay) :
    Reclamation World PortError PlanningError RetentionError width
      RestartWalReclamationReceipt := do
  let validated ← preflight ports analyzed
  let effect ← reclaimPrefix ports (reclamationPermit analyzed.analysis validated)
  confirmInstalled ports analyzed validated effect

end Protocol

end Ntsql.Transaction
