import Ntsql.Transaction.WalReclamation

/-! # What a reclamation guarantees

Whatever the ports answer, the effect is invoked at most once, with a permit for
the source as the analysis froze it. A success has observed the replacement the
permit asked for, and a failure says on which side of the effect it happened. -/

namespace Ntsql.Transaction

open PortRun

/-! ## What the validations accept -/

section Validation

variable {width : Nat} {RetentionError : Type}

theorem ownPosition_ok_iff {lineage : LogLineage} {position : Option LogSequenceNumber}
    {value : Option U64} :
    (ownPosition lineage position :
        Except (RestartWalReclamationEvidenceError RetentionError) (Option U64)) =
          .ok value ↔
      position = value.map lineage.position := by
  cases position with
  | none => cases value <;> simp [ownPosition]
  | some position =>
      rcases position with ⟨owner, number⟩
      simp only [ownPosition, Except.bind_ok_iff, rejectIf_ok_iff, Decidable.not_not,
        Except.pure_ok_iff]
      cases value with
      | none => simp
      | some number =>
          simp only [LogLineage.position, Option.map_some, Option.some.injEq,
            LogSequenceNumber.mk.injEq, exists_const]

theorem checkNotPrunedPastFloor_ok_iff {retainedFirst floor : Option U64} {value : Unit} :
    (checkNotPrunedPastFloor retainedFirst floor :
        Except (RestartWalReclamationEvidenceError RetentionError) Unit) = .ok value ↔
      ∀ first ∈ retainedFirst, ∀ bound ∈ floor, first ≤ bound := by
  cases retainedFirst <;> cases floor <;> simp [checkNotPrunedPastFloor]

theorem anchorMatches_iff {generation : U64}
    {actual : Option RestartSelectedCheckpointAnchor}
    {selected : RestartSelectedCheckpointAnchor} :
    anchorMatches generation actual selected = true ↔
      actual = if generation = 0 then none else some selected := by
  cases actual <;> by_cases unreclaimed :
    generation = 0 <;> simp [anchorMatches, unreclaimed]

/-- A source as an analysis froze it: in the lineage, with the frontier and the
epochs of the analysis, the anchor of its checkpoint and the first record of the
evidence, and with a generation to come. -/
structure FrozenSource (frozen : RestartWalRetentionAnalysis)
    (anchor : RestartSelectedCheckpointAnchor)
    (observations : List (DurableTransactionRestartObservation width))
    (observed : RestartWalReclamationSourceObservation) : Prop where
  lineage : observed.lineage = frozen.lineage
  format : observed.physicalFormatVersion ≠ 0
  generation : observed.sourceGeneration.val < u64Max
  first : observed.retainedFirstLogicalRecord =
    (observations.head?.map (·.position.get)).map frozen.lineage.position
  floor : ∀ first ∈ observed.retainedFirstLogicalRecord,
    ∀ floor ∈ frozen.retainedFirstRecord, first.get ≤ floor.get
  frontier : observed.logicalPositionHighWater =
    (frozen.durableFrontier.map (·.get)).map frozen.lineage.position
  epochs : observed.allocatedEpochHighWater = frozen.allocatedEpochHighWater
  anchor : observed.selectedCheckpointAnchor =
    if observed.sourceGeneration = 0 then none else some anchor

theorem validateSourceEvidence_ok {frozen : RestartWalRetentionAnalysis}
    {source : RestartWalReclamationSourceObservation}
    {observations : List (DurableTransactionRestartObservation width)}
    {anchor : RestartSelectedCheckpointAnchor}
    {validated : RestartWalReclamationValidatedPreflight width}
    (accepted :
      (validateRestartWalReclamationSourceEvidence frozen source observations anchor :
      Except (RestartWalReclamationEvidenceError RetentionError) _) = .ok validated) :
    FrozenSource frozen anchor observations source ∧
      validated.sourcePhysicalFormatVersion.get = source.physicalFormatVersion ∧
      validated.sourceGeneration = source.sourceGeneration ∧
      validated.selectedCheckpointAnchor = anchor ∧
      validated.retainedObservations = retainedRecords frozen.retainedFirstRecord
        observations := by
  simp only [validateRestartWalReclamationSourceEvidence, Except.bind_ok_iff,
    rejectIf_ok_iff, okOr_ok_iff, NonZeroU16.new_eq_some_iff, ownPosition_ok_iff,
    checkNotPrunedPastFloor_ok_iff, anchorMatches_iff, Decidable.not_not,
    Except.pure_ok_iff] at accepted
  rcases accepted with
    ⟨_, lineage, format, formatEq, first, firstEq, highWater, highWaterEq, _, rfl, _, rfl,
     _, unpruned, _, epochs, _, anchorEq, _, generation, count, _, rfl⟩
  refine ⟨⟨lineage, ?_, ?_, firstEq, ?_, highWaterEq, epochs, anchorEq⟩, formatEq,
    rfl, rfl, rfl⟩
  · rw [← formatEq]
    exact format.nonzero
  · have bound := source.sourceGeneration.isLt
    rw [u64Max] at generation ⊢
    omega
  · intro first isFirst floor isFloor
    rw [firstEq] at isFirst
    rcases Option.mem_map.mp isFirst with ⟨number, isNumber, rfl⟩
    exact unpruned number isNumber floor.get (Option.mem_map_of_mem _ isFloor)

theorem sourceObservationsMatch_iff
    {expected actual : RestartWalReclamationSourceObservation} :
    restartWalReclamationSourceObservationsMatch expected actual = true ↔
      expected = actual := by
  cases expected
  cases actual
  simp [restartWalReclamationSourceObservationsMatch, and_assoc]

theorem checkRetainedRecords_ok_iff {index : Nat}
    {expected actual : List (DurableTransactionRestartObservation width)} {value : Unit}
    (length : actual.length = expected.length) :
    (checkRetainedRecords index expected actual :
        Except (RestartWalReclamationEvidenceError RetentionError) Unit) = .ok value ↔
      actual = expected := by
  induction expected generalizing index actual with
  | nil =>
      rw [List.length_nil, List.length_eq_zero_iff] at length
      simp [length, checkRetainedRecords]
  | cons record rest induction =>
      cases actual with
      | nil => simp at length
      | cons other others =>
          simp only [checkRetainedRecords, Except.bind_ok_iff, rejectIf_ok_iff,
            Decidable.not_not, induction (Nat.succ.inj length), List.cons.injEq,
            exists_const]
          exact and_congr_left fun _ => eq_comm

theorem validateInstalledRecords_ok_iff
    {expected actual : List (DurableTransactionRestartObservation width)} {value : Unit} :
    (validateInstalledRestartWalRetainedObservations expected actual :
        Except (RestartWalReclamationEvidenceError RetentionError) Unit) = .ok value ↔
      actual = expected := by
  simp only [validateInstalledRestartWalRetainedObservations, Except.bind_ok_iff,
    rejectIf_ok_iff, Decidable.not_not, exists_const]
  constructor
  · rintro ⟨length, same⟩
    exact (checkRetainedRecords_ok_iff length).mp same
  · rintro rfl
    exact ⟨rfl, (checkRetainedRecords_ok_iff rfl).mpr rfl⟩

/-- The replacement that a permit asked for. -/
structure InstalledSource (permit : RestartWalReclamationPermit)
    (receipt : RestartWalReclamationReceipt)
    (installed : RestartWalReclamationSourceObservation) : Prop where
  lineage : installed.lineage = permit.lineage
  format : installed.physicalFormatVersion = receipt.replacementPhysicalFormatVersion.get
  generation : installed.sourceGeneration.val = permit.sourceGeneration.val + 1
  first : installed.retainedFirstLogicalRecord =
    (permit.retainedFirstLogicalRecord.map (·.get)).map permit.lineage.position
  frontier : installed.logicalPositionHighWater =
    (permit.durableFrontier.map (·.get)).map permit.lineage.position
  epochs : installed.allocatedEpochHighWater = permit.allocatedEpochHighWater
  anchor : installed.selectedCheckpointAnchor = some permit.selectedCheckpointAnchor

theorem validateInstalledSource_ok {frozen : RestartWalRetentionAnalysis}
    {validated : RestartWalReclamationValidatedPreflight width}
    {receipt : RestartWalReclamationReceipt}
    {installed : RestartWalReclamationSourceObservation} {value : Unit}
    (renewable : validated.sourceGeneration.val < u64Max)
    (accepted :
      (validateInstalledRestartWalReclamationSource frozen validated receipt installed :
      Except (RestartWalReclamationEvidenceError RetentionError) Unit) = .ok value) :
    InstalledSource (reclamationPermit frozen validated) receipt installed := by
  simp only [validateInstalledRestartWalReclamationSource, Except.bind_ok_iff,
    rejectIf_ok_iff, ownPosition_ok_iff, Decidable.not_not] at accepted
  rcases accepted with
    ⟨_, lineage, _, generation, _, format, _, first, _, rfl, _, frontier, _, rfl, _,
     epochs, anchor⟩
  refine ⟨lineage, format, ?_, first, frontier, epochs, anchor⟩
  rw [u64Max] at renewable
  rw [generation, RestartWalReclamationValidatedPreflight.nextGeneration, Fin.val_add]
  exact Nat.mod_eq_of_lt (by change validated.sourceGeneration.val + 1 < 2 ^ 64; omega)

end Validation

/-! ## Histories of a reclamation -/

section Histories

variable {width : Nat} {PortError PlanningError RetentionError : Type}

def ReclamationEvent.isEffect : ReclamationEvent width → Bool
  | .reclaimed _ _ => true
  | _ => false

def EffectFree (history : List (ReclamationEvent width)) : Prop :=
  ∀ event ∈ history, event.isEffect = false

/-- The source observed last is as the analysis froze it on the evidence gathered
before, and the permit is for the frozen plan and that source. -/
structure Authorizes (analyzed : WalRetentionAnalyzedReplay)
    (observations : List (DurableTransactionRestartObservation width))
    (observed : RestartWalReclamationSourceObservation)
    (permit : RestartWalReclamationPermit)
    (past : List (ReclamationEvent width)) : Prop where
  latest : past.head? = some (.observedSource (some observed))
  gathered : .gatheredEvidence observations ∈ past
  frozen : FrozenSource analyzed.analysis
    (selectedRestartCheckpointAnchor analyzed.selectedBaseline) observations observed
  persistentLogId : permit.persistentLogId = analyzed.analysis.persistentLogId
  lineage : permit.lineage = analyzed.analysis.lineage
  frontier : permit.durableFrontier = analyzed.analysis.durableFrontier
  first : permit.retainedFirstLogicalRecord = analyzed.analysis.retainedFirstRecord
  epochs : permit.allocatedEpochHighWater = analyzed.analysis.allocatedEpochHighWater
  format : permit.physicalFormatVersion.get = observed.physicalFormatVersion
  generation : permit.sourceGeneration = observed.sourceGeneration
  anchor : permit.selectedCheckpointAnchor =
    selectedRestartCheckpointAnchor analyzed.selectedBaseline

/-- After the effect the installed source was observed, its records were read,
and the source was observed again unchanged: it is the replacement the permit
asked for, with the records of the evidence that the plan retains. -/
def Confirms (analyzed : WalRetentionAnalyzedReplay)
    (receipt : RestartWalReclamationReceipt)
    (history : List (ReclamationEvent width)) : Prop :=
  ∃ installed retained permit past observations observed,
    history = .observedSource (some installed) :: .readRetained (some retained) ::
      .observedSource (some installed) :: .reclaimed permit
        (some receipt.effect) :: past ∧
    Authorizes analyzed observations observed permit past ∧
    InstalledSource permit receipt installed ∧
    retained = retainedRecords permit.retainedFirstLogicalRecord observations

def RestartWalReclamationError.IsPreflight :
    RestartWalReclamationError PortError PlanningError RetentionError → Prop
  | .preflight _ => True
  | .outcomeIndeterminate _ => False

/-- The effect was invoked once, and what followed does not invoke it. -/
def Invoked (analyzed : WalRetentionAnalyzedReplay)
    (history : List (ReclamationEvent width)) : Prop :=
  ∃ later permit answer past observations observed,
    history = later ++ .reclaimed permit answer :: past ∧ EffectFree later ∧
      EffectFree past ∧
      Authorizes analyzed observations observed permit past

theorem EffectFree.cons {event : ReclamationEvent width}
    {history : List (ReclamationEvent width)} (quiet : EffectFree history)
    (other : event.isEffect = false) :
    EffectFree (event :: history) := by
  intro member among
  rcases List.mem_cons.mp among with rfl | among
  · exact other
  · exact quiet member among

theorem Invoked.cons {analyzed : WalRetentionAnalyzedReplay}
    {event : ReclamationEvent width} {history : List (ReclamationEvent width)}
    (invoked : Invoked analyzed history)
    (other : event.isEffect = false) : Invoked analyzed (event :: history) := by
  rcases invoked with
    ⟨later, permit, answer, past, observations, observed, rfl, quietLater, quietPast,
     authorized⟩
  exact ⟨event :: later, permit, answer, past, observations, observed, rfl,
    quietLater.cons other, quietPast, authorized⟩

theorem EffectFree.countP {history : List (ReclamationEvent width)}
    (quiet : EffectFree history) :
    history.countP (·.isEffect) = 0 := by
  rw [List.countP_eq_zero]
  intro event among
  simp [quiet event among]

theorem Invoked.countP {analyzed : WalRetentionAnalyzedReplay}
    {history : List (ReclamationEvent width)} (invoked : Invoked analyzed history) :
    history.countP (·.isEffect) = 1 := by
  rcases invoked with ⟨later, permit, answer, past, _, _, rfl, quietLater, quietPast, _⟩
  rw [List.countP_append, List.countP_cons, quietLater.countP, quietPast.countP]
  rfl

theorem Invoked.not_quiet {analyzed : WalRetentionAnalyzedReplay}
    {history : List (ReclamationEvent width)} (invoked : Invoked analyzed history) :
    ¬EffectFree history := by
  intro quiet
  have once := invoked.countP
  rw [quiet.countP] at once
  cases once

theorem Invoked.authorizes {analyzed : WalRetentionAnalyzedReplay}
    {history past : List (ReclamationEvent width)} {permit : RestartWalReclamationPermit}
    {answer : Option RestartWalReclamationEffectObservation}
    (invoked : Invoked analyzed history)
    (suffix : .reclaimed permit answer :: past <:+ history) :
    ∃ observations observed, Authorizes analyzed observations observed permit past := by
  rcases invoked with
    ⟨later, permit, answer, earlier, observations, observed, rfl, quietLater, quietPast,
     authorized⟩
  rcases suffix with ⟨before, split⟩
  induction later generalizing before with
  | nil =>
      cases before with
      | nil =>
          simp only [List.nil_append, List.cons.injEq, ReclamationEvent.reclaimed.injEq]
            at split
          rcases split with ⟨⟨rfl, rfl⟩, rfl⟩
          exact ⟨observations, observed, authorized⟩
      | cons first before =>
          simp only [List.nil_append, List.cons_append, List.cons.injEq] at split
          have quiet := quietPast (.reclaimed _ _) (by
            rw [← split.2]
            exact List.mem_append_right before (List.mem_cons_self ..))
          cases quiet
  | cons event later induction =>
      have quietRest : EffectFree later := fun member among =>
        quietLater member (List.mem_cons_of_mem event among)
      cases before with
      | nil =>
          simp only [List.nil_append, List.cons_append, List.cons.injEq] at split
          have quiet := quietLater event (List.mem_cons_self ..)
          rw [← split.1] at quiet
          cases quiet
      | cons first before =>
          simp only [List.cons_append, List.cons.injEq] at split
          exact induction quietRest before split.2

end Histories

/-! ## Before the effect -/

section Protocol

variable {width : Nat} {World PortError PlanningError RetentionError Inventory
  CurrentAnalysis : Type}
  (ports : ReclamationPorts World PortError PlanningError RetentionError Inventory
    CurrentAnalysis width)

/-- A failure that left the effect alone, reported as one before it. -/
def NotApplied (error : RestartWalReclamationError PortError PlanningError RetentionError)
    (history : List (ReclamationEvent width)) : Prop :=
  error.IsPreflight ∧ EffectFree history

theorem askPreflight_ensures {α ζ : Type} (port : World → Except ζ α × World)
    (failure : ζ → RestartWalReclamationPreflightError PortError PlanningError
      RetentionError) :
    Ensures (EffectFree : List (ReclamationEvent width) → Prop)
      (askPreflight port failure) (fun _ => EffectFree) NotApplied :=
  .ask (fun _ _ quiet => quiet) fun _ _ quiet => ⟨trivial, quiet⟩

theorem observeSource_ensures
    (failure : PortError → RestartWalReclamationPreflightError PortError PlanningError
      RetentionError) :
    Ensures EffectFree (observeSource ports fun error => .preflight (failure error))
      (fun observed history => history.head? = some (.observedSource (some observed)) ∧
        EffectFree history)
      NotApplied :=
  .ask (fun _ _ quiet => ⟨rfl, quiet.cons rfl⟩) fun _ _ quiet => ⟨trivial, quiet.cons rfl⟩

theorem checkPreflight_ensures {α : Type}
    {result : Except (RestartWalReclamationEvidenceError RetentionError) α}
    {before : List (ReclamationEvent width) → Prop}
    (quiet : ∀ history, before history → EffectFree history) :
    Ensures before
      (checkPreflight result :
        Reclamation World PortError PlanningError RetentionError width α)
      (fun value history => result = .ok value ∧ before history) NotApplied := by
  apply Ensures.check
  · intro value history accepted holds
    exact ⟨Except.mapError_ok_iff.mp accepted, holds⟩
  · intro error history refused holds
    cases result with
    | ok value => cases refused
    | error source =>
        cases refused
        exact ⟨trivial, quiet history holds⟩

/-- The preflight was validated on evidence that the history records. -/
def Gathered (RetentionError : Type) (analyzed : WalRetentionAnalyzedReplay)
    (source : RestartWalReclamationSourceObservation)
    (validated : RestartWalReclamationValidatedPreflight width)
    (history : List (ReclamationEvent width)) : Prop :=
  ∃ observations, .gatheredEvidence observations ∈ history ∧
    (validateRestartWalReclamationSourceEvidence analyzed.analysis source observations
        (selectedRestartCheckpointAnchor analyzed.selectedBaseline) :
      Except (RestartWalReclamationEvidenceError RetentionError) _) = .ok validated

theorem validateFreshEvidence_ok {analyzed : WalRetentionAnalyzedReplay}
    {source : RestartWalReclamationSourceObservation}
    {observations : List (DurableTransactionRestartObservation width)}
    {fresh : Except RetentionError RestartWalRetentionAnalysis}
    {validated : RestartWalReclamationValidatedPreflight width}
    (accepted : validateFreshEvidence analyzed source observations fresh =
      .ok validated) :
    (validateRestartWalReclamationSourceEvidence analyzed.analysis source observations
        (selectedRestartCheckpointAnchor analyzed.selectedBaseline) :
      Except (RestartWalReclamationEvidenceError RetentionError) _) = .ok validated := by
  simp only [validateFreshEvidence, Except.bind_ok_iff, rejectIf_ok_iff] at accepted
  rcases accepted with ⟨_, _, _, _, accepted⟩
  exact accepted

theorem recordAndValidate_ensures {analyzed : WalRetentionAnalyzedReplay}
    {source : RestartWalReclamationSourceObservation}
    (observations : List (DurableTransactionRestartObservation width))
    (fresh : Except RetentionError RestartWalRetentionAnalysis) :
    Ensures EffectFree
      (record (.gatheredEvidence observations) >>= fun _ =>
        checkPreflight (validateFreshEvidence analyzed source observations fresh) :
        Reclamation World PortError PlanningError RetentionError width _)
      (fun validated history => EffectFree history ∧
        Gathered RetentionError analyzed source validated history)
      NotApplied := by
  apply Ensures.through fun _ history =>
    EffectFree history ∧ .gatheredEvidence observations ∈ history
  · apply Ensures.record
    intro history quiet
    exact ⟨quiet.cons rfl, List.mem_cons_self ..⟩
  · intro _
    apply (checkPreflight_ensures fun history holds => holds.1).weaken
    · rintro validated history ⟨accepted, quiet, gathered⟩
      exact ⟨quiet, observations, gathered, validateFreshEvidence_ok accepted⟩
    · exact fun _ _ refused => refused

theorem gatherEvidence_ensures (analyzed : WalRetentionAnalyzedReplay)
    (source : RestartWalReclamationSourceObservation) (lineage storeLineage : LogLineage)
    (inventory : Inventory) (metadata : RestartRetentionMetadataObservation) :
    Ensures EffectFree
      (gatherEvidence ports analyzed source lineage storeLineage inventory metadata)
      (fun validated history => EffectFree history ∧
        Gathered RetentionError analyzed source validated history)
      NotApplied := by
  rw [gatherEvidence]
  cases analyzed.validation with
  | completePrefix =>
      apply Ensures.bind
        (askPreflight_ensures ports.durableTransactionRestartObservations .walSource)
      rintro ⟨durableFrontier, observations⟩
      exact recordAndValidate_ensures observations _
  | anchored =>
      apply Ensures.bind (askPreflight_ensures (ports.planner analyzed.selectedBaseline)
        .replayPlanning)
      intro materialized
      exact recordAndValidate_ensures materialized.retainedObservations _

theorem preflight_ensures (analyzed : WalRetentionAnalyzedReplay) :
    Ensures EffectFree (preflight ports analyzed)
      (fun validated history => EffectFree history ∧ ∃ observations observed,
        Authorizes analyzed observations observed
          (reclamationPermit analyzed.analysis validated) history ∧
        validated.retainedObservations =
          retainedRecords analyzed.analysis.retainedFirstRecord observations)
      NotApplied := by
  rw [preflight]
  apply Ensures.bind (askPreflight_ensures _ _)
  intro checkpoint
  apply Ensures.through fun _ => EffectFree
  · apply Ensures.check
    · exact fun _ _ _ quiet => quiet
    · intro error history missing quiet
      cases checkpoint with
      | none =>
          cases missing
          exact ⟨trivial, quiet⟩
      | some checkpoint => cases missing
  intro checkpoint
  apply Ensures.bind (checkPreflight_ensures fun _ quiet => quiet)
  intro _
  apply Ensures.bind ((askPreflight_ensures _ _).strengthen fun _ holds => holds.2)
  intro inventory
  apply Ensures.through (fun _ => EffectFree) (Ensures.query fun _ _ quiet => quiet)
  intro storeLineage
  apply Ensures.bind (askPreflight_ensures _ _)
  intro metadata
  apply Ensures.bind (observeSource_ensures ports .reclamationSource)
  intro source
  apply Ensures.through (fun _ => EffectFree) (Ensures.query fun _ _ holds => holds.2)
  intro lineage
  apply Ensures.bind (checkPreflight_ensures fun _ quiet => quiet)
  intro _
  apply Ensures.bind
    ((gatherEvidence_ensures ports analyzed source lineage storeLineage inventory
    metadata).strengthen fun _ holds => holds.2)
  intro validated
  -- the second observation is the first one, and so is what authorizes the effect
  apply Ensures.through fun reobserved history =>
    history.head? = some (.observedSource (some reobserved)) ∧ EffectFree history ∧
      Gathered RetentionError analyzed source validated history
  · apply Ensures.ask
    · rintro reobserved history ⟨quiet, observations, gathered, accepted⟩
      exact ⟨rfl, quiet.cons rfl, observations, List.mem_cons_of_mem _ gathered, accepted⟩
    · rintro error history ⟨quiet, _⟩
      exact ⟨trivial, quiet.cons rfl⟩
  intro reobserved
  apply Ensures.bind (checkPreflight_ensures fun _ holds => holds.2.1)
  intro _
  apply Ensures.pure
  rintro history ⟨same, latest, quiet, observations, gathered, accepted⟩
  rw [rejectIf_ok_iff, Decidable.not_not, sourceObservationsMatch_iff] at same
  rcases validateSourceEvidence_ok accepted with
    ⟨frozen, format, generation, anchor, retained⟩
  subst same
  exact ⟨quiet, observations, source,
    ⟨latest, gathered, frozen, rfl, rfl, rfl, rfl, rfl, format,
    generation, anchor⟩, retained⟩

/-! ## From the effect on -/

/-- A failure after the effect was invoked, reported as indeterminate. -/
def Indeterminate (analyzed : WalRetentionAnalyzedReplay)
    (error : RestartWalReclamationError PortError PlanningError RetentionError)
    (history : List (ReclamationEvent width)) : Prop :=
  ¬error.IsPreflight ∧ Invoked analyzed history

theorem validateEffect_ok {frozen : RestartWalRetentionAnalysis}
    {validated : RestartWalReclamationValidatedPreflight width}
    {effect : RestartWalReclamationEffectObservation}
    {receipt : RestartWalReclamationReceipt}
    (accepted : (validateRestartWalReclamationEffect frozen validated effect :
      Except (RestartWalReclamationEvidenceError RetentionError) _) = .ok receipt) :
    receipt.effect = effect := by
  simp only [validateRestartWalReclamationEffect, Except.bind_ok_iff, Except.pure_ok_iff]
    at accepted
  rcases accepted with ⟨_, _, _, _, _, _, _, _, _, _, _, _, _, _, _, _, _, _, rfl⟩
  rfl

theorem checkInstalled_ensures {analyzed : WalRetentionAnalyzedReplay}
    {result : Except (RestartWalReclamationEvidenceError RetentionError) Unit}
    {before : List (ReclamationEvent width) → Prop}
    (invoked : ∀ history, before history → Invoked analyzed history) :
    Ensures before
      (checkInstalled result :
        Reclamation World PortError PlanningError RetentionError width Unit)
      (fun value history => result = .ok value ∧ before history)
      (Indeterminate analyzed) := by
  apply Ensures.check
  · intro value history accepted holds
    exact ⟨Except.mapError_ok_iff.mp accepted, holds⟩
  · intro error history refused holds
    cases result with
    | ok value => cases refused
    | error source =>
        cases refused
        exact ⟨id, invoked history holds⟩

/-- The effect was invoked with the preflight's permit, and nothing followed. -/
structure JustReclaimed (analyzed : WalRetentionAnalyzedReplay)
    (validated : RestartWalReclamationValidatedPreflight width)
    (effect : RestartWalReclamationEffectObservation)
    (observations : List (DurableTransactionRestartObservation width))
    (observed : RestartWalReclamationSourceObservation)
    (past history : List (ReclamationEvent width)) : Prop where
  split : history =
    .reclaimed (reclamationPermit analyzed.analysis validated) (some effect) :: past
  quiet : EffectFree past
  authorized : Authorizes analyzed observations observed
    (reclamationPermit analyzed.analysis validated) past
  retained : validated.retainedObservations =
    retainedRecords analyzed.analysis.retainedFirstRecord observations

/-- After an authorized effect, a success confirms what is installed. -/
theorem confirmInstalled_ensures (analyzed : WalRetentionAnalyzedReplay)
    (validated : RestartWalReclamationValidatedPreflight width)
    (effect : RestartWalReclamationEffectObservation) :
    Ensures (fun history => ∃ observations observed past,
        JustReclaimed analyzed validated effect observations observed past history)
      (confirmInstalled ports analyzed validated effect)
      (fun receipt history => Confirms analyzed receipt history ∧
        Invoked analyzed history)
      (Indeterminate analyzed) := by
  apply Ensures.of_each
  rintro base ⟨observations, observed, past, reclaimed⟩
  have invoked : Invoked analyzed base :=
    ⟨[], _, _, past, observations, observed, reclaimed.split, fun _ =>
      nofun, reclaimed.quiet, reclaimed.authorized⟩
  have renewable : validated.sourceGeneration.val < u64Max := by
    have generation : validated.sourceGeneration = observed.sourceGeneration :=
      reclaimed.authorized.generation
    rw [generation]
    exact reclaimed.authorized.frozen.generation
  rw [confirmInstalled]
  apply Ensures.through fun receipt history => receipt.effect = effect ∧ history = base
  · apply Ensures.check
    · intro receipt history accepted same
      exact ⟨validateEffect_ok (Except.mapError_ok_iff.mp accepted), same⟩
    · rintro error history refused rfl
      generalize validateRestartWalReclamationEffect analyzed.analysis validated
        effect = result at refused
      cases result with
      | ok receipt => cases refused
      | error source =>
          cases refused
          exact ⟨id, invoked⟩
  intro receipt
  apply Ensures.through fun installed history =>
    receipt.effect = effect ∧ history = .observedSource (some installed) :: base
  · apply Ensures.ask
    · rintro installed history ⟨same, rfl⟩
      exact ⟨same, rfl⟩
    · rintro error history ⟨_, rfl⟩
      exact ⟨id, invoked.cons rfl⟩
  intro installed
  apply Ensures.bind (checkInstalled_ensures _)
  swap
  · rintro history ⟨_, rfl⟩
    exact invoked.cons rfl
  intro _
  apply Ensures.through fun retained history =>
    InstalledSource (reclamationPermit analyzed.analysis validated) receipt installed ∧
    receipt.effect = effect ∧
    history = .readRetained (some retained) :: .observedSource (some installed) :: base
  · apply Ensures.ask
    · rintro retained history ⟨accepted, same, rfl⟩
      exact ⟨validateInstalledSource_ok renewable accepted, same, rfl⟩
    · rintro error history ⟨_, _, rfl⟩
      exact ⟨id, (invoked.cons rfl).cons rfl⟩
  intro retained
  apply Ensures.bind (checkInstalled_ensures _)
  swap
  · rintro history ⟨_, _, rfl⟩
    exact (invoked.cons rfl).cons rfl
  intro _
  apply Ensures.through fun reobserved history =>
    retained = validated.retainedObservations ∧
    InstalledSource (reclamationPermit analyzed.analysis validated) receipt installed ∧
    receipt.effect = effect ∧
    history = .observedSource (some reobserved) :: .readRetained (some retained) ::
      .observedSource (some installed) :: base
  · apply Ensures.ask
    · rintro reobserved history ⟨accepted, isInstalled, same, rfl⟩
      exact ⟨validateInstalledRecords_ok_iff.mp accepted, isInstalled, same, rfl⟩
    · rintro error history ⟨_, _, _, rfl⟩
      exact ⟨id, ((invoked.cons rfl).cons rfl).cons rfl⟩
  intro reobserved
  apply Ensures.bind (checkInstalled_ensures _)
  swap
  · rintro history ⟨_, _, _, rfl⟩
    exact ((invoked.cons rfl).cons rfl).cons rfl
  intro _
  apply Ensures.pure
  rintro history ⟨stable, rfl, isInstalled, rfl, rfl⟩
  rw [rejectIf_ok_iff, Decidable.not_not, sourceObservationsMatch_iff] at stable
  subst stable
  refine ⟨⟨installed, _, _, past, observations, observed, ?_, reclaimed.authorized,
    isInstalled, reclaimed.retained⟩, ((invoked.cons rfl).cons rfl).cons rfl⟩
  rw [reclaimed.split]

/-- How a reclamation ends: applied and confirmed, or failed on either side. -/
theorem reclaim_ensures (analyzed : WalRetentionAnalyzedReplay) :
    Ensures EffectFree (reclaimAnalyzedTransactionRestartWalPrefix ports analyzed)
      (fun receipt history => Confirms analyzed receipt history ∧
        Invoked analyzed history)
      (fun error history => NotApplied error history ∨
        Indeterminate analyzed error history) := by
  rw [reclaimAnalyzedTransactionRestartWalPrefix]
  apply Ensures.bind
    ((preflight_ensures ports analyzed).weaken (fun _ _ => id) fun _ _ => .inl)
  intro validated
  apply Ensures.through fun effect history => ∃ observations observed past,
    JustReclaimed analyzed validated effect observations observed past history
  · apply Ensures.ask
    · rintro effect history ⟨quiet, observations, observed, authorized, retained⟩
      exact ⟨observations, observed, history, rfl, quiet, authorized, retained⟩
    · rintro error history ⟨quiet, observations, observed, authorized, _⟩
      exact .inr ⟨id, [], _, _, history, observations, observed, rfl, fun _ =>
        nofun, quiet, authorized⟩
  intro effect
  exact (confirmInstalled_ensures ports analyzed validated effect).weaken (fun _ _ => id)
    fun _ _ => .inr

/-- The effect is invoked at most once and only as authorized; success is
confirmed, and a failure is a preflight failure exactly when nothing was done. -/
theorem reclamation_is_authorized_and_confirmed (analyzed : WalRetentionAnalyzedReplay)
    (world : World) :
    let result := reclaimAnalyzedTransactionRestartWalPrefix ports analyzed ⟨world, []⟩
    let history := (Operation.leaves result).history
    history.countP (·.isEffect) ≤ 1 ∧
    (∀ permit answer past, .reclaimed permit answer :: past <:+ history →
      ∃ observations observed, Authorizes analyzed observations observed permit past) ∧
    (∀ receipt final, result = .ok receipt final → Confirms analyzed receipt history) ∧
    ∀ error final, result = .error error final →
      (error.IsPreflight ↔ EffectFree history) := by
  intro result history
  have ends := reclaim_ensures ports analyzed ⟨world, []⟩ (fun _ => nofun)
  have isResult :
      reclaimAnalyzedTransactionRestartWalPrefix ports analyzed ⟨world, []⟩ = result :=
    rfl
  rw [isResult] at ends
  have quietOrInvoked : EffectFree history ∨ Invoked analyzed history := by
    cases outcome : result with
    | ok receipt final =>
        rw [outcome] at ends
        simp only [history, outcome, Operation.leaves_ok]
        exact .inr ends.2
    | error error final =>
        rw [outcome] at ends
        simp only [history, outcome, Operation.leaves_error]
        exact ends.imp And.right And.right
  refine ⟨?_, ?_, ?_, ?_⟩
  · rcases quietOrInvoked with quiet | invoked
    · rw [quiet.countP]
      exact Nat.zero_le 1
    · exact invoked.countP.le
  · intro permit answer past suffix
    rcases quietOrInvoked with quiet | invoked
    · cases quiet _ (suffix.subset (List.mem_cons_self ..))
    · exact invoked.authorizes suffix
  · intro receipt final succeeded
    rw [succeeded] at ends
    simp only [history, succeeded, Operation.leaves_ok]
    exact ends.1
  · intro error final failed
    rw [failed] at ends
    simp only [history, failed, Operation.leaves_error]
    rcases ends with ⟨before, quiet⟩ | ⟨after, invoked⟩
    · exact ⟨fun _ => quiet, fun _ => before⟩
    · exact ⟨fun before => absurd before after, fun quiet =>
        absurd quiet invoked.not_quiet⟩

end Protocol

end Ntsql.Transaction
