import Ntsql.Recovery.Invariant.Sound
import Ntsql.Recovery.Invariant.Restoration

/-! # The generation header along a run

What a reopen checks of the WAL beyond its records: the header of a pruned
generation keeps describing the log it heads, and before the first reclamation
the log is a complete prefix, so that everything a checkpoint names at or below
its frontier is still recorded. -/

namespace Ntsql.Recovery

variable {model final : RecoveryModel}

open RecoveryModel

/-- What a generation replacement installs besides the records. -/
structure GenerationHeader where
  generation : Generation
  formatVersion : U16
  anchor : Option CheckpointAnchor
  retainedFirst : Option WalPosition
  logicalHighWater : Option WalPosition
  epochHighWater : Option U64

namespace RecoveryModel

def header (model : RecoveryModel) : GenerationHeader where
  generation := model.walGeneration
  formatVersion := model.walFormatVersion
  anchor := model.generationAnchor
  retainedFirst := model.retainedFirst
  logicalHighWater := model.replacementLogicalHighWater
  epochHighWater := model.replacementEpochHighWater

/-- The selected entries are valid and no replacement is under way. -/
structure Undisturbed (model : RecoveryModel) : Prop where
  walEntry : model.selectedWalEntry = .valid
  checkpointEntry : model.selectedCheckpointEntry = .valid
  checkpointCandidate : model.checkpointCandidate = .absent
  walCandidate : model.walCandidate = .absent

structure HeaderInvariant (model : RecoveryModel) : Prop where
  initial : model.walGeneration.isZero = true →
    model.header =
      ⟨model.walGeneration, completePrefixFormatVersion, none, none, none, none⟩
  pruned : model.walGeneration.isZero = false →
    model.walFormatVersion = generationFormatVersion ∧ model.generationAnchor.isSome
  headRetained : ∀ first ∈ model.retainedFirst,
    model.walRecords.head?.map WalRecord.position = some first ∧
      Covers model.flushPosition first
  emptied : model.retainedFirst = none → ∀ baseline ∈ model.replacementLogicalHighWater,
    ∀ record ∈ model.walRecords, baseline < record.position
  baseline : Reaches model.replacementLogicalHighWater model.flushPosition
  epochBaseline : Reaches model.replacementEpochHighWater model.epochHighWater

theorem Undisturbed.new (logId : LogId) : (RecoveryModel.new logId).Undisturbed :=
  ⟨rfl, rfl, rfl, rfl⟩

theorem Undisturbed.effect (undisturbed : model.Undisturbed) {operation : RunOperation}
    {response : Response} (effect : Effect model operation response final) :
    final.Undisturbed := by
  cases effect with
  | flushWal live =>
      unfold afterFlush
      split
      · exact { undisturbed with }
      · exact undisturbed
  | reopen => exact { undisturbed with checkpointCandidate := rfl, walCandidate := rfl }
  | reclaim => exact { undisturbed with walCandidate := rfl }
  | allocateCoordinatorEpoch | beginTransaction | appendTransactionPage
  | appendTransactionCommit | appendRawPage | writePageStore | publishCheckpoint | crash
  | crashPreservingCompleteWalTail | select | planReplay | repairPages
  | repairPagesAppliedFault | restoreTransactions | complete | analyzeRetention =>
      exact { undisturbed with }

theorem Builds.durable {analysis : RetentionAnalysis} {checkpoint : CheckpointSnapshot}
    {replacement : WalReplacement} (builds : model.Builds analysis checkpoint replacement)
    (log : model.LogInvariant) {record : WalRecord} (member : record ∈ model.walRecords) :
    Covers model.flushPosition record.position := by
  have nonempty := List.ne_nil_of_mem member
  have isLast := List.getLast?_eq_some_getLast nonempty
  have flushed := builds.noTail nonempty
  rw [isLast] at flushed
  exact ⟨_, flushed.symm, log.ordered.position_le_getLast isLast member⟩

namespace HeaderInvariant

theorem new (logId : LogId) : (RecoveryModel.new logId).HeaderInvariant where
  initial := fun _ => rfl
  pruned := fun pruned => by cases pruned
  headRetained := by simp [RecoveryModel.new]
  emptied := by simp [RecoveryModel.new]
  baseline := by simp [RecoveryModel.new, Reaches]
  epochBaseline := by simp [RecoveryModel.new, Reaches]

/-- The header stays valid while the log keeps its durable head and gains only
records past the flushed frontier. -/
theorem keep (header : model.HeaderInvariant) (same : final.header = model.header)
    (heads : ∀ first, Covers model.flushPosition first →
      model.walRecords.head?.map WalRecord.position = some first →
      final.walRecords.head?.map WalRecord.position = some first)
    (kept : ∀ record ∈ final.walRecords,
      (∃ original ∈ model.walRecords, original.position = record.position) ∨
        ∀ flushed ∈ model.flushPosition, flushed < record.position)
    (reaches : Reaches model.flushPosition final.flushPosition)
    (raised : Reaches model.epochHighWater final.epochHighWater) :
      final.HeaderInvariant := by
  have generations : final.walGeneration = model.walGeneration :=
    congrArg GenerationHeader.generation same
  have formats : final.walFormatVersion = model.walFormatVersion :=
    congrArg GenerationHeader.formatVersion same
  have anchors : final.generationAnchor = model.generationAnchor :=
    congrArg GenerationHeader.anchor same
  have floors : final.retainedFirst = model.retainedFirst :=
    congrArg GenerationHeader.retainedFirst same
  have highWaters :
      final.replacementLogicalHighWater = model.replacementLogicalHighWater :=
    congrArg GenerationHeader.logicalHighWater same
  have epochs : final.replacementEpochHighWater = model.replacementEpochHighWater :=
    congrArg GenerationHeader.epochHighWater same
  refine ⟨?_, ?_, ?_, ?_, ?_, ?_⟩
  · rw [same, generations]
    exact header.initial
  · rw [generations, formats, anchors]
    exact header.pruned
  · rw [floors]
    intro first member
    rcases header.headRetained first member with ⟨isHead, covered⟩
    exact ⟨heads first covered isHead, reaches.covers covered⟩
  · rw [floors, highWaters]
    intro empty limit isLimit record member
    rcases kept record member with ⟨original, present, equal⟩ | beyond
    · rw [← equal]
      exact header.emptied empty limit isLimit original present
    · rcases header.baseline limit isLimit with ⟨flushed, isFlushed, bound⟩
      exact bound.trans_lt (beyond flushed isFlushed)
  · rw [highWaters]
    exact header.baseline.trans reaches
  · rw [epochs]
    exact header.epochBaseline.trans raised

theorem unchanged (header : model.HeaderInvariant) (same : final.header = model.header)
    (records : final.walRecords = model.walRecords)
    (reaches : Reaches model.flushPosition final.flushPosition)
    (raised : Reaches model.epochHighWater final.epochHighWater) :
      final.HeaderInvariant := by
  refine header.keep same ?_ ?_ reaches raised
  · rw [records]
    exact fun _ _ isHead => isHead
  · rw [records]
    exact fun record member => .inl ⟨record, member, rfl⟩

theorem append (header : model.HeaderInvariant) (log : model.LogInvariant)
    {record : WalRecord} (next : model.nextPosition = some record.position.get)
    (same : final.header = model.header)
    (records : final.walRecords = model.walRecords ++ [record])
    (flushes : final.flushPosition = model.flushPosition)
    (epochs : final.epochHighWater = model.epochHighWater) : final.HeaderInvariant := by
  refine header.keep same ?_ ?_ ?_ ?_
  · intro first _ isHead
    rcases Option.map_eq_some_iff.mp isHead with ⟨head, isFirst, equal⟩
    rcases List.head?_eq_some_iff.mp isFirst with ⟨tail, split⟩
    rw [records, split]
    exact congrArg some equal
  · rw [records]
    intro other member
    rcases List.mem_append.mp member with earlier | last
    · exact .inl ⟨other, earlier, rfl⟩
    · rw [List.mem_singleton.mp last]
      exact .inr (log.flushedBelow _ next)
  · rw [flushes]
    exact Reaches.refl model.flushPosition
  · rw [epochs]
    exact Reaches.refl model.epochHighWater

theorem crash (header : model.HeaderInvariant) (preserve : Bool) :
    (model.afterCrash preserve).HeaderInvariant := by
  refine header.keep rfl ?_ ?_ (Reaches.refl _) (Reaches.refl _)
  · intro first covered isHead
    rcases Option.map_eq_some_iff.mp isHead with ⟨head, isFirst, equal⟩
    rcases List.head?_eq_some_iff.mp isFirst with ⟨tail, split⟩
    rcases covered with ⟨frontier, flushed, bound⟩
    unfold afterCrash
    cases preserve with
    | true => exact isHead
    | false =>
        have kept : head.position ≤ frontier := by rwa [equal]
        simp only [Option.mem_def.mp flushed, split]
        rw [List.filter_cons_of_pos (by simpa using kept)]
        exact congrArg some equal
  · intro record member
    exact .inl ⟨record, (LogInvariant.mem_afterCrash.mp member).1, rfl⟩

theorem reopen (header : model.HeaderInvariant) (lineage : LineageId) :
    (model.afterReopen lineage).HeaderInvariant := by
  refine header.keep rfl ?_ ?_ (Reaches.refl _) (Reaches.refl _)
  · intro first _ isHead
    change (model.walRecords.map (WalRecord.rebrand lineage)).head?.map
      WalRecord.position = _
    rw [List.head?_map, Option.map_map]
    exact isHead
  · intro record member
    rcases List.mem_map.mp member with ⟨original, present, rfl⟩
    exact .inl ⟨original, present, rfl⟩

theorem reclaim (sound : model.Sound) {analysis : RetentionAnalysis}
    {checkpoint : CheckpointSnapshot} {replacement : WalReplacement}
    (builds : model.Builds analysis checkpoint replacement) :
    (model.afterReclaim replacement).HeaderInvariant := by
  have highWater : replacement.logicalHighWater = model.flushPosition :=
    builds.logicalHighWater_eq.trans sound.log.highWater
  refine ⟨?_, ?_, ?_, ?_, ?_, ?_⟩
  · intro zero
    cases zero.symm.trans (Generation.checkedNext_nonzero builds.generation)
  · exact fun _ => ⟨builds.format_eq, rfl⟩
  · intro first isFirst
    change replacement.retainedFirst = some first at isFirst
    rw [builds.retainedFirst_eq] at isFirst
    have isHead := builds.recorded first isFirst
    refine ⟨isHead, ?_⟩
    change Covers replacement.logicalHighWater first
    rw [highWater]
    rcases Option.map_eq_some_iff.mp isHead with ⟨head, isRecord, rfl⟩
    have member := (builds.mem_suffix.mp (List.mem_of_head? isRecord)).1
    exact builds.durable sound.log member
  · intro empty limit _ record member
    change replacement.retainedFirst = none at empty
    rw [builds.retainedFirst_eq] at empty
    rcases (builds.mem_suffix.mp member).2 with ⟨floor, isFloor, _⟩
    rw [empty] at isFloor
    cases isFloor
  · exact Reaches.refl _
  · exact Reaches.refl _

theorem effect (sound : model.Sound) (header : model.HeaderInvariant)
    {operation : RunOperation} {response : Response}
    (effect : Effect model operation response final) :
    final.HeaderInvariant := by
  have log := sound.log
  cases effect with
  | allocateCoordinatorEpoch live next =>
      refine header.unchanged rfl rfl (Reaches.refl _) ?_
      have after := sound.transactions.epochNext.symm.trans next
      intro issued isIssued
      exact ⟨_, raiseHighWater_of_after after,
        (lt_of_epochAfter after issued isIssued).le⟩
  | appendTransactionPage live active next
  | appendTransactionCommit live active undecided next
  | appendRawPage live next =>
      exact header.append log next rfl rfl rfl rfl
  | flushWal live =>
      refine header.unchanged ?_ LogInvariant.afterFlush_walRecords
        log.reaches_afterFlush ?_
      · unfold afterFlush
        split <;> rfl
      · unfold afterFlush
        split <;> exact Reaches.refl _
  | crash running => exact header.crash false
  | crashPreservingCompleteWalTail running => exact header.crash true
  | reopen crashed next valid => exact header.reopen _
  | restoreTransactions repaired fresh found =>
      refine header.unchanged rfl rfl (Reaches.refl _) ?_
      have after := sound.epochAfter_of_fresh repaired fresh
      intro issued isIssued
      exact ⟨_, rfl, (lt_of_epochAfter after issued isIssued).le⟩
  | reclaim analyzed builds => exact reclaim sound builds
  | beginTransaction | writePageStore | publishCheckpoint | select |
      planReplay | repairPages
  | repairPagesAppliedFault | complete | analyzeRetention =>
      exact header.unchanged rfl rfl (Reaches.refl _) (Reaches.refl _)

end HeaderInvariant

end RecoveryModel

end Ntsql.Recovery
