import Ntsql.Recovery.Invariant.Definitions

/-! # The log along a run

Positions only grow, the flushed frontier only moves forward, and what is
durable stays recorded until a reclamation drops a prefix. -/

namespace Ntsql.Recovery

variable {model final : RecoveryModel}

open RecoveryModel

namespace RecoveryModel.LogInvariant

theorem new (logId : LogId) : (RecoveryModel.new logId).LogInvariant where
  ordered := List.Pairwise.nil
  accepted := by simp [RecoveryModel.new]
  below := by simp [RecoveryModel.new]
  flushedBelow := by simp [RecoveryModel.new]
  flushedRecorded := by simp [RecoveryModel.new]
  highWater := rfl

theorem append (log : model.LogInvariant) {record : WalRecord}
    (next : model.nextPosition = some record.position.get)
    (accepts : final.Accepts record) (logIds : final.logId = model.logId)
    (lineages : final.lineageId = model.lineageId)
    (records : final.walRecords = model.walRecords ++ [record])
    (positions : final.nextPosition = checkedSucc record.position.get)
    (flushes : final.flushPosition = model.flushPosition)
    (highWaters : final.logicalHighWater = model.logicalHighWater) :
      final.LogInvariant where
  ordered := by
    rw [records]
    exact DurableLog.ordered_append log.ordered (log.below _ next)
  accepted := by
    rw [records]
    intro other member
    rcases List.mem_append.mp member with earlier | last
    · have accepted := log.accepted other earlier
      exact ⟨accepted.1.trans logIds.symm, accepted.2.trans lineages.symm, accepted.3⟩
    · rw [List.mem_singleton.mp last]
      exact accepts
  below := by
    rw [records, positions]
    intro following advances other member
    have advanced := lt_of_checkedSucc advances
    rcases List.mem_append.mp member with earlier | last
    · exact (log.below _ next other earlier).trans advanced
    · rw [List.mem_singleton.mp last]
      exact advanced
  flushedBelow := by
    rw [flushes, positions]
    intro following advances flushed member
    exact (log.flushedBelow _ next flushed member).trans (lt_of_checkedSucc advances)
  flushedRecorded := by
    rw [flushes, records]
    intro flushed member
    have above : flushed < record.position := log.flushedBelow _ next flushed member
    rcases log.flushedRecorded flushed member with ⟨present, isPresent, equal⟩ | beyond
    · exact .inl ⟨present, List.mem_append_left _ isPresent, equal⟩
    · refine .inr fun other otherMember => ?_
      rcases List.mem_append.mp otherMember with earlier | last
      · exact beyond other earlier
      · rw [List.mem_singleton.mp last]
        exact above
  highWater := by rw [highWaters, flushes, log.highWater]

theorem reaches_afterFlush (log : model.LogInvariant) :
    Reaches model.flushPosition model.afterFlush.flushPosition := by
  unfold afterFlush
  split
  · rename_i last isLast
    intro flushed member
    have lastMember := List.mem_of_getLast? isLast
    rcases log.flushedRecorded flushed member with ⟨present, isPresent, equal⟩ | beyond
    · rw [covers_some, ← equal]
      exact log.ordered.position_le_getLast isLast isPresent
    · exact covers_some.mpr (beyond last lastMember).le
  · exact Reaches.refl model.flushPosition

theorem afterFlush_walRecords : model.afterFlush.walRecords = model.walRecords := by
  unfold afterFlush
  split <;> rfl

theorem flush (log : model.LogInvariant) : model.afterFlush.LogInvariant := by
  unfold afterFlush
  split
  · rename_i last isLast
    have lastMember := List.mem_of_getLast? isLast
    refine { log with flushedBelow := ?_, flushedRecorded := ?_, highWater := rfl }
    · intro next member flushed equal
      cases equal
      exact log.below next member last lastMember
    · intro flushed equal
      cases equal
      exact .inl ⟨last, lastMember, rfl⟩
  · exact log

theorem mem_afterCrash {preserve : Bool} {record : WalRecord} :
    record ∈ (model.afterCrash preserve).walRecords ↔
      record ∈ model.walRecords ∧
        (preserve = true ∨ Covers model.flushPosition record.position) := by
  unfold afterCrash
  cases preserve with
  | true => simp
  | false =>
      cases model.flushPosition with
      | none => simp
      | some frontier => simp

theorem crash (log : model.LogInvariant) (preserve : Bool) :
    (model.afterCrash preserve).LogInvariant where
  ordered := by
    unfold afterCrash
    cases preserve with
    | true => exact log.ordered
    | false =>
        cases model.flushPosition with
        | none => exact List.Pairwise.nil
        | some frontier => exact log.ordered.filter _
  accepted := fun record member => log.accepted record (mem_afterCrash.mp member).1
  below := fun next member record present =>
    log.below next member record (mem_afterCrash.mp present).1
  flushedBelow := log.flushedBelow
  flushedRecorded := by
    intro flushed member
    rcases log.flushedRecorded flushed member with ⟨present, isPresent, equal⟩ | beyond
    · have kept : Covers model.flushPosition present.position :=
        ⟨flushed, member, equal.le⟩
      exact .inl ⟨present, mem_afterCrash.mpr ⟨isPresent, .inr kept⟩, equal⟩
    · exact .inr fun record present => beyond record (mem_afterCrash.mp present).1
  highWater := rfl

theorem reopen (log : model.LogInvariant) (lineage : LineageId) :
    (model.afterReopen lineage).LogInvariant where
  ordered := by
    change ((model.walRecords.map (WalRecord.rebrand lineage))).Pairwise _
    rw [List.pairwise_map]
    exact log.ordered
  accepted := by
    intro record member
    rcases List.mem_map.mp member with ⟨original, present, rfl⟩
    exact accepts_rebrand (log.accepted original present) lineage
  below := by
    intro next member record present
    rcases List.mem_map.mp present with ⟨original, isOriginal, rfl⟩
    exact log.below next member original isOriginal
  flushedBelow := log.flushedBelow
  flushedRecorded := by
    intro flushed member
    rcases log.flushedRecorded flushed member with ⟨present, isPresent, equal⟩ | beyond
    · exact .inl ⟨present.rebrand lineage, List.mem_map_of_mem isPresent, equal⟩
    · refine .inr fun record isRecord => ?_
      rcases List.mem_map.mp isRecord with ⟨original, isOriginal, rfl⟩
      exact beyond original isOriginal
  highWater := log.highWater

end RecoveryModel.LogInvariant

theorem RecoveryModel.Builds.mem_suffix {analysis : RetentionAnalysis}
    {checkpoint : CheckpointSnapshot} {replacement : WalReplacement}
    (builds : model.Builds analysis checkpoint replacement) {record : WalRecord} :
    record ∈ replacement.retainedSuffix ↔
      record ∈ model.walRecords ∧ ∃ floor ∈ analysis.retainedFirst,
        floor ≤ record.position := by
  rw [builds.suffix_eq]
  unfold retainedSuffix
  cases analysis.retainedFirst with
  | none => simp
  | some floor => simp

theorem RecoveryModel.LogInvariant.reclaim (log : model.LogInvariant)
    {analysis : RetentionAnalysis} {checkpoint : CheckpointSnapshot}
    {replacement : WalReplacement}
    (builds : model.Builds analysis checkpoint replacement) :
    (model.afterReclaim replacement).LogInvariant where
  ordered := by
    change DurableLog.Ordered WalRecord.position replacement.retainedSuffix
    rw [builds.suffix_eq]
    unfold retainedSuffix
    split
    · exact log.ordered.filter _
    · exact List.Pairwise.nil
  accepted := fun record member => log.accepted record (builds.mem_suffix.mp member).1
  below := fun next member record present =>
    log.below next member record (builds.mem_suffix.mp present).1
  flushedBelow := by
    change ∀ next ∈ model.nextPosition, ∀ flushed ∈ replacement.logicalHighWater, _
    rw [builds.logicalHighWater_eq, log.highWater]
    exact log.flushedBelow
  flushedRecorded := by
    change ∀ flushed ∈ replacement.logicalHighWater,
      (∃ record ∈ replacement.retainedSuffix, record.position = flushed) ∨
        ∀ record ∈ replacement.retainedSuffix, flushed < record.position
    rw [builds.logicalHighWater_eq, log.highWater]
    intro flushed member
    rcases log.flushedRecorded flushed member with ⟨present, isPresent, equal⟩ | beyond
    · by_cases kept : present ∈ replacement.retainedSuffix
      · exact .inl ⟨present, kept, equal⟩
      · -- the floor lies above the flushed record, and so does everything kept
        refine .inr fun record isRecord => ?_
        rcases (builds.mem_suffix.mp isRecord).2 with ⟨floor, isFloor, above⟩
        have dropped : ¬floor ≤ present.position :=
          fun reached => kept (builds.mem_suffix.mpr ⟨isPresent, floor, isFloor, reached⟩)
        rw [← equal]
        exact (not_le.mp dropped).trans_le above
    · exact .inr fun record isRecord => beyond record (builds.mem_suffix.mp isRecord).1
  highWater := rfl

theorem RecoveryModel.LogInvariant.effect (log : model.LogInvariant)
    {operation : RunOperation} {response : Response}
    (effect : Effect model operation response final) :
    final.LogInvariant := by
  cases effect with
  | allocateCoordinatorEpoch | beginTransaction | writePageStore |
      publishCheckpoint | select
  | planReplay | repairPages | repairPagesAppliedFault | restoreTransactions | complete
  | analyzeRetention =>
      exact { log with }
  | appendTransactionPage live active next =>
      exact log.append next
        ⟨rfl, rfl, by simp [WalRecord.HasShape, transactionPageRecord]⟩
        rfl rfl rfl rfl rfl rfl
  | appendTransactionCommit live active undecided next =>
      exact log.append next
        ⟨rfl, rfl, by simp [WalRecord.HasShape, transactionCommitRecord]⟩
        rfl rfl rfl rfl rfl rfl
  | appendRawPage live next =>
      exact log.append next ⟨rfl, rfl, by simp [WalRecord.HasShape, rawPageRecord]⟩
        rfl rfl rfl rfl rfl rfl
  | flushWal live => exact log.flush
  | crash running => exact log.crash false
  | crashPreservingCompleteWalTail running => exact log.crash true
  | reopen crashed next valid => exact log.reopen _
  | reclaim analyzed builds => exact log.reclaim builds

end Ntsql.Recovery
