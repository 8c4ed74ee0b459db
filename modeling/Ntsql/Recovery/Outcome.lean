import Ntsql.Recovery.Reopening

/-! # What recovery yields

Recovery reads the durable log and the published checkpoint, and what it yields
depends on nothing else: each page holds the latest image that took effect in
the log, and each transaction the positions that its seed and the replay window
leave it. Lineages only brand what is persisted, so the log is taken without
them. -/

namespace Ntsql.Recovery

variable {model final : RecoveryModel}

open RecoveryModel

/-- A page image without the lineage it is branded with. -/
structure PageContent where
  value : U64
  writtenAt : WalPosition
  version : PageVersion
deriving DecidableEq

def PageSnapshot.content (snapshot : PageSnapshot) : PageContent :=
  ⟨snapshot.value, snapshot.writtenAt, snapshot.version⟩

/-- A raw page, or a page of a transaction that the log commits. -/
structure Effective (log : List WalRecord) (record : WalRecord) : Prop where
  member : record ∈ log
  decided : record.kind = .rawPage ∨
    ∃ txn, record.IsPageOf txn ∧ ∃ commit ∈ log, commit.IsCommitOf txn

/-- The image of `page` that took effect last in the log. -/
structure LatestEffect (log : List WalRecord) (page : PageId)
    (content : PageContent) : Prop where
  written : ∃ record, Effective log record ∧
    record.Carries page content.value content.version ∧
      record.position = content.writtenAt
  greatest : ∀ record, Effective log record → record.page = some page →
    record.position ≤ content.writtenAt

/-- The records a recovery from this checkpoint replays. -/
def windowOf (slot : Option CheckpointSnapshot) (log : List WalRecord) : List WalRecord :=
  match slot with
  | some checkpoint => log.filter fun record => checkpoint.InWindow record.position
  | none => log

/-- The positions a recovery from this checkpoint starts from. -/
def seedOf (slot : Option CheckpointSnapshot) : TransactionPositions :=
  match slot with
  | some checkpoint => checkpoint.transactionSummary.active
  | none => ∅

def recoveredTransactions (slot : Option CheckpointSnapshot) (log : List WalRecord) :
    TransactionPositions :=
  ((windowOf slot log).foldl RestoredTransactions.observe ⟨seedOf slot, ∅⟩).active

/-- Records without the lineage they are branded with. -/
def unbranded (records : List WalRecord) : List WalRecord :=
  records.map (WalRecord.rebrand ⟨0⟩)

theorem unbranded_rebrand (records : List WalRecord) (lineage : LineageId) :
    unbranded (records.map (WalRecord.rebrand lineage)) = unbranded records := by
  rw [unbranded, List.map_map]
  rfl

theorem recoveredTransactions_unbranded (slot : Option CheckpointSnapshot)
    (records : List WalRecord) :
    recoveredTransactions slot (unbranded records) =
      recoveredTransactions slot records := by
  have window :
      windowOf slot (unbranded records) = unbranded (windowOf slot records) := by
    unfold windowOf
    cases slot with
    | none => rfl
    | some checkpoint => exact List.filter_map
  rw [recoveredTransactions, window, unbranded, List.foldl_map]
  rfl

theorem recoveredTransactions_rebrand (slot : Option CheckpointSnapshot)
    (lineage : LineageId) (log : List WalRecord) :
    recoveredTransactions (slot.map (CheckpointSnapshot.rebrand lineage)) log =
      recoveredTransactions slot log := by
  cases slot with
  | none => rfl
  | some checkpoint => rfl

namespace RecoveryModel

/-- The durable records, without their lineage. -/
def durableLog (model : RecoveryModel) : List WalRecord :=
  unbranded model.durableWalRecords

/-- The transactions a recovery from here restores. -/
def recoverable (model : RecoveryModel) : TransactionPositions :=
  recoveredTransactions model.checkpointSlot model.durableLog

/-! ## The durable log under crashes and reopens -/

theorem durableLog_afterCrash (log : model.LogInvariant) (preserve : Bool) :
    (model.afterCrash preserve).durableLog = model.durableLog := by
  have kept :
      (model.afterCrash preserve).durableWalRecords = model.durableWalRecords := by
    rw [durableWalRecords, durableWalRecords,
      DurableLog.durablePrefix_eq_filter log.ordered,
      DurableLog.durablePrefix_eq_filter (log.crash preserve).ordered]
    unfold afterCrash
    cases preserve with
    | true => rfl
    | false =>
        cases flushed : model.flushPosition with
        | none => simp
        | some frontier =>
            simp only [Bool.false_eq_true, if_false, List.filter_filter, covers_some,
              Bool.and_self]
  rw [durableLog, kept]
  rfl

theorem durableLog_afterReopen (lineage : LineageId) :
    (model.afterReopen lineage).durableLog = model.durableLog := by
  have branded : (model.afterReopen lineage).durableWalRecords =
      model.durableWalRecords.map (WalRecord.rebrand lineage) := by
    change (model.walRecords.map (WalRecord.rebrand lineage)).takeWhile _ = _
    rw [List.takeWhile_map]
    rfl
  rw [durableLog, branded, unbranded_rebrand]
  rfl

theorem recoverable_afterCrash (log : model.LogInvariant) (preserve : Bool) :
    (model.afterCrash preserve).recoverable = model.recoverable := by
  rw [recoverable, durableLog_afterCrash log]
  rfl

theorem recoverable_afterReopen (lineage : LineageId) :
    (model.afterReopen lineage).recoverable = model.recoverable := by
  rw [recoverable, durableLog_afterReopen]
  exact recoveredTransactions_rebrand model.checkpointSlot lineage model.durableLog

end RecoveryModel

/-! ## Pages -/

theorem TakesEffect.unbranded (log : model.LogInvariant) {record : WalRecord}
    (effective : TakesEffect model.walRecords model.flushPosition record) :
    Effective model.durableLog (record.rebrand ⟨0⟩) where
  member := List.mem_map_of_mem
    ((mem_durableWalRecords log).mpr ⟨effective.member, effective.durable⟩)
  decided := by
    rcases effective.decided with raw | ⟨txn, isPage, commit, member, isCommit, durable⟩
    · exact .inl raw
    · exact .inr ⟨txn, isPage, commit.rebrand ⟨0⟩,
        List.mem_map_of_mem ((mem_durableWalRecords log).mpr ⟨member, durable⟩), isCommit⟩

theorem Effective.branded (log : model.LogInvariant) {record : WalRecord}
    (effective : Effective model.durableLog record) :
    ∃ original, TakesEffect model.walRecords model.flushPosition original ∧
      original.rebrand ⟨0⟩ = record := by
  rcases List.mem_map.mp effective.member with ⟨original, present, rfl⟩
  rcases (mem_durableWalRecords log).mp present with ⟨member, durable⟩
  refine ⟨original, ⟨member, durable, ?_⟩, rfl⟩
  rcases effective.decided with raw | ⟨txn, isPage, commit, commitMember, isCommit⟩
  · exact .inl raw
  · rcases List.mem_map.mp commitMember with ⟨earlier, isRecord, rfl⟩
    rcases (mem_durableWalRecords log).mp isRecord with ⟨recorded, covered⟩
    exact .inr ⟨txn, isPage, earlier, recorded, isCommit, covered⟩

namespace RecoveryModel

theorem content_eq_some_iff (sound : model.Sound)
    (repaired : model.RepairedThrough model.flushPosition) {page : PageId}
    {content : PageContent} :
    model.pageStore[page]?.map PageSnapshot.content = some content ↔
      LatestEffect model.durableLog page content := by
  have log := sound.log
  have reached : ∀ record, Effective model.durableLog record → record.page = some page →
      StoreHolds model.pageStore page record.position := by
    intro record effective isTarget
    rcases effective.branded log with ⟨original, takes, rfl⟩
    exact repaired original takes page isTarget
  constructor
  · intro stored
    rcases Option.map_eq_some_iff.mp stored with ⟨snapshot, found, rfl⟩
    rcases sound.pages.backed page snapshot found with
      ⟨record, effective, position, carries⟩
    refine ⟨⟨record.rebrand ⟨0⟩, TakesEffect.unbranded log effective, ?_, position⟩, ?_⟩
    · exact ⟨carries.page_eq, carries.value_eq, carries.version_eq⟩
    · intro other otherEffective isTarget
      rcases reached other otherEffective isTarget with ⟨current, isCurrent, bound⟩
      cases found.symm.trans isCurrent
      exact bound
  · intro latest
    rcases latest.written with ⟨record, effective, carries, position⟩
    rcases reached record effective carries.page_eq with ⟨snapshot, found, bound⟩
    rcases sound.pages.backed page snapshot found with ⟨backing, takes, backed, image⟩
    rcases effective.branded log with ⟨original, originalTakes, rfl⟩
    have notLater := latest.greatest _ (TakesEffect.unbranded log takes) image.page_eq
    have samePosition : backing.position = original.position := by
      have below : backing.position ≤ original.position := notLater.trans_eq position.symm
      have above : original.position ≤ backing.position := bound.trans_eq backed.symm
      exact below.antisymm above
    have same :=
      log.ordered.eq_of_position_eq takes.member originalTakes.member samePosition
    subst same
    rw [found, Option.map_some]
    have values := Option.some.inj (image.value_eq.symm.trans carries.value_eq)
    have versions := Option.some.inj (image.version_eq.symm.trans carries.version_eq)
    have positions : snapshot.writtenAt = content.writtenAt := backed.symm.trans position
    simp [PageSnapshot.content, values, versions, positions]

/-! ## The recovered model -/

theorem durableLog_restored (lineage : LineageId) (epoch : U64) :
    (model.restored lineage epoch).durableLog = model.durableLog := by
  change (model.afterReopen lineage).durableLog = model.durableLog
  exact durableLog_afterReopen lineage

theorem restored_persistedTransactions (lineage : LineageId) (epoch : U64) :
    (model.restored lineage epoch).persistedTransactions = model.recoverable := by
  rw [← recoverable_afterReopen lineage, recoverable, durableLog,
    recoveredTransactions_unbranded]
  change ((model.afterReopen lineage).afterSelect.restoredFrom
    (model.afterReopen lineage).afterSelect.replayWindow).active = _
  unfold restoredFrom restorationSeed replayWindow recoveredTransactions windowOf seedOf
  rfl

end RecoveryModel

/-- Two logs with the same latest effects recover to the same pages. -/
theorem content_congr {left right : RecoveryModel} (leftSound : left.Sound)
    (rightSound : right.Sound) (leftRepaired : left.RepairedThrough left.flushPosition)
    (rightRepaired : right.RepairedThrough right.flushPosition) (page : PageId)
    (same : ∀ content, LatestEffect left.durableLog page content ↔
      LatestEffect right.durableLog page content) :
    left.pageStore[page]?.map PageSnapshot.content =
      right.pageStore[page]?.map PageSnapshot.content := by
  apply Option.ext
  intro content
  rw [content_eq_some_iff leftSound leftRepaired,
    content_eq_some_iff rightSound rightRepaired]
  exact same content

end Ntsql.Recovery
