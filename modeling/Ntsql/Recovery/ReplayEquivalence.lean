import Ntsql.Recovery.Invariant.Sound

/-! # Windowed replay is full replay

What the checkpoint's window leaves out, the page store already holds, so
repair yields the store a replay of every durable record would yield: for each
page, the latest image there is. -/

namespace Ntsql.Recovery

variable {model : RecoveryModel}

open RecoveryModel Operation

namespace RecoveryModel

/-- An image of `page`: the stored one, or that of a durable record that took
effect. -/
def HasImage (model : RecoveryModel) (page : PageId) (snapshot : PageSnapshot) : Prop :=
  model.pageStore[page]? = some snapshot ∨
    ∃ record, TakesEffect model.walRecords model.flushPosition record ∧
      record.Carries page snapshot.value snapshot.version ∧
      snapshot = model.snapshotOf page snapshot.value record.position snapshot.version

/-- The image of `page` with the greatest position. -/
structure IsLatestImage (model : RecoveryModel) (page : PageId)
    (snapshot : PageSnapshot) : Prop where
  image : model.HasImage page snapshot
  greatest : ∀ other, model.HasImage page other → other.writtenAt ≤ snapshot.writtenAt

/-- The same model planned to replay every durable record, without a
checkpoint. -/
def planEverything (model : RecoveryModel) : RecoveryModel :=
  { model with
    selectedCheckpoint := none
    replayPlan := some model.durableWalRecords }

theorem imageOf_eq_some {record : WalRecord} {page : PageId} {snapshot : PageSnapshot} :
    model.imageOf record = some (page, snapshot) ↔
      record.Carries page snapshot.value snapshot.version ∧
        snapshot = model.snapshotOf page snapshot.value record.position
          snapshot.version := by
  unfold imageOf
  constructor
  · intro image
    split at image
    · rename_i pageEq valueEq versionEq
      cases image
      exact ⟨⟨pageEq, valueEq, versionEq⟩, rfl⟩
    · cases image
  · intro carried
    rcases carried with ⟨carries, equal⟩
    rw [carries.page_eq, carries.value_eq, carries.version_eq]
    exact congrArg (fun image => some (page, image)) equal.symm

theorem appliedImages_filter (records : List WalRecord) (inside : WalPosition → Bool) :
    model.appliedImages (records.filter fun record => inside record.position) =
      (model.appliedImages records).filter fun entry => inside entry.2.writtenAt := by
  induction records with
  | nil => rfl
  | cons record records induction =>
      have images : ∀ entry ∈ model.appliedImages [record],
          entry.2.writtenAt = record.position := by
        intro entry member
        rcases mem_appliedImages.mp member with ⟨other, isRecord, _, image⟩
        rw [List.mem_singleton.mp isRecord] at image
        exact (carries_imageOf image).2.1.symm
      have split : ∀ rest, model.appliedImages ([record] ++ rest) =
          model.appliedImages [record] ++ model.appliedImages rest :=
        fun _ => List.filterMap_append
      simp only [List.singleton_append] at split
      rw [split records, List.filter_append, ← induction]
      cases kept : inside record.position with
      | true =>
          rw [List.filter_cons_of_pos (by simpa using kept), split]
          congr 1
          symm
          apply List.filter_eq_self.mpr
          intro entry member
          simpa [images entry member] using kept
      | false =>
          rw [List.filter_cons_of_neg (by simp [kept])]
          have dropped : (model.appliedImages [record]).filter
              (fun entry => inside entry.2.writtenAt) = [] := by
            apply List.filter_eq_nil_iff.mpr
            intro entry member
            simp [images entry member, kept]
          rw [dropped]
          rfl

theorem replay_window_eq (sound : model.Sound)
    (selected : model.selectedCheckpoint = model.checkpointSlot) :
    LatestImage.replay PageSnapshot.writtenAt model.pageStore
        (model.appliedImages model.replayWindow) =
      LatestImage.replay PageSnapshot.writtenAt model.pageStore
        (model.appliedImages model.durableWalRecords) := by
  cases isSelected : model.selectedCheckpoint with
  | none => simp only [replayWindow, isSelected]
  | some checkpoint =>
      have window : model.replayWindow = model.durableWalRecords.filter
          fun record => checkpoint.InWindow record.position := by
        simp only [replayWindow, isSelected]
      rw [window, appliedImages_filter model.durableWalRecords
        fun position => checkpoint.InWindow position]
      apply LatestImage.replay_filter
      intro entry member skipped
      rcases mem_appliedImages.mp member with ⟨record, durable, applies, image⟩
      have effective := (takesEffect_iff sound.log).mpr ⟨durable, applies⟩
      have isPage : record.kind = .transactionPage ∨ record.kind = .rawPage := by
        rcases effective.decided with raw | ⟨_, isPage, _⟩
        · exact .inr raw
        · exact .inl isPage.1
      have carried := carries_imageOf image
      rw [selected] at isSelected
      have held :=
        (sound.slot checkpoint isSelected).represented record effective.member isPage
        (by rw [carried.2.1]; simpa using skipped) entry.1 carried.2.2.page_eq
      rwa [carried.2.1] at held

theorem HasImage.recorded (sound : model.Sound) {page : PageId} {snapshot : PageSnapshot}
    (image : model.HasImage page snapshot) :
    ∃ record ∈ model.walRecords, record.position = snapshot.writtenAt ∧
      record.Carries page snapshot.value snapshot.version ∧
      snapshot = model.snapshotOf page snapshot.value snapshot.writtenAt
        snapshot.version := by
  rcases image with stored | ⟨record, effective, carries, equal⟩
  · rcases sound.pages.backed page snapshot stored with
      ⟨record, effective, position, carries⟩
    rcases sound.pages.owned page snapshot stored with ⟨logEqual, lineageEqual, pageEqual⟩
    refine ⟨record, effective.member, position, carries, ?_⟩
    rw [snapshotOf, ← logEqual, ← lineageEqual, ← pageEqual]
  · have position : record.position = snapshot.writtenAt := by rw [equal]; rfl
    rw [position] at equal
    exact ⟨record, effective.member, position, carries, equal⟩

theorem HasImage.unique (sound : model.Sound) {page : PageId} {left right : PageSnapshot}
    (leftImage : model.HasImage page left) (rightImage : model.HasImage page right)
    (same : left.writtenAt = right.writtenAt) : left = right := by
  rcases leftImage.recorded sound with ⟨record, member, position, carries, equal⟩
  rcases rightImage.recorded sound with
    ⟨other, otherMember, otherPosition, otherCarries, otherEqual⟩
  have sameRecord := sound.log.ordered.eq_of_position_eq member otherMember
    (position.trans (same.trans otherPosition.symm))
  subst sameRecord
  have values := Option.some.inj (carries.value_eq.symm.trans otherCarries.value_eq)
  have versions := Option.some.inj (carries.version_eq.symm.trans otherCarries.version_eq)
  rw [equal, otherEqual, same, values, versions]

theorem replayed_iff_latest (sound : model.Sound) {page : PageId}
    {snapshot : PageSnapshot} :
    (LatestImage.replay PageSnapshot.writtenAt model.pageStore
        (model.appliedImages model.durableWalRecords))[page]? = some snapshot ↔
      model.IsLatestImage page snapshot := by
  let replayed := LatestImage.replay PageSnapshot.writtenAt model.pageStore
    (model.appliedImages model.durableWalRecords)
  have applied : ∀ other, (page, other) ∈ model.appliedImages model.durableWalRecords ↔
      ∃ record, TakesEffect model.walRecords model.flushPosition record ∧
        record.Carries page other.value other.version ∧
        other = model.snapshotOf page other.value record.position other.version := by
    intro other
    simp only [mem_appliedImages, takesEffect_iff sound.log, imageOf_eq_some, and_assoc]
  have invents : ∀ other, replayed[page]? = some other → model.HasImage page other := by
    intro other found
    rcases LatestImage.replay_getElem? model.pageStore found with stored | isApplied
    · exact .inl stored
    · exact .inr ((applied other).mp isApplied)
  have holds :
      ∀ other, model.HasImage page other → StoreHolds replayed page other.writtenAt := by
    intro other image
    rcases image with stored | isApplied
    · exact LatestImage.advances_replay model.pageStore _ page other stored
    · exact LatestImage.holds_replay model.pageStore ((applied other).mpr isApplied)
  constructor
  · intro found
    refine ⟨invents snapshot found, ?_⟩
    intro other image
    rcases holds other image with ⟨stored, isStored, bound⟩
    rw [found] at isStored
    cases isStored
    exact bound
  · intro latest
    rcases holds snapshot latest.image with ⟨stored, isStored, bound⟩
    have equal := (latest.greatest stored (invents stored isStored)).antisymm bound
    have same := HasImage.unique sound (invents stored isStored) latest.image equal
    rwa [same] at isStored

theorem Sound.repairPages (sound : model.Sound) (planned : model.phase = .replayPlanned) :
    ∃ count, Recovery.repairPages model =
      .ok count
        { model.withStore (LatestImage.replay PageSnapshot.writtenAt model.pageStore
          (model.appliedImages model.durableWalRecords)) with phase :=
          .pagesRepaired } := by
  have selected := sound.phases.selectedSlot (.inr (.inl planned))
  rcases sound.repairPagesInner planned with ⟨count, repaired⟩
  refine ⟨count, ?_⟩
  rw [repairPages_of_inner planned repaired,
    repairedStore_eq (sound.slot.selectedHeld selected), replay_window_eq sound selected]

theorem Sound.repairEverything (sound : model.Sound)
    (planned : model.phase = .replayPlanned) :
    ∃ count, Recovery.repairPages model.planEverything =
      .ok count { model.planEverything.withStore
        (LatestImage.replay PageSnapshot.writtenAt model.pageStore
          (model.appliedImages model.durableWalRecords)) with phase :=
            .pagesRepaired } := by
  have ordered : DurableLog.Ordered WalRecord.position model.durableWalRecords :=
    sound.log.ordered.sublist (List.takeWhile_sublist _)
  have accepted :
      ∀ record ∈ model.durableWalRecords, model.planEverything.Accepts record :=
    fun record member => sound.log.accepted record (mem_walRecords_of_mem_durable member)
  have room : 0 + model.durableWalRecords.length ≤ u64Max := by
    rw [Nat.zero_add]
    exact length_le_of_ordered ordered
  have installed : repairSelectedPages model.planEverything.selectedCheckpoint
      model.planEverything = .ok 0 (model.planEverything.withStore
        (LatestImage.replay PageSnapshot.writtenAt model.planEverything.pageStore
          model.planEverything.checkpointImages)) := rfl
  rcases repairPagesInner_of_selected rfl accepted installed room with ⟨count, repaired⟩
  exact ⟨count, repairPages_of_inner planned repaired⟩

end RecoveryModel

theorem windowed_replay_is_full_replay (logId : LogId) (operations : List RunOperation)
    (planned : (reached logId operations).phase = .replayPlanned) :
    ∃ count total repaired everything,
      repairPages (reached logId operations) = .ok count repaired ∧
      repairPages (reached logId operations).planEverything = .ok total everything ∧
      repaired.pageStore = everything.pageStore ∧
      ∀ (page : PageId) (snapshot : PageSnapshot),
        repaired.pageStore[page]? = some snapshot ↔
          (reached logId operations).IsLatestImage page snapshot := by
  have sound := sound_reached logId operations
  rcases sound.repairPages planned with ⟨count, repaired⟩
  rcases sound.repairEverything planned with ⟨total, everything⟩
  exact ⟨count, total, _, _, repaired, everything, rfl,
    fun page snapshot => replayed_iff_latest sound⟩

/-- The checkpoint leaves the first record out of its window, and the commit of
the second comes after it. -/
def lateCommitRun : List RunOperation :=
  [.allocateCoordinatorEpoch, .beginTransaction,
    .appendRawPage Sample.page 7 Sample.version,
    .appendTransactionPage Sample.transaction Sample.page 8 Sample.version, .flushWal,
    .writePageStore Sample.first, .publishCheckpoint Sample.anchor,
    .appendTransactionCommit Sample.transaction, .flushWal, .crash, .reopen, .select,
      .planReplay]

theorem windowed_replay_is_full_replay_of_late_commit :
    ∃ count total repaired everything,
      repairPages (reached Sample.log lateCommitRun) = .ok count repaired ∧
      repairPages (reached Sample.log lateCommitRun).planEverything =
        .ok total everything ∧
      repaired.pageStore = everything.pageStore ∧
      ∀ (page : PageId) (snapshot : PageSnapshot),
        repaired.pageStore[page]? = some snapshot ↔
          (reached Sample.log lateCommitRun).IsLatestImage page snapshot :=
  windowed_replay_is_full_replay Sample.log lateCommitRun (by decide +kernel)

end Ntsql.Recovery
