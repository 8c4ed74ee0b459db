import Ntsql.Recovery.Invariant.Transactions

/-! # Pages along a run

The page store only advances, and every snapshot in it is the image of a
durable record that took effect. -/

namespace Ntsql.Recovery

variable {model final : RecoveryModel}

open RecoveryModel

/-! ## The store advances -/

theorem PageStore.getElem?_rebrand {store : PageStore} {lineage : LineageId}
    {page : PageId} :
    (PageStore.rebrand lineage store)[page]? =
      store[page]?.map (PageSnapshot.rebrand lineage) :=
  Std.ExtTreeMap.getElem?_map

theorem storeAdvances_rebrand (store : PageStore) (lineage : LineageId) :
    StoreAdvances store (PageStore.rebrand lineage store) := by
  intro page snapshot found
  refine ⟨snapshot.rebrand lineage, ?_, le_rfl⟩
  rw [PageStore.getElem?_rebrand, found]
  rfl

theorem storeAdvances_repairedStore (plan : List WalRecord) :
    StoreAdvances model.pageStore (model.repairedStore plan) :=
  LatestImage.advances_replay model.pageStore _

theorem storeAdvances_write {position : WalPosition} {snapshot : PageSnapshot}
    (accepted : model.checkPageWrite position = .ok snapshot) :
    StoreAdvances model.pageStore (model.pageStore.insert snapshot.pageId snapshot) := by
  rcases checkPageWrite_ok accepted with
    ⟨record, page, value, version, _, _, _, notOlder, rfl⟩
  exact LatestImage.advances_insert notOlder

theorem Effect.storeAdvances {operation : RunOperation} {response : Response}
    (effect : Effect model operation response final) :
    StoreAdvances model.pageStore final.pageStore := by
  cases effect with
  | flushWal live =>
      unfold afterFlush
      split <;> exact LatestImage.Advances.refl model.pageStore
  | writePageStore live accepted => exact storeAdvances_write accepted
  | reopen crashed next valid => exact storeAdvances_rebrand model.pageStore _
  | repairPages planned found | repairPagesAppliedFault planned found =>
      exact storeAdvances_repairedStore _
  | allocateCoordinatorEpoch | beginTransaction | appendTransactionPage
  | appendTransactionCommit | appendRawPage | publishCheckpoint | crash
  | crashPreservingCompleteWalTail | select | planReplay | restoreTransactions | complete
  | analyzeRetention | reclaim =>
      exact LatestImage.Advances.refl model.pageStore

/-! ## Records that took effect -/

theorem Committed.mono {records later : List WalRecord}
    {frontier reached : Option WalPosition} {txn : TransactionId}
    (committed : Committed records frontier txn)
    (kept : ∀ record ∈ records, Covers frontier record.position → record ∈ later)
    (reaches : Reaches frontier reached) : Committed later reached txn := by
  rcases committed with ⟨commit, member, isCommit, durable⟩
  exact ⟨commit, kept commit member durable, isCommit, reaches.covers durable⟩

theorem TakesEffect.mono {records later : List WalRecord}
    {frontier reached : Option WalPosition} {record : WalRecord}
    (effective : TakesEffect records frontier record)
    (kept : ∀ record ∈ records, Covers frontier record.position → record ∈ later)
    (reaches : Reaches frontier reached) : TakesEffect later reached record where
  member := kept record effective.member effective.durable
  durable := reaches.covers effective.durable
  decided := effective.decided.imp_right fun decided => by
    rcases decided with ⟨txn, isPage, committed⟩
    exact ⟨txn, isPage, committed.mono kept reaches⟩

theorem Backed.mono {records later : List WalRecord}
    {frontier reached : Option WalPosition} {page : PageId} {snapshot : PageSnapshot}
    (backed : Backed records frontier page snapshot)
    (kept : ∀ record ∈ records, Covers frontier record.position → record ∈ later)
    (reaches : Reaches frontier reached) : Backed later reached page snapshot := by
  rcases backed with ⟨record, effective, position, carries⟩
  exact ⟨record, effective.mono kept reaches, position, carries⟩

theorem Committed.rebrand {records : List WalRecord} {frontier : Option WalPosition}
    {txn : TransactionId} (committed : Committed records frontier txn)
    (lineage : LineageId) :
    Committed (records.map (WalRecord.rebrand lineage)) frontier txn := by
  rcases committed with ⟨commit, member, isCommit, durable⟩
  exact ⟨commit.rebrand lineage, List.mem_map_of_mem member, isCommit, durable⟩

theorem TakesEffect.rebrand {records : List WalRecord} {frontier : Option WalPosition}
    {record : WalRecord} (effective : TakesEffect records frontier record)
    (lineage : LineageId) :
    TakesEffect (records.map (WalRecord.rebrand lineage)) frontier
      (record.rebrand lineage) where
  member := List.mem_map_of_mem effective.member
  durable := effective.durable
  decided := effective.decided.imp_right fun decided => by
    rcases decided with ⟨txn, isPage, committed⟩
    exact ⟨txn, isPage, committed.rebrand lineage⟩

theorem Backed.rebrand {records : List WalRecord} {frontier : Option WalPosition}
    {page : PageId} {snapshot : PageSnapshot}
    (backed : Backed records frontier page snapshot) (lineage : LineageId) :
    Backed (records.map (WalRecord.rebrand lineage)) frontier page
      (snapshot.rebrand lineage) := by
  rcases backed with ⟨record, effective, position, carries⟩
  exact ⟨record.rebrand lineage, effective.rebrand lineage, position,
    ⟨carries.page_eq, carries.value_eq, carries.version_eq⟩⟩

theorem hasCommit_iff {frontier : Option WalPosition} {txn : TransactionId} :
    model.HasCommit frontier txn ↔ Committed model.walRecords frontier txn := by
  simp only [HasCommit, Committed, WalRecord.IsCommitOf, and_assoc]

theorem mem_durableWalRecords (log : model.LogInvariant) {record : WalRecord} :
    record ∈ model.durableWalRecords ↔
      record ∈ model.walRecords ∧ Covers model.flushPosition record.position :=
  DurableLog.mem_durablePrefix log.ordered

theorem takesEffect_iff (log : model.LogInvariant) {record : WalRecord} :
    TakesEffect model.walRecords model.flushPosition record ↔
      record ∈ model.durableWalRecords ∧ model.ShouldApply record := by
  have applies : model.ShouldApply record ↔ record.kind = .rawPage ∨
      ∃ txn, record.IsPageOf txn ∧
        Committed model.walRecords model.flushPosition txn := by
    simp only [ShouldApply, log.highWater, hasCommit_iff, WalRecord.IsPageOf]
    cases kind : record.kind <;> simp
  rw [mem_durableWalRecords log, applies]
  constructor
  · intro effective
    exact ⟨⟨effective.member, effective.durable⟩, effective.decided⟩
  · intro applied
    exact ⟨applied.1.1, applied.1.2, applied.2⟩

theorem carries_imageOf {record : WalRecord} {page : PageId} {snapshot : PageSnapshot}
    (image : model.imageOf record = some (page, snapshot)) :
    snapshot.BelongsTo model.logId model.lineageId page ∧
      record.position = snapshot.writtenAt ∧
      record.Carries page snapshot.value snapshot.version := by
  unfold imageOf at image
  split at image
  · rename_i pageEq valueEq versionEq
    cases image
    exact ⟨⟨rfl, rfl, rfl⟩, rfl, ⟨pageEq, valueEq, versionEq⟩⟩
  · cases image

theorem mem_appliedImages {records : List WalRecord} {entry : PageId × PageSnapshot} :
    entry ∈ model.appliedImages records ↔
      ∃ record ∈ records, model.ShouldApply record ∧
        model.imageOf record = some entry := by
  simp only [appliedImages, List.mem_filterMap, Option.ite_none_right_eq_some]

/-! ## The checkpoint never runs ahead of the store -/

theorem storeHolds_checkpointImages (held : ∀ checkpoint ∈ model.selectedCheckpoint,
      ∀ (page : PageId) (snapshot : PageSnapshot),
        checkpoint.pages[page]? = some snapshot →
        StoreHolds model.pageStore page snapshot.writtenAt) :
    ∀ entry ∈ model.checkpointImages,
      StoreHolds model.pageStore entry.1 entry.2.writtenAt := by
  intro entry member
  unfold checkpointImages at member
  split at member
  · rename_i checkpoint selected
    rcases List.mem_map.mp member with ⟨original, present, rfl⟩
    exact held checkpoint selected original.1 original.2 (mem_toList_iff.mp present)
  · cases member

theorem repairedStore_eq (held : ∀ checkpoint ∈ model.selectedCheckpoint,
      ∀ (page : PageId) (snapshot : PageSnapshot),
        checkpoint.pages[page]? = some snapshot →
        StoreHolds model.pageStore page snapshot.writtenAt) (plan : List WalRecord) :
    model.repairedStore plan =
      LatestImage.replay PageSnapshot.writtenAt model.pageStore
        (model.appliedImages plan) := by
  rw [repairedStore, LatestImage.replay_append,
    LatestImage.replay_of_holds (storeHolds_checkpointImages held)]

namespace RecoveryModel

theorem SlotInvariant.selectedHeld (slot : model.SlotInvariant)
    (selected : model.selectedCheckpoint = model.checkpointSlot) :
    ∀ checkpoint ∈ model.selectedCheckpoint,
      ∀ (page : PageId) (snapshot : PageSnapshot),
        checkpoint.pages[page]? = some snapshot →
        StoreHolds model.pageStore page snapshot.writtenAt := by
  rw [selected]
  exact fun checkpoint member => (slot checkpoint member).pagesHeld

namespace PageInvariant

theorem new (logId : LogId) : (RecoveryModel.new logId).PageInvariant where
  owned := by simp [RecoveryModel.new]
  backed := by simp [RecoveryModel.new]

theorem keep (pages : model.PageInvariant) (logIds : final.logId = model.logId)
    (lineages : final.lineageId = model.lineageId)
    (stores : final.pageStore = model.pageStore)
    (kept : ∀ record ∈ model.walRecords, Covers model.flushPosition record.position →
      record ∈ final.walRecords)
    (reaches : Reaches model.flushPosition final.flushPosition) :
      final.PageInvariant where
  owned := by
    rw [logIds, lineages, stores]
    exact pages.owned
  backed := by
    rw [stores]
    exact fun page snapshot found => (pages.backed page snapshot found).mono kept reaches

theorem write (pages : model.PageInvariant) {position : WalPosition}
    {snapshot : PageSnapshot} (accepted : model.checkPageWrite position = .ok snapshot) :
    { model with
      pageStore := model.pageStore.insert snapshot.pageId snapshot }.PageInvariant := by
  rcases checkPageWrite_ok accepted with ⟨record, page, value, version, found, carries,
    ⟨frontier, isFrontier, reached, decided⟩, _, rfl⟩
  have member : record ∈ model.walRecords := List.mem_of_find?_eq_some found
  have position_eq : record.position = position := by simpa using List.find?_some found
  have effective : TakesEffect model.walRecords model.flushPosition record := by
    refine ⟨member, ⟨frontier, isFrontier, position_eq.trans_le reached⟩, ?_⟩
    refine decided.imp_right fun decided => ?_
    rcases decided with ⟨kind, txn, owner, commit, present, below, isCommit, isOwner, _⟩
    exact ⟨txn, ⟨kind, owner⟩, commit, present, ⟨isCommit, isOwner⟩, frontier,
      isFrontier, below⟩
  refine ⟨?_, ?_⟩
  · intro other stored isStored
    by_cases same : page = other
    · subst same
      have latest :
          some (model.snapshotOf page value position version) = some stored := by
        simpa [snapshotOf] using isStored
      cases latest
      exact ⟨rfl, rfl, rfl⟩
    · apply pages.owned other stored
      simpa [snapshotOf, Std.ExtTreeMap.getElem?_insert, same] using isStored
  · intro other stored isStored
    by_cases same : page = other
    · subst same
      have latest :
          some (model.snapshotOf page value position version) = some stored := by
        simpa [snapshotOf] using isStored
      cases latest
      exact ⟨record, effective, position_eq, carries⟩
    · apply pages.backed other stored
      simpa [snapshotOf, Std.ExtTreeMap.getElem?_insert, same] using isStored

theorem reopen (pages : model.PageInvariant) (lineage : LineageId) :
    (model.afterReopen lineage).PageInvariant := by
  have original : ∀ (page : PageId) (snapshot : PageSnapshot),
      (model.afterReopen lineage).pageStore[page]? = some snapshot →
      ∃ stored, model.pageStore[page]? = some stored ∧ stored.rebrand lineage =
        snapshot := by
    intro page snapshot found
    change (PageStore.rebrand lineage model.pageStore)[page]? = some snapshot at found
    rw [PageStore.getElem?_rebrand] at found
    exact Option.map_eq_some_iff.mp found
  refine ⟨?_, ?_⟩
  · intro page snapshot found
    rcases original page snapshot found with ⟨stored, isStored, rfl⟩
    have owned := pages.owned page stored isStored
    exact ⟨owned.1, rfl, owned.2.2⟩
  · intro page snapshot found
    rcases original page snapshot found with ⟨stored, isStored, rfl⟩
    exact (pages.backed page stored isStored).rebrand lineage

theorem repair (pages : model.PageInvariant) (log : model.LogInvariant)
    (held : ∀ checkpoint ∈ model.selectedCheckpoint,
      ∀ (page : PageId) (snapshot : PageSnapshot),
        checkpoint.pages[page]? = some snapshot →
        StoreHolds model.pageStore page snapshot.writtenAt)
    {plan : List WalRecord}
    (durable : ∀ record ∈ plan, record ∈ model.durableWalRecords) :
    (model.withStore (model.repairedStore plan)).PageInvariant := by
  have origin : ∀ (page : PageId) (snapshot : PageSnapshot),
      (model.withStore (model.repairedStore plan)).pageStore[page]? = some snapshot →
      model.pageStore[page]? = some snapshot ∨
        ∃ record, TakesEffect model.walRecords model.flushPosition record ∧
          model.imageOf record = some (page, snapshot) := by
    intro page snapshot found
    change (model.repairedStore plan)[page]? = some snapshot at found
    rw [repairedStore_eq held] at found
    rcases LatestImage.replay_getElem? model.pageStore found with stored | replayed
    · exact .inl stored
    · rcases mem_appliedImages.mp replayed with ⟨record, member, applies, image⟩
      exact .inr ⟨record, (takesEffect_iff log).mpr ⟨durable record member, applies⟩,
        image⟩
  refine ⟨?_, ?_⟩
  · intro page snapshot found
    rcases origin page snapshot found with stored | ⟨record, _, image⟩
    · exact pages.owned page snapshot stored
    · exact (carries_imageOf image).1
  · intro page snapshot found
    rcases origin page snapshot found with stored | ⟨record, effective, image⟩
    · exact pages.backed page snapshot stored
    · exact ⟨record, effective, (carries_imageOf image).2⟩

end PageInvariant

theorem Analyzed.mem_suffix {evidence : CompletionEvidence} {analysis : RetentionAnalysis}
    {checkpoint : CheckpointSnapshot} {replacement : WalReplacement}
    (analyzed : model.Analyzed evidence analysis checkpoint)
    {built : RetentionAnalysis} {selected : CheckpointSnapshot}
    (builds : model.Builds built selected replacement) {source : WalPosition}
    (isSource : model.RetentionSource checkpoint source) {record : WalRecord}
    (member : record ∈ model.walRecords) (above : source ≤ record.position) :
    record ∈ replacement.retainedSuffix := by
  have same : built = analysis :=
    Option.some.inj (builds.analyzed.symm.trans analyzed.recorded)
  subst same
  rcases (retentionFloor_ok analyzed.floor).exists_le isSource with
    ⟨floor, isFloor, below⟩
  exact builds.mem_suffix.mpr ⟨member, floor, isFloor, below.trans above⟩

theorem PageInvariant.reclaim (pages : model.PageInvariant) (log : model.LogInvariant)
    (transactions : model.TransactionInvariant) {evidence : CompletionEvidence}
    {analysis built : RetentionAnalysis} {checkpoint selected : CheckpointSnapshot}
    {replacement : WalReplacement}
    (analyzed : model.Analyzed evidence analysis checkpoint)
    (builds : model.Builds built selected replacement) :
    (model.afterReclaim replacement).PageInvariant where
  owned := pages.owned
  backed := by
    intro page snapshot found
    change Backed replacement.retainedSuffix replacement.logicalHighWater page snapshot
    rw [builds.logicalHighWater_eq, log.highWater]
    rcases pages.backed page snapshot found with ⟨record, effective, position, carries⟩
    have isSource : model.RetentionSource checkpoint record.position :=
      .inr (.inr (.inr (.inl ⟨page, snapshot, found, position⟩)))
    have kept := analyzed.mem_suffix builds isSource effective.member le_rfl
    refine ⟨record, ⟨kept, effective.durable, ?_⟩, position, carries⟩
    refine effective.decided.imp_right fun decided => ?_
    rcases decided with ⟨txn, isPage, commit, member, isCommit, durable⟩
    -- the commit lies past the page, so it is retained with it
    have later :=
      transactions.pagesFirst txn record effective.member commit member isPage isCommit
    exact ⟨txn, isPage, commit, analyzed.mem_suffix builds isSource member later.le,
      isCommit, durable⟩

theorem PageInvariant.effect (sound : model.Sound) {operation : RunOperation}
    {response : Response} (effect : Effect model operation response final) :
    final.PageInvariant := by
  have pages := sound.pages
  have log := sound.log
  cases effect with
  | allocateCoordinatorEpoch | beginTransaction | publishCheckpoint | select | planReplay
  | restoreTransactions | complete | analyzeRetention =>
      exact { pages with }
  | appendTransactionPage | appendTransactionCommit | appendRawPage =>
      exact pages.keep rfl rfl rfl (fun _ member _ => List.mem_append_left _ member)
        (Reaches.refl _)
  | flushWal live =>
      have reaches := log.reaches_afterFlush
      unfold afterFlush at reaches ⊢
      split at reaches
      · exact pages.keep rfl rfl rfl (fun _ member _ => member) reaches
      · exact pages
  | writePageStore live accepted => exact { pages.write accepted with }
  | crash | crashPreservingCompleteWalTail =>
      exact pages.keep rfl rfl rfl
        (fun _ member durable => LogInvariant.mem_afterCrash.mpr ⟨member, .inr durable⟩)
        (Reaches.refl _)
  | reopen crashed next valid => exact pages.reopen _
  | repairPages planned found | repairPagesAppliedFault planned found =>
      have selected := sound.phases.selectedSlot (.inr (.inl planned))
      have plan := sound.phases.planned (.inl planned)
      rw [plan] at found
      cases found
      exact { pages.repair log (sound.slot.selectedHeld selected)
        (fun _ member => mem_durable_of_mem_window member) with }
  | reclaim analyzed builds =>
      rcases sound.phases.analyzed analyzed with
        ⟨evidence, analysis, checkpoint, isAnalyzed⟩
      exact pages.reclaim log sound.transactions isAnalyzed builds

end RecoveryModel

end Ntsql.Recovery
