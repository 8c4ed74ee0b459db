import Ntsql.Recovery.Invariant.Sound

/-! # The page store holds nothing that is not durable

No steal: a stored page is the image of a durable record whose transaction, if
it has one, is durably committed. And the store only moves forward. -/

namespace Ntsql.Recovery

open RecoveryModel

namespace RecoveryModel

/-- A durable record of exactly this image, committed when a transaction owns
it. -/
def DurablyBacked (model : RecoveryModel) (page : PageId)
    (snapshot : PageSnapshot) : Prop :=
  ∃ record ∈ model.walRecords, record.position = snapshot.writtenAt ∧
    Covers model.flushPosition snapshot.writtenAt ∧
    record.page = some page ∧ record.pageValue = some snapshot.value ∧
    record.pageVersion = some snapshot.version ∧
    (record.kind = .rawPage ∨ record.kind = .transactionPage ∧
      ∃ txn, record.transaction = some txn ∧ ∃ commit ∈ model.walRecords,
        commit.kind = .transactionCommit ∧ commit.transaction = some txn ∧
          Covers model.flushPosition commit.position)

theorem Sound.durablyBacked {model : RecoveryModel} (sound : model.Sound) {page : PageId}
    {snapshot : PageSnapshot} (found : model.pageStore[page]? = some snapshot) :
    model.DurablyBacked page snapshot := by
  rcases sound.pages.backed page snapshot found with
    ⟨record, effective, position, carries⟩
  refine ⟨record, effective.member, position, ?_, carries.page_eq, carries.value_eq,
    carries.version_eq, ?_⟩
  · rw [← position]
    exact effective.durable
  · refine effective.decided.imp_right fun decided => ?_
    rcases decided with ⟨txn, isPage, commit, member, isCommit, durable⟩
    exact ⟨isPage.1, txn, isPage.2, commit, member, isCommit.1, isCommit.2, durable⟩

theorem Sound.storeAdvances_after {model : RecoveryModel} (sound : model.Sound)
    (operation : RunOperation) :
    StoreAdvances model.pageStore (model.after operation).pageStore := by
  rcases sound.after_cases operation with unchanged | ⟨response, _, effect⟩
  · rw [unchanged]
    exact LatestImage.Advances.refl model.pageStore
  · exact effect.storeAdvances

theorem Sound.storeAdvances_run {model : RecoveryModel} (sound : model.Sound)
    (operations : List RunOperation) :
    StoreAdvances model.pageStore
      (Execution.run RecoveryModel.after model operations).pageStore := by
  apply Execution.relation_run Sound fun first last =>
    StoreAdvances first.pageStore last.pageStore
  · exact fun state => LatestImage.Advances.refl state.pageStore
  · exact fun _ _ _ earlier later => LatestImage.Advances.trans earlier later
  · exact fun _ operation sound _ => sound.after operation
  · exact fun _ operation sound _ => sound.storeAdvances_after operation
  · exact Execution.respects_true model operations
  · exact sound

end RecoveryModel

theorem page_store_backed_and_advancing (logId : LogId)
    (operations later : List RunOperation) :
    (∀ (page : PageId) (snapshot : PageSnapshot),
      (reached logId operations).pageStore[page]? = some snapshot →
        (reached logId operations).DurablyBacked page snapshot) ∧
    (∀ (page : PageId) (snapshot : PageSnapshot),
      (reached logId operations).pageStore[page]? = some snapshot →
        ∃ successor, (reached logId (operations ++ later)).pageStore[page]? =
          some successor ∧
          snapshot.writtenAt ≤ successor.writtenAt) := by
  have sound := sound_reached logId operations
  refine ⟨fun page snapshot found => sound.durablyBacked found, ?_⟩
  have advances := sound.storeAdvances_run later
  rw [reached, reached, Execution.run_append]
  exact advances

end Ntsql.Recovery
