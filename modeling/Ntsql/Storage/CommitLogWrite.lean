import Ntsql.Storage.CommitLogFormat

/-! # What a call on the log leaves

A call that is not refused appends the frames of one group, whole or torn by
the device, and only a whole one reaches the records and counters in memory. -/

namespace Ntsql.Storage.FileCommitLog

open FrameLog Operation

variable {width : Nat}

/-- What a call has checked before it appends a group. -/
def Begins (log : FileCommitLog width) : LogGroup width → Prop
  | .epoch epoch => log.nextEpoch = some epoch
  | .record record => record.position.lineage = log.lineage ∧
      log.nextPosition = some record.position.get ∧
      (∀ page, record.kind = .pageWrite page → log.format.supportsPages = true) ∧
      ∀ owner page, record.kind = .transactionPageWrite owner page →
        log.format.supportsTransactionPages = true
  | .marker position => ∃ index,
      log.records.findIdx?
        (fun record => record.position = log.lineage.position position) =
        some index ∧ log.durableLen < index + 1

def afterGroup (log : FileCommitLog width) : LogGroup width → FileCommitLog width
  | .epoch epoch => { log with nextEpoch := NonZeroU64.checkedNext epoch.get }
  | .record record => { log with
      records := log.records ++ [record]
      nextPosition := checkedSucc record.position.get }
  | .marker position => { log with
      durableLen := (log.records.findIdx fun record =>
        record.position = log.lineage.position position) + 1 }

inductive AppendEffect (layout : PageLayout) (log : FileCommitLog width)
    (group : LogGroup width) : FileCommitLog width → Prop
  | refused (script : List IoResult) (armedFault : Option FaultPoint)
      (reliable : log.writer.Reliable → script = []) :
      AppendEffect layout log group { log with
        writer := { log.writer with script }
        armedFault }
  | torn (written : Nat) (script : List IoResult) (armedFault : Option FaultPoint)
      (healthy : log.writer.poisoned = false) (failing : ¬log.writer.Reliable) :
      AppendEffect layout log group { log with
        writer := {
          bytes := log.writer.bytes ++
            (encode (logGroupFrames log.format layout group)).take written
          script, poisoned := true }
        armedFault }
  | appended (script : List IoResult) (armedFault : Option FaultPoint)
      (healthy : log.writer.poisoned = false)
      (reliable : log.writer.Reliable → script = []) :
      AppendEffect layout log group { log.afterGroup group with
        writer := {
          bytes := log.writer.bytes ++ encode (logGroupFrames log.format layout group)
          script, poisoned := false }
        armedFault }

/-- What is left of an armed fault once its point is reached. -/
def disarmed (log : FileCommitLog width) (point : FaultPoint) : Option FaultPoint :=
  if log.armedFault = some point then none else log.armedFault

theorem consumeFault_apply {ε : Type} (point : FaultPoint) (log : FileCommitLog width) :
    (consumeFault point : EStateM ε (FileCommitLog width) Bool) log =
      .ok (decide (log.armedFault = some point))
        { log with armedFault := log.disarmed point } := by
  rw [consumeFault, get_bind]
  by_cases armed : log.armedFault = some point
  · simp [armed, disarmed, modify_bind]
  · simp [armed, disarmed]

/-! ## Each call -/

/-- Both appends end by writing the frames of a record and adding it. -/
def appendRecord (frames : List (FileIoStage × Bytes 56)) (record : FileLogRecord width) :
    Write width LogSequenceNumber := do
  if ← consumeFault .beforeAppend then
    throw (.injectedFault .beforeAppend)
  request .io (AppendFile.writeFrames frames)
  modify fun log => { log with
    records := log.records ++ [record]
    nextPosition := checkedSucc record.position.get }
  if ← consumeFault .afterAppend then
    throw (.injectedFault .afterAppend)
  return record.position

theorem appendRecord_effect (layout : PageLayout) (log : FileCommitLog width)
    (healthy : log.writer.poisoned = false) {frames : List (FileIoStage × Bytes 56)}
    {record : FileLogRecord width}
    (frames_eq : frames.map Prod.snd = recordFrames log.format layout record) :
    AppendEffect layout log (.record record)
      (leaves (appendRecord frames record log)) := by
  simp only [appendRecord, bind_apply, branch_apply, consumeFault_apply, throw_apply,
    modify_apply, request, pure_apply]
  by_cases before : log.armedFault = some .beforeAppend
  · simp only [before, decide_true, if_true]
    exact .refused log.writer.script _ id
  · simp only [before, decide_false, Bool.false_eq_true, if_false]
    rcases AppendFile.writeFrames_cases frames log.writer with
      ⟨script, wrote, reliable⟩ | ⟨stage, written, script, failed, failing⟩
    · rw [wrote, frames_eq, healthy]
      simp only []
      split
      · exact .appended script _ healthy reliable
      · exact .appended script _ healthy reliable
    · rw [failed, frames_eq]
      exact .torn written script _ healthy failing

/-- What holds of a log whose frames were torn, and of one whose frames are
written and synchronized, holds of the log a synchronized write leaves. -/
theorem leaves_write_sync {ε α : Type} {holds : FileCommitLog width → Prop}
    {error : FileIoStage → ε} {frames : List (FileIoStage × Bytes 56)}
    {stage : FileIoStage} {rest : EStateM ε (FileCommitLog width) α}
    {log : FileCommitLog width}
    (torn : ∀ written script, ¬log.writer.Reliable → holds { log with
      writer := {
        bytes := log.writer.bytes ++ (encode (frames.map Prod.snd)).take written
        script, poisoned := true } })
    (synced : ∀ script, (log.writer.Reliable → script = []) →
      holds (leaves (rest { log with
        writer := { log.writer with
          bytes := log.writer.bytes ++ encode (frames.map Prod.snd), script } }))) :
    holds (leaves ((do
      request error (AppendFile.writeFrames frames)
      request error (AppendFile.syncAll stage true)
      rest) log)) := by
  simp only [bind_apply, request]
  rcases AppendFile.writeFrames_cases frames log.writer with
    ⟨script, wrote, reliable⟩ | ⟨failed, written, script, tears, failing⟩
  · rw [wrote]
    rcases AppendFile.syncAll_cases stage true { log.writer with
        bytes := log.writer.bytes ++ encode (frames.map Prod.snd), script } with
      ⟨later, syncs, stillReliable⟩ | ⟨later, unsynced, failing⟩
    · simp only [syncs]
      exact synced later fun isReliable => stillReliable (reliable isReliable)
    · have whole := torn (encode (frames.map Prod.snd)).length later
        fun isReliable => failing (reliable isReliable)
      rw [List.take_length] at whole
      simp only [unsynced, Bool.or_true]
      exact whole
  · rw [tears]
    exact torn written script failing

inductive LogOperation where
  | allocateTransactionEpochFrame
  | appendCommit (transactionId : TransactionId)
  | appendPage {pageWidth : Nat} (page : UnloggedPage pageWidth)
  | appendTransactionPage {pageWidth : Nat} (transactionId : TransactionId)
      (page : UnloggedPage pageWidth)
  | flushThrough (position : LogSequenceNumber)
  | armFault (fault : FaultPoint)

def storedPage (width : Nat) {pageWidth : Nat} (page : UnloggedPage pageWidth) :
    FilePageWriteRecord width where
  pageNumber := page.address.number
  pageVersion := page.version
  bytes := Bytes.ofList width page.image.toList

def offered (log : FileCommitLog width) : LogOperation → Option (LogGroup width)
  | .allocateTransactionEpochFrame => log.nextEpoch.map .epoch
  | .appendCommit transactionId => log.nextPosition.map fun position => .record
      ⟨log.lineage.position position,
        .transactionCommit (.fromTransactionId transactionId)⟩
  | .appendPage page => log.nextPosition.map fun position => .record
      ⟨log.lineage.position position, pageKind (storedPage width page) none⟩
  | .appendTransactionPage transactionId page =>
      log.nextPosition.map fun position => .record ⟨log.lineage.position position,
        pageKind (storedPage width page) (some (.fromTransactionId transactionId))⟩
  | .flushThrough position => some (.marker position.get)
  | .armFault _ => none

/-- The log after a call: untouched but for a fault, or after an attempt to
append the offered group. -/
inductive OperationEffect (layout : PageLayout) (log : FileCommitLog width)
    (offer : Option (LogGroup width)) : FileCommitLog width → Prop
  | kept (armedFault : Option FaultPoint) :
      OperationEffect layout log offer { log with armedFault }
  | tried (group : LogGroup width) (final : FileCommitLog width)
      (isOffer : offer = some group)
      (begins : log.Begins group) (effect : AppendEffect layout log group final) :
      OperationEffect layout log offer final

theorem OperationEffect.unchanged {layout : PageLayout} {log : FileCommitLog width}
    {offer : Option (LogGroup width)} : OperationEffect layout log offer log :=
  .kept log.armedFault

section Calls

variable {layout : PageLayout} (log : FileCommitLog width)

theorem appendCommit_effect (transactionId : TransactionId) :
    OperationEffect layout log (log.offered (.appendCommit transactionId))
      (leaves (appendCommit transactionId log)) := by
  rw [appendCommit, get_bind]
  refine leaves_check_bind .unchanged fun _ healthy => ?_
  refine leaves_check_bind .unchanged fun position next => ?_
  simp only [rejectIf_ok_iff, Bool.not_eq_true, okOr_ok_iff] at healthy next
  have frames_eq :
      [(FileIoStage.writeCommitFrame, buildFrame log.format .commitRecord position
      transactionId.epoch.get transactionId.sequence.get)].map Prod.snd =
        recordFrames log.format layout ⟨log.lineage.position position,
          (.transactionCommit (.fromTransactionId transactionId) :
            FileLogRecordKind width)⟩ := rfl
  have effect := appendRecord_effect layout log healthy frames_eq
  have begins : log.Begins (.record ⟨log.lineage.position position,
      .transactionCommit (.fromTransactionId transactionId)⟩) := by
    refine ⟨rfl, next, ?_, ?_⟩
    · intro page isPage
      cases isPage
    · intro owner page isPage
      cases isPage
  exact .tried _ _ (by rw [offered, next, Option.map_some]) begins effect

theorem appendPageGroup_effect {pageWidth : Nat} (page : UnloggedPage pageWidth)
    (owner : Option StoredTransactionIdentity)
    (supports : owner.isSome → log.format.supportsTransactionPages = true)
    (accepted : log.format.supportsPages = true → PageLayout.forConst width =
      .ok layout) :
    OperationEffect layout log
      (log.nextPosition.map fun position => .record
        ⟨log.lineage.position position, pageKind (storedPage width page) owner⟩)
      (leaves (appendPageGroup page owner log)) := by
  rw [appendPageGroup, get_bind]
  refine leaves_check_bind .unchanged fun _ healthy => ?_
  refine leaves_check_bind .unchanged fun _ paged => ?_
  refine leaves_check_bind .unchanged fun _ _ => ?_
  refine leaves_check_bind .unchanged fun _ _ => ?_
  refine leaves_check_bind .unchanged fun other sameWidth => ?_
  refine leaves_check_bind .unchanged fun position next => ?_
  simp only [rejectIf_ok_iff, Bool.not_eq_true, Bool.not_eq_false, Except.mapError_ok_iff,
    okOr_ok_iff]
    at healthy paged sameWidth next
  have same : other = layout := Except.ok.inj (sameWidth.symm.trans (accepted paged))
  rw [same]
  have frames_eq :
      (pageGroupFrames log.format layout position (storedPage width page) owner).map
      Prod.snd = recordFrames log.format layout
        ⟨log.lineage.position position, pageKind (storedPage width page) owner⟩ := by
    cases owner <;> rfl
  have begins : log.Begins (.record
      ⟨log.lineage.position position, pageKind (storedPage width page) owner⟩) := by
    refine ⟨rfl, next, fun _ _ => paged, fun transaction stored isOwned => supports ?_⟩
    cases owner with
    | none => cases isOwned
    | some owner => rfl
  exact .tried _ _ (by rw [next, Option.map_some]) begins
    (appendRecord_effect layout log healthy frames_eq)

theorem appendTransactionPageInternal_effect {pageWidth : Nat}
    (transactionId : TransactionId) (page : UnloggedPage pageWidth)
    (accepted : log.format.supportsPages = true → PageLayout.forConst width =
      .ok layout) :
    OperationEffect layout log (log.offered (.appendTransactionPage transactionId page))
      (leaves (appendTransactionPageInternal transactionId page log)) := by
  rw [appendTransactionPageInternal, get_bind]
  refine leaves_check_bind .unchanged fun _ supports => ?_
  simp only [rejectIf_ok_iff, Bool.not_eq_true, Bool.not_eq_false] at supports
  exact appendPageGroup_effect log page _ (fun _ => supports) accepted

theorem allocateTransactionEpochFrame_effect :
    OperationEffect layout log (log.offered .allocateTransactionEpochFrame)
      (leaves (allocateTransactionEpochFrame log)) := by
  rw [allocateTransactionEpochFrame, get_bind]
  refine leaves_check_bind .unchanged fun _ healthy => ?_
  refine leaves_check_bind .unchanged fun epoch next => ?_
  simp only [rejectIf_ok_iff, Bool.not_eq_true, okOr_ok_iff] at healthy next
  refine .tried (.epoch epoch) _ (by rw [offered, next, Option.map_some]) next ?_
  apply leaves_write_sync
  · intro written script failing
    exact .torn written script log.armedFault healthy failing
  · intro script reliable
    simp only [modify_bind, pure_apply, healthy]
    exact .appended script log.armedFault healthy reliable

theorem flushThrough_effect (position : LogSequenceNumber) :
    OperationEffect layout log (log.offered (.flushThrough position))
      (leaves (flushThrough position log)) := by
  rw [flushThrough, get_bind]
  refine leaves_check_bind .unchanged fun _ healthy => ?_
  refine leaves_check_bind .unchanged fun _ own => ?_
  refine leaves_check_bind .unchanged fun index found => ?_
  simp only [rejectIf_ok_iff, Bool.not_eq_true, ne_eq, not_not, okOr_ok_iff]
    at healthy own found
  by_cases durable : index + 1 ≤ log.durableLen
  · simp only [durable, if_true]
    exact .unchanged
  · simp only [durable, if_false]
    have begins : log.Begins (.marker position.get) := by
      refine ⟨index, ?_, Nat.not_le.mp durable⟩
      rw [LogSequenceNumber.eq_position own.symm] at found
      exact found
    refine .tried (.marker position.get) _ rfl begins ?_
    rw [bind_of_ok (consumeFault_apply .beforeFlush log)]
    by_cases before : log.armedFault = some .beforeFlush
    · simp only [before, decide_true, if_true]
      exact .refused log.writer.script _ id
    · simp only [before, decide_false, Bool.false_eq_true, if_false]
      rw [bind_apply, request]
      rcases AppendFile.syncAll_cases FileIoStage.syncCommitPrefix false log.writer with
        ⟨script, synced, reliable⟩ | ⟨script, unsynced, failing⟩
      · simp only [synced]
        apply leaves_write_sync
        · intro written later failing
          have unreliable : ¬log.writer.Reliable :=
            fun isReliable => failing (reliable isReliable)
          exact .torn written later (log.disarmed .beforeFlush) healthy unreliable
        · intro later stillReliable
          have settled : log.writer.Reliable → later = [] :=
            fun isReliable => stillReliable (reliable isReliable)
          have length : index = log.records.findIdx fun record =>
              record.position = log.lineage.position position.get := by
            rw [own, ← LogSequenceNumber.eq_position rfl]
            exact (List.findIdx?_eq_some_iff_findIdx_eq.mp found).2.symm
          simp only [bind_apply, modify_apply, consumeFault_apply, branch_apply,
            throw_apply, pure_apply, healthy]
          rw [length]
          split
          · exact .appended later _ healthy settled
          · exact .appended later _ healthy settled
      · simp only [unsynced, Bool.or_false]
        exact .refused script _ fun isReliable => absurd isReliable failing

/-- Run a call; its result is in the log it leaves. -/
def after (log : FileCommitLog width) : LogOperation → FileCommitLog width
  | .allocateTransactionEpochFrame => leaves (allocateTransactionEpochFrame log)
  | .appendCommit transactionId => leaves (appendCommit transactionId log)
  | .appendPage page => leaves (appendPageInternal page log)
  | .appendTransactionPage transactionId page =>
      leaves (appendTransactionPageInternal transactionId page log)
  | .flushThrough position => leaves (flushThrough position log)
  | .armFault fault => log.armFault fault

theorem after_effect (accepted : log.format.supportsPages = true →
      PageLayout.forConst width = .ok layout) (operation : LogOperation) :
    OperationEffect layout log (log.offered operation) (log.after operation) := by
  cases operation with
  | allocateTransactionEpochFrame => exact allocateTransactionEpochFrame_effect log
  | appendCommit transactionId => exact appendCommit_effect log transactionId
  | appendPage page => exact appendPageGroup_effect log page none nofun accepted
  | appendTransactionPage transactionId page =>
      exact appendTransactionPageInternal_effect log transactionId page accepted
  | flushThrough position => exact flushThrough_effect log position
  | armFault fault =>
      rw [after, armFault]
      split
      · exact .unchanged
      · exact .kept _

end Calls

end Ntsql.Storage.FileCommitLog
