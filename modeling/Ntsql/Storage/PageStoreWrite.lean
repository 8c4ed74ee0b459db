import Ntsql.Storage.PageStoreFormat

/-! # What a page-store write leaves

A snapshot write that is not refused appends the frames of one snapshot, whole
or torn by the device, and only a whole one reaches the pages held in memory. -/

namespace Ntsql.Storage.FilePageStore

open FrameLog Operation

variable {width : Nat}

/-- The store after an attempt to write `stored`. -/
inductive WriteEffect (layout : PageLayout) (store : FilePageStore width)
    (stored : FileStoredPage width) : FilePageStore width → Prop
  | refused (armedFault : Option PageStoreFaultPoint) :
      WriteEffect layout store stored { store with armedFault }
  | torn (written : Nat) (script : List IoResult)
      (armedFault : Option PageStoreFaultPoint)
      (healthy : store.writer.poisoned = false) (failing : ¬store.writer.Reliable) :
      WriteEffect layout store stored { store with
        writer := {
          bytes := store.writer.bytes ++ (encode (groupFrames layout stored)).take written
          script, poisoned := true }
        armedFault }
  | stored (script : List IoResult) (armedFault : Option PageStoreFaultPoint)
      (healthy : store.writer.poisoned = false)
      (reliable : store.writer.Reliable → script = []) :
      WriteEffect layout store stored { store with
        writer := {
          bytes := store.writer.bytes ++ encode (groupFrames layout stored)
          script, poisoned := false }
        pages := putPage store.pages stored
        nextSequence := checkedSucc stored.storeSequence
        armedFault }

/-- What is left of an armed fault once its point is reached. -/
def disarmed (store : FilePageStore width) (point : PageStoreFaultPoint) :
    Option PageStoreFaultPoint :=
  if store.armedFault = some point then none else store.armedFault

theorem consumeFault_apply (point : PageStoreFaultPoint) (store : FilePageStore width) :
    consumeFault point store =
      .ok (decide (store.armedFault = some point))
        { store with armedFault := store.disarmed point } := by
  rw [consumeFault, get_bind]
  by_cases armed : store.armedFault = some point
  · simp [armed, disarmed, modify_bind]
  · simp [armed, disarmed]

theorem writeSnapshotGroup_effect (layout : PageLayout) (store : FilePageStore width)
    (stored : FileStoredPage width) :
    WriteEffect layout store stored
      (leaves (writeSnapshotGroup layout stored (store.pageIndex stored.pageNumber)
        stored.storeSequence store)) := by
  simp only [writeSnapshotGroup, bind_apply, get_apply, check_apply, branch_apply,
    consumeFault_apply, throw_apply, modify_apply, request]
  cases poisoned : store.writer.poisoned with
  | true => exact .refused store.armedFault
  | false =>
      by_cases before : store.armedFault = some .beforeWrite
      · simp only [rejectIf, before, decide_true, if_true, Bool.false_eq_true, if_false]
        exact .refused _
      · simp only [rejectIf, before, decide_false, Bool.false_eq_true, if_false]
        rcases AppendFile.writeFrames_cases
            (snapshotFrames layout stored stored.storeSequence) store.writer with
          ⟨script, wrote, reliable⟩ | ⟨stage, written, script, failed, failing⟩
        · rw [wrote]
          rcases AppendFile.syncAll_cases PageStoreIoStage.syncPageGroup true {
              store.writer with
              bytes := store.writer.bytes ++
                encode ((snapshotFrames layout stored stored.storeSequence).map Prod.snd)
              script } with
            ⟨later, synced, stillReliable⟩ | ⟨later, unsynced, failing⟩
          · have settled : store.writer.Reliable → later = [] :=
              fun isReliable => stillReliable (reliable isReliable)
            simp only [synced]
            rw [poisoned]
            split
            · exact .stored later _ poisoned settled
            · exact .stored later _ poisoned settled
          · have torn : store.writer.bytes ++ encode (groupFrames layout stored) =
                store.writer.bytes ++ (encode (groupFrames layout stored)).take
                  (encode (groupFrames layout stored)).length := by
              rw [List.take_length]
            have unreliable : ¬store.writer.Reliable :=
              fun isReliable => failing (reliable isReliable)
            simp only [unsynced, Bool.or_true]
            change WriteEffect layout store stored { store with
              writer := {
                bytes := store.writer.bytes ++ encode (groupFrames layout stored)
                script := later, poisoned := true }
              armedFault := store.disarmed .beforeWrite }
            rw [torn]
            exact .torn _ later _ poisoned unreliable
        · rw [failed]
          exact .torn written script _ poisoned failing

inductive PageStoreOperation (width : Nat) where
  | writePage (page : DirtyPage width) (permit : PageWritePermit)
  | compareAndReplace (candidate : PageRecoveryCandidate width)
      (permit : PageRecoveryWritePermit)
  | compareAndReplaceReplayPage (candidate : PageRecoveryCandidate width)
      (permit : PageRecoveryWritePermit)
  | armFault (fault : PageStoreFaultPoint)

def pageSnapshot (page : DirtyPage width) (sequence : U64) : FileStoredPage width where
  pageNumber := page.address.number
  pageVersion := page.version
  bytes := page.image
  requiredPosition := page.requiredPosition
  storeSequence := sequence

def candidateSnapshot (candidate : PageRecoveryCandidate width) (sequence : U64) :
    FileStoredPage width where
  pageNumber := candidate.pageNumber
  pageVersion := candidate.pageVersion
  bytes := candidate.bytes
  requiredPosition := candidate.pagePosition
  storeSequence := sequence

def offered (store : FilePageStore width) :
    PageStoreOperation width → Option (FileStoredPage width)
  | .writePage page _ => store.nextSequence.map (pageSnapshot page)
  | .compareAndReplace candidate _ => store.nextSequence.map (candidateSnapshot candidate)
  | .compareAndReplaceReplayPage candidate _ =>
      store.nextSequence.map (candidateSnapshot candidate)
  | .armFault _ => none

/-- The store after an operation: untouched but for a fault, or after an attempt
to write the offered snapshot, which takes the next sequence number. -/
inductive OperationEffect (store : FilePageStore width)
    (offer : Option (FileStoredPage width)) :
    FilePageStore width → Prop
  | unchanged : OperationEffect store offer store
  | faultArmed (armedFault : Option PageStoreFaultPoint) :
      OperationEffect store offer { store with armedFault }
  | wrote (layout : PageLayout) (stored : FileStoredPage width)
      (final : FilePageStore width) (isOffer : offer = some stored)
      (accepted : PageLayout.forConst width = .ok layout)
      (own : stored.requiredPosition.lineage = store.lineage)
      (positioned : stored.requiredPosition.get ≠ 0)
      (next : store.nextSequence = some stored.storeSequence)
      (effect : WriteEffect layout store stored final) : OperationEffect store offer final

theorem writePage_effect (store : FilePageStore width) (page : DirtyPage width)
    (permit : PageWritePermit) :
    OperationEffect store (store.offered (.writePage page permit))
      (leaves (writePage page permit store)) := by
  rw [writePage, get_bind]
  refine leaves_check_bind .unchanged fun _ _ => ?_
  refine leaves_check_bind .unchanged fun layout accepted => ?_
  refine leaves_check_bind .unchanged fun _ ownPage => ?_
  refine leaves_check_bind .unchanged fun _ _ => ?_
  refine leaves_check_bind .unchanged fun _ _ => ?_
  refine leaves_check_bind .unchanged fun _ positioned => ?_
  refine leaves_check_bind .unchanged fun sequence next => ?_
  simp only [Except.mapError_ok_iff, rejectIf_ok_iff, okOr_ok_iff, ne_eq, not_not]
    at accepted ownPage positioned next
  exact .wrote layout (pageSnapshot page sequence) _
    (by rw [offered, next, Option.map_some])
    accepted (page.sameLineage.symm.trans ownPage.symm) positioned next
    (writeSnapshotGroup_effect layout store (pageSnapshot page sequence))

theorem leaves_reportToRecovery (action : Write width Unit)
    (store : FilePageStore width) :
    leaves (reportToRecovery action store) = leaves (action store) := by
  rw [reportToRecovery]
  cases action store <;> rfl

theorem compareAndReplaceReplayPage_effect (store : FilePageStore width)
    (candidate : PageRecoveryCandidate width) (permit : PageRecoveryWritePermit) :
    OperationEffect store (store.offered (.compareAndReplaceReplayPage candidate permit))
      (leaves (compareAndReplaceReplayPage candidate permit store)) := by
  rw [compareAndReplaceReplayPage, get_bind]
  refine leaves_check_bind .unchanged fun _ own => ?_
  refine leaves_check_bind .unchanged fun _ _ => ?_
  refine leaves_check_bind .unchanged fun _ _ => ?_
  refine leaves_check_bind .unchanged fun _ _ => ?_
  refine leaves_check_bind .unchanged fun _ _ => ?_
  refine leaves_check_bind .unchanged fun _ _ => ?_
  refine leaves_check_bind .unchanged fun _ _ => ?_
  refine leaves_check_bind .unchanged fun layout accepted => ?_
  refine leaves_check_bind .unchanged fun sequence next => ?_
  simp only [Except.mapError_ok_iff, rejectIf_ok_iff, okOr_ok_iff, ne_eq, not_not]
    at own accepted next
  rw [leaves_reportToRecovery]
  exact .wrote layout (candidateSnapshot candidate sequence) _
    (by rw [offered, next, Option.map_some]) accepted own.symm candidate.positioned next
    (writeSnapshotGroup_effect layout store (candidateSnapshot candidate sequence))

theorem compareAndReplace_effect (store : FilePageStore width)
    (candidate : PageRecoveryCandidate width) (permit : PageRecoveryWritePermit) :
    OperationEffect store (store.offered (.compareAndReplace candidate permit))
      (leaves (compareAndReplace candidate permit store)) := by
  rw [compareAndReplace, get_bind]
  refine leaves_check_bind .unchanged fun _ _ => ?_
  exact compareAndReplaceReplayPage_effect store candidate permit

end Ntsql.Storage.FilePageStore
