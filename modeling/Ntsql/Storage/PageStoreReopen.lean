import Ntsql.Foundation.Execution
import Ntsql.Storage.PageStoreWrite

/-! # Reopening a page store

Whatever a run of snapshot writes left in the file, and wherever the file is
cut, opening it finds the snapshots that are wholly there. -/

namespace Ntsql.Storage

open Bytes FrameLog

variable {width : Nat}

/-! ## Headers -/

/-- The header of a new page store. Only a database file carries an identity. -/
def pageStoreHeader (layout : PageLayout) (persistentId : PersistentLogId) :
    Option DatabaseFileHeaderIdentity → List UInt8
  | none => (buildPageStoreHeader persistentId layout.width).toList
  | some identity => (buildPageStoreHeaderV2 persistentId layout.width identity).toList

def pageStoreFormatOf : Option DatabaseFileHeaderIdentity → PageStoreFormat
  | none => .v1
  | some _ => .v2

section Fields

variable (persistentId : PersistentLogId) (identity : DatabaseFileHeaderIdentity)
  {layout : PageLayout}

attribute [local simp] buildPageStoreHeader buildPageStoreHeaderV2 readU16 readU32
  readU64 readU128
  writeU16 writeU32 writeU64 writeU128 slice_copyFromSlice_of_disjoint
    uintOf_bigEndian slice_zero

theorem parsePageStoreHeader_build (positive : layout.width ≠ 0) :
    parsePageStoreHeader (buildPageStoreHeader persistentId layout.width) layout =
      .ok persistentId := by
  have start : parseHeaderStart PAGE_STORE_HEADER_MAGIC PAGE_STORE_FORMAT_VERSION 64
      (buildPageStoreHeader persistentId layout.width) = .ok persistentId :=
    parseHeaderStart_ok (by simp) (by simp) (by simp; rfl) (by simp; rfl) (by simp)
  have pageWidth :
      checkPageWidth (buildPageStoreHeader persistentId layout.width) layout = .ok () :=
    checkPageWidth_ok positive (by simp)
  have reserved :
      checkReserved (buildPageStoreHeader persistentId layout.width) 40 56 = .ok () :=
    checkReserved_ok (by simp)
  have checksum :
      checkHeaderChecksum (buildPageStoreHeader persistentId layout.width) 56 =
      .ok () :=
    checkHeaderChecksum_ok (by simp)
  rw [parsePageStoreHeader, start, Except.ok_bind, pageWidth, Except.ok_bind, reserved,
    Except.ok_bind, checksum, Except.ok_bind]
  rfl

theorem parsePageStoreHeaderV2_build (positive : layout.width ≠ 0) :
    parsePageStoreHeaderV2 (buildPageStoreHeaderV2 persistentId layout.width identity)
      layout = .ok (persistentId, identity) := by
  have start : parseHeaderStart PAGE_STORE_HEADER_MAGIC PAGE_STORE_FORMAT_VERSION_V2 128
      (buildPageStoreHeaderV2 persistentId layout.width identity) = .ok persistentId :=
    parseHeaderStart_ok (by simp) (by simp) (by simp; rfl) (by simp; rfl) (by simp)
  have pageWidth :
      checkPageWidth (buildPageStoreHeaderV2 persistentId layout.width identity)
      layout = .ok () :=
    checkPageWidth_ok positive (by simp)
  have reserved :
      checkReserved (buildPageStoreHeaderV2 persistentId layout.width identity) 40 64 =
      .ok () :=
    checkReserved_ok (by simp)
  have child :
      parseChildIdentity (buildPageStoreHeaderV2 persistentId layout.width identity) 64 =
      .ok identity :=
    parseChildIdentity_ok (by simp)
  have tail :
      checkReserved (buildPageStoreHeaderV2 persistentId layout.width identity) 112 120 =
      .ok () :=
    checkReserved_ok (by simp)
  have checksum :
      checkHeaderChecksum (buildPageStoreHeaderV2 persistentId layout.width identity)
      120 = .ok () :=
    checkHeaderChecksum_ok (by simp)
  rw [parsePageStoreHeaderV2, start, Except.ok_bind, pageWidth, Except.ok_bind, reserved,
    Except.ok_bind, child, Except.ok_bind, tail, Except.ok_bind, checksum, Except.ok_bind]
  rfl

theorem buildPageStoreHeader_version (pageWidth : U64) :
    (buildPageStoreHeader persistentId pageWidth).readU16 8 =
      PAGE_STORE_FORMAT_VERSION := by
  simp

theorem buildPageStoreHeaderV2_version (pageWidth : U64) :
    (buildPageStoreHeaderV2 persistentId pageWidth identity).readU16 8 =
      PAGE_STORE_FORMAT_VERSION_V2 := by
  simp

end Fields

theorem inspectHeader_pageStoreHeader (layout : PageLayout) (positive : layout.width ≠ 0)
    (persistentId : PersistentLogId) (identity : Option DatabaseFileHeaderIdentity)
    (region : List UInt8) :
    FilePageStore.inspectHeader layout
      (pageStoreHeader layout persistentId identity ++ region) =
      .ok (pageStoreFormatOf identity, persistentId, identity,
        (pageStoreHeader layout persistentId identity).length) := by
  cases identity with
  | none =>
      have version : (buildPageStoreHeader persistentId layout.width).readU16 8 ≠
          PAGE_STORE_FORMAT_VERSION_V2 := by
        rw [buildPageStoreHeader_version]
        decide
      have long : ¬(pageStoreHeader layout persistentId none ++ region).length < 64 := by
        simp [pageStoreHeader]
      simp only [FilePageStore.inspectHeader, rejectIf, long, if_false, Except.ok_bind]
      rw [pageStoreHeader, ofList_append, if_neg version,
        parsePageStoreHeader_build _ positive]
      simp [Except.mapError, pageStoreFormatOf]
  | some identity =>
      have start :
          (ofList 64
            (pageStoreHeader layout persistentId (some identity) ++ region)).readU16 8 =
          PAGE_STORE_FORMAT_VERSION_V2 := by
        rw [← buildPageStoreHeaderV2_version persistentId identity layout.width, readU16,
          readU16, pageStoreHeader, slice_ofList_append _ _ (by decide) (by decide)]
      have long :
          ¬(pageStoreHeader layout persistentId (some identity) ++ region).length <
            128 := by
        simp [pageStoreHeader]
      have longer :
          ¬(pageStoreHeader layout persistentId (some identity) ++ region).length <
            64 := by
        omega
      simp only [FilePageStore.inspectHeader, rejectIf, long, longer, if_false,
        Except.ok_bind, start, if_true]
      rw [pageStoreHeader, ofList_append, parsePageStoreHeaderV2_build _ _ positive]
      simp [Except.mapError, pageStoreFormatOf]

/-! ## The latest snapshots -/

def latestPages (snapshots : List (FileStoredPage width)) : List (FileStoredPage width) :=
  snapshots.foldl putPage []

def nextSequenceAfter (snapshots : List (FileStoredPage width)) : Option U64 :=
  match snapshots.getLast? with
  | some last => checkedSucc last.storeSequence
  | none => some 1

theorem putPage_cons (page stored : FileStoredPage width)
    (pages : List (FileStoredPage width)) :
    putPage (page :: pages) stored =
      if page.pageNumber = stored.pageNumber then stored :: pages
      else page :: putPage pages stored := by
  by_cases same : page.pageNumber = stored.pageNumber
  · simp [putPage, List.findIdx?_cons, same]
  · simp only [putPage, List.findIdx?_cons, same, decide_false, Bool.false_eq_true,
      if_false]
    cases List.findIdx? (fun page => decide (page.pageNumber = stored.pageNumber))
      pages <;> simp

theorem putPage_find? (pages : List (FileStoredPage width))
    (stored : FileStoredPage width) (number : PageNumber) :
    (putPage pages stored).find? (fun page => page.pageNumber = number) =
      if stored.pageNumber = number then some stored
      else pages.find? (fun page => page.pageNumber = number) := by
  induction pages with
  | nil =>
      by_cases here : stored.pageNumber = number <;> simp [putPage, here]
  | cons page pages induction =>
      rw [putPage_cons]
      by_cases same : page.pageNumber = stored.pageNumber
      · by_cases here : stored.pageNumber = number
        · simp [same, here]
        · simp [same, here]
      · rw [if_neg same]
        by_cases there : page.pageNumber = number
        · have elsewhere : stored.pageNumber ≠ number :=
            fun here => same (there.trans here.symm)
          simp [there, elsewhere]
        · simp [there, induction]

theorem latestPages_find? (snapshots : List (FileStoredPage width))
    (number : PageNumber) :
    (latestPages snapshots).find? (fun page => page.pageNumber = number) =
      snapshots.reverse.find? (fun page => page.pageNumber = number) := by
  induction snapshots using List.reverseRecOn with
  | nil => rfl
  | append_singleton snapshots stored induction =>
      rw [latestPages, List.foldl_append, List.foldl_cons, List.foldl_nil, putPage_find?,
        List.reverse_append, List.reverse_singleton, List.singleton_append,
        List.find?_cons]
      by_cases here : stored.pageNumber = number
      · simp [here]
      · simp only [here, if_false, decide_false]
        exact induction

theorem foldl_afterSnapshot (snapshots : List (FileStoredPage width))
    (layout : PageLayout) (lineage : LogLineage) :
    (snapshots.foldl PageStoreOpenState.afterSnapshot (.new layout lineage)).layout =
      layout ∧
      (snapshots.foldl PageStoreOpenState.afterSnapshot (.new layout lineage)).lineage =
        lineage ∧
      (snapshots.foldl PageStoreOpenState.afterSnapshot (.new layout lineage)).pages =
        latestPages snapshots ∧
      (snapshots.foldl PageStoreOpenState.afterSnapshot
        (.new layout lineage)).nextSequence = nextSequenceAfter snapshots := by
  induction snapshots using List.reverseRecOn with
  | nil => exact ⟨rfl, rfl, rfl, rfl⟩
  | append_singleton snapshots stored induction =>
      rcases induction with ⟨layout_eq, lineage_eq, pages_eq, _⟩
      simp only [List.foldl_append, List.foldl_cons, List.foldl_nil, latestPages]
      refine ⟨layout_eq, lineage_eq, ?_, ?_⟩
      · rw [PageStoreOpenState.afterSnapshot, pages_eq, latestPages]
      · simp [PageStoreOpenState.afterSnapshot, nextSequenceAfter]

theorem nextSequenceAfter_ne_zero (snapshots : List (FileStoredPage width)) :
    nextSequenceAfter snapshots ≠ some 0 := by
  unfold nextSequenceAfter
  split
  · intro zero
    have advanced := checkedSucc_eq_some.mp zero
    simp at advanced
  · decide

/-! ## Runs -/

namespace FilePageStore

open Operation

def armFault (store : FilePageStore width) (fault : PageStoreFaultPoint) :
    FilePageStore width :=
  match store.armedFault with
  | some _ => store
  | none => { store with armedFault := some fault }

def after (store : FilePageStore width) : PageStoreOperation width → FilePageStore width
  | .writePage page permit => leaves (writePage page permit store)
  | .compareAndReplace candidate permit =>
      leaves (compareAndReplace candidate permit store)
  | .compareAndReplaceReplayPage candidate permit =>
      leaves (compareAndReplaceReplayPage candidate permit store)
  | .armFault fault => store.armFault fault

theorem after_effect (store : FilePageStore width)
    (operation : PageStoreOperation width) :
    OperationEffect store (store.offered operation) (store.after operation) := by
  cases operation with
  | writePage page permit => exact writePage_effect store page permit
  | compareAndReplace candidate permit =>
      exact compareAndReplace_effect store candidate permit
  | compareAndReplaceReplayPage candidate permit =>
      exact compareAndReplaceReplayPage_effect store candidate permit
  | armFault fault =>
      rw [after, armFault]
      split
      · exact .unchanged
      · exact .faultArmed _

/-- The snapshot an operation began to put on file. -/
def begun (store : FilePageStore width) (operation : PageStoreOperation width) :
    Option (FileStoredPage width) :=
  if (store.after operation).writer.bytes = store.writer.bytes then none
  else store.offered operation

end FilePageStore

section Runs

variable {layout : PageLayout} (accepted : PageLayout.forConst width = .ok layout)
  (persistentId : PersistentLogId) (identity : Option DatabaseFileHeaderIdentity)

def storeFormat : Format 56 (PageStoreOpenState width) (FileStoredPage width)
    (List (FileStoredPage width) × Option U64) PageStoreFormatError :=
  pageStoreFormat layout (PageLayout.fits_of_forConst accepted)

/-- The snapshots a store has begun to write. All are on file unless the writer
failed on the last one, and a healthy writer holds the latest of each page. -/
structure Wrote (store : FilePageStore width)
    (snapshots : List (FileStoredPage width)) : Prop where
  format_eq : store.format = pageStoreFormatOf identity
  lineage_eq : store.lineage = .persistent persistentId
  persistentId_eq : store.persistentId = persistentId
  identity_eq : store.databaseFileIdentity = identity
  readable : (storeFormat accepted).Readable
    (PageStoreOpenState.new layout (.persistent persistentId)) snapshots
  region : ∃ region, region <+: (storeFormat accepted).write snapshots ∧
    store.writer.bytes = pageStoreHeader layout persistentId identity ++ region
  healthy : store.writer.poisoned = false →
    store.writer.bytes = pageStoreHeader layout persistentId identity ++
        (storeFormat accepted).write snapshots ∧
      store.pages = latestPages snapshots ∧
        store.nextSequence = nextSequenceAfter snapshots

variable {accepted persistentId identity} {store : FilePageStore width}
  {snapshots : List (FileStoredPage width)}

theorem Wrote.admits (wrote : Wrote accepted persistentId identity store snapshots)
    (healthy : store.writer.poisoned = false) {stored : FileStoredPage width}
    (own : stored.requiredPosition.lineage = store.lineage)
    (positioned : stored.requiredPosition.get ≠ 0)
    (next : store.nextSequence = some stored.storeSequence) :
    (storeFormat accepted).Readable
      (PageStoreOpenState.new layout (.persistent persistentId))
      (snapshots ++ [stored]) := by
  rcases foldl_afterSnapshot snapshots layout (.persistent persistentId) with
    ⟨layout_eq, lineage_eq, _, sequence_eq⟩
  have sequence : nextSequenceAfter snapshots = some stored.storeSequence :=
    (wrote.healthy healthy).2.2.symm.trans next
  refine (Format.readable_append _).mpr ⟨wrote.readable, ?_, trivial⟩
  exact {
    layout_eq
    lineage_eq := own.trans (wrote.lineage_eq.trans lineage_eq.symm)
    positioned
    sequence_eq := sequence_eq.trans sequence
    sequence_ne_zero := by
      intro zero
      rw [zero] at sequence
      exact nextSequenceAfter_ne_zero snapshots sequence }

theorem write_snapshot (snapshots : List (FileStoredPage width))
    (stored : FileStoredPage width) :
    (storeFormat accepted).write (snapshots ++ [stored]) =
      (storeFormat accepted).write snapshots ++ encode (groupFrames layout stored) := by
  rw [Format.write_append]
  simp [Format.write, storeFormat, pageStoreFormat]

theorem Wrote.after (wrote : Wrote accepted persistentId identity store snapshots)
    (operation : FilePageStore.PageStoreOperation width) :
    Wrote accepted persistentId identity (store.after operation)
      (snapshots ++ (store.begun operation).toList) := by
  have effect := store.after_effect operation
  rw [FilePageStore.begun]
  generalize store.after operation = final at effect ⊢
  cases effect with
  | unchanged => simpa using wrote
  | faultArmed armedFault =>
      rw [if_pos rfl, Option.toList_none, List.append_nil]
      exact { wrote with }
  | wrote other stored final isOffer sameWidth own positioned next effect =>
      have same : other = layout := Except.ok.inj (sameWidth.symm.trans accepted)
      rw [same] at effect
      rw [isOffer]
      cases effect with
      | refused armedFault =>
          rw [if_pos rfl, Option.toList_none, List.append_nil]
          exact { wrote with }
      | torn written script armedFault isHealthy failing =>
          rcases wrote.healthy isHealthy with ⟨bytes_eq, _⟩
          by_cases nothing : store.writer.bytes ++
              (encode (groupFrames layout stored)).take written = store.writer.bytes
          · rw [if_pos nothing, Option.toList_none, List.append_nil]
            exact { wrote with
              region := ⟨(storeFormat accepted).write snapshots, List.prefix_rfl,
                nothing.trans bytes_eq⟩
              healthy := nofun }
          · rw [if_neg nothing, Option.toList_some]
            refine { wrote with
              readable := wrote.admits isHealthy own positioned next
              region := ⟨(storeFormat accepted).write snapshots ++
                (encode (groupFrames layout stored)).take written, ?_, ?_⟩
              healthy := nofun }
            · rw [write_snapshot]
              exact (List.prefix_append_right_inj _).mpr (List.take_prefix _ _)
            · simp only [bytes_eq, List.append_assoc]
      | stored script armedFault isHealthy reliable =>
          rcases wrote.healthy isHealthy with ⟨bytes_eq, pages_eq, sequence_eq⟩
          have appended : store.writer.bytes ++ encode (groupFrames layout stored) ≠
              store.writer.bytes := by
            intro same
            have nothing : (encode (groupFrames layout stored)).length = 0 := by
              simpa using congrArg List.length same
            simp [groupFrames_eq] at nothing
          have bytes : store.writer.bytes ++ encode (groupFrames layout stored) =
              pageStoreHeader layout persistentId identity ++
                (storeFormat accepted).write (snapshots ++ [stored]) := by
            rw [bytes_eq, write_snapshot, List.append_assoc]
          rw [if_neg appended, Option.toList_some]
          refine { wrote with
            readable := wrote.admits isHealthy own positioned next
            region :=
              ⟨(storeFormat accepted).write (snapshots ++ [stored]),
                List.prefix_rfl, bytes⟩
            healthy := fun _ => ⟨bytes, ?_, ?_⟩ }
          · simp [latestPages, pages_eq]
          · simp [nextSequenceAfter]

theorem steady_effect {final : FilePageStore width}
    {offer : Option (FileStoredPage width)}
    (effect : FilePageStore.OperationEffect store offer final)
    (steady : store.writer.Reliable ∧ store.writer.poisoned = false) :
    final.writer.Reliable ∧ final.writer.poisoned = false := by
  cases effect with
  | unchanged => exact steady
  | faultArmed armedFault => exact steady
  | wrote other stored final isOffer sameWidth own positioned next effect =>
      cases effect with
      | refused armedFault => exact steady
      | torn written script armedFault isHealthy failing => exact absurd steady.1 failing
      | stored script armedFault isHealthy reliable => exact ⟨reliable steady.1, rfl⟩

/-- An open store that holds the latest of some snapshots. -/
def storeOf (persistentId : PersistentLogId)
    (identity : Option DatabaseFileHeaderIdentity) (bytes : List UInt8)
    (snapshots : List (FileStoredPage width)) (script : List IoResult) :
    FilePageStore width where
  writer := { bytes, script, poisoned := false }
  format := pageStoreFormatOf identity
  lineage := .persistent persistentId
  persistentId
  databaseFileIdentity := identity
  pages := latestPages snapshots
  nextSequence := nextSequenceAfter snapshots
  armedFault := none

variable (identity)

/-- Opening a file that starts with the header and some first part of what was
written finds the snapshots that are wholly there. -/
theorem inspect_region (readable : (storeFormat accepted).Readable
      (PageStoreOpenState.new layout (.persistent persistentId)) snapshots)
        {region : List UInt8}
    (written : region <+: (storeFormat accepted).write snapshots)
    (script : List IoResult) :
    FilePageStore.inspect width (pageStoreHeader layout persistentId identity ++ region)
      script = .ok {
        store :=
          storeOf persistentId identity
            (pageStoreHeader layout persistentId identity ++ region)
          ((storeFormat accepted).wholeWithin snapshots region.length) script
        repairedLen :=
          if region.length =
            (storeFormat accepted).sizes
              ((storeFormat accepted).wholeWithin snapshots region.length)
          then none
          else some ((pageStoreHeader layout persistentId identity).length +
            (storeFormat accepted).sizes
              ((storeFormat accepted).wholeWithin snapshots region.length)) } := by
  have positive := (PageLayout.fits_of_forConst accepted).width_ne_zero
  have within : region.length ≤ (storeFormat accepted).sizes snapshots := by
    rw [← Format.length_write]
    exact written.length_le
  rcases (storeFormat accepted).scan_cut (by decide)
    (pageStoreHeader layout persistentId identity).length rfl readable within with
    ⟨final, scanned, viewed, repaired⟩
  have scanned : scan PageStoreOpenState.readFrame
      (pageStoreHeader layout persistentId identity).length
      ((snapshots.flatMap (storeFormat accepted).frames).take (region.length / 56))
      (.new layout (.persistent persistentId)) = .ok final := scanned
  have repaired : repairedLength 56 final.pendingGroupHeaderOffset _ _ = _ := repaired
  rcases foldl_afterSnapshot ((storeFormat accepted).wholeWithin snapshots region.length)
    layout (.persistent persistentId) with ⟨_, _, pages_eq, sequence_eq⟩
  have pages := (congrArg Prod.fst viewed).trans pages_eq
  have sequence := (congrArg Prod.snd viewed).trans sequence_eq
  have pages : final.pages = _ := pages
  have sequence : final.nextSequence = _ := sequence
  have frames := (storeFormat accepted).readFrames_region written
  have length : (pageStoreHeader layout persistentId identity ++ region).length -
      (pageStoreHeader layout persistentId identity).length = region.length := by
    simp
  simp only [FilePageStore.inspect, accepted, Except.mapError, Except.ok_bind,
    inspectHeader_pageStoreHeader layout positive persistentId identity region, length,
    List.drop_left, frames, scanned, pages, sequence, repaired]
  rfl

theorem inspect_whole (readable : (storeFormat accepted).Readable
      (PageStoreOpenState.new layout (.persistent persistentId)) snapshots)
        (script : List IoResult) :
    FilePageStore.inspect width
        (pageStoreHeader layout persistentId identity ++
          (storeFormat accepted).write snapshots) script =
      .ok {
        store := storeOf persistentId identity
          (pageStoreHeader layout persistentId identity ++
            (storeFormat accepted).write snapshots) snapshots script
        repairedLen := none } := by
  rw [inspect_region identity readable List.prefix_rfl script, Format.length_write,
    Format.wholeWithin_all _ _ le_rfl, if_pos rfl]

/-- A torn tail is cut off, and what is left opens without another repair. -/
theorem opens_region (readable : (storeFormat accepted).Readable
      (PageStoreOpenState.new layout (.persistent persistentId)) snapshots)
        {region : List UInt8}
    (written : region <+: (storeFormat accepted).write snapshots)
    (script : List IoResult) :
    let header := pageStoreHeader layout persistentId identity
    let whole := (storeFormat accepted).wholeWithin snapshots region.length
    let kept := header ++ (storeFormat accepted).write whole
    ∃ opened, FilePageStore.inspect width (header ++ region) script = .ok opened ∧
      opened.repairedLen =
        (if header.length + region.length = kept.length then none else some kept.length) ∧
      opened.finish = storeOf persistentId identity kept whole script ∧
      FilePageStore.inspect width opened.finish.writer.bytes script =
        .ok { store := opened.finish, repairedLen := none } := by
  intro header whole kept
  have keptLength : kept.length = header.length + (storeFormat accepted).sizes whole := by
    rw [List.length_append, Format.length_write]
  have truncated : region.take ((storeFormat accepted).sizes whole) =
      (storeFormat accepted).write whole :=
    (storeFormat accepted).take_wholeWithin written
  have opens := inspect_region identity readable written script
  rw [opens]
  have finished : FilePageStore.LockedFilePageStoreOpen.finish {
      store := storeOf persistentId identity (header ++ region) whole script
      repairedLen :=
        if region.length = (storeFormat accepted).sizes whole then none
        else some (header.length + (storeFormat accepted).sizes whole) } =
      storeOf persistentId identity kept whole script := by
    rw [FilePageStore.LockedFilePageStoreOpen.finish]
    by_cases complete : region.length = (storeFormat accepted).sizes whole
    · rw [if_pos complete]
      rw [← complete, List.take_length] at truncated
      simp only [kept, ← truncated]
    · rw [if_neg complete]
      simp only [storeOf, kept, List.take_length_add_append, truncated]
  refine ⟨_, rfl, ?_, finished, ?_⟩
  · rw [keptLength]
    simp only [Nat.add_left_cancel_iff]
    rfl
  · exact finished ▸ inspect_whole identity
      ((storeFormat accepted).readable_wholeWithin readable region.length) script

end Runs

/-! ## Reopening -/

section Reopening

variable {layout : PageLayout} {accepted : PageLayout.forConst width = .ok layout}
  {persistentId : PersistentLogId} {identity : Option DatabaseFileHeaderIdentity}
  {store : FilePageStore width} {snapshots : List (FileStoredPage width)}

theorem wrote_create (script : List IoResult) :
    Wrote accepted persistentId identity
      (storeOf persistentId identity (pageStoreHeader layout persistentId identity)
        [] script) [] where
  format_eq := rfl
  lineage_eq := rfl
  persistentId_eq := rfl
  identity_eq := rfl
  readable := trivial
  region := ⟨[], List.nil_prefix, (List.append_nil _).symm⟩
  healthy _ := ⟨(List.append_nil _).symm, rfl, rfl⟩

theorem wrote_run (script : List IoResult)
    (operations : List (FilePageStore.PageStoreOperation width)) :
    let initial :=
      storeOf persistentId identity (pageStoreHeader layout persistentId identity) []
        script
    Wrote accepted persistentId identity
      (Execution.run FilePageStore.after initial operations)
      (Execution.emitted FilePageStore.after FilePageStore.begun initial operations) := by
  intro initial
  have preserved (store : FilePageStore width) (snapshots : List (FileStoredPage width))
      (operation : FilePageStore.PageStoreOperation width)
      (wrote : Wrote accepted persistentId identity store snapshots) (_ : True) :=
    wrote.after operation
  exact Execution.invariant_emitted preserved operations
    (Execution.respects_true initial operations) (wrote_create script)

theorem steady_run {initial : FilePageStore width}
    (steady : initial.writer.Reliable ∧ initial.writer.poisoned = false)
    (operations : List (FilePageStore.PageStoreOperation width)) :
    (Execution.run FilePageStore.after initial operations).writer.Reliable ∧
      (Execution.run FilePageStore.after initial operations).writer.poisoned = false := by
  have preserved (store : FilePageStore width)
      (operation : FilePageStore.PageStoreOperation width)
      (steady : store.writer.Reliable ∧ store.writer.poisoned = false) (_ : True) :=
    steady_effect (store.after_effect operation) steady
  exact Execution.invariant_run preserved operations
    (Execution.respects_true initial operations) steady

/-- A page store that opening reads back from its file, and from every first
part of it, which is then cut to the end of its last whole snapshot. -/
structure ReopensAtEveryCut (accepted : PageLayout.forConst width = .ok layout)
    (persistentId : PersistentLogId) (identity : Option DatabaseFileHeaderIdentity)
    (store : FilePageStore width) (snapshots : List (FileStoredPage width)) : Prop where
  latest : store.writer.poisoned = false → store.pages = latestPages snapshots ∧
    ∀ number, store.page number =
      snapshots.reverse.find? (fun stored => stored.pageNumber = number)
  reopens : store.writer.poisoned = false → ∀ script,
    FilePageStore.inspect width store.writer.bytes script =
      .ok {
        store := { store with
          writer := { store.writer with script }
          armedFault := none }
        repairedLen := none }
  cut : ∀ cut script, (pageStoreHeader layout persistentId identity).length ≤ cut →
    cut ≤ store.writer.bytes.length →
    let header := pageStoreHeader layout persistentId identity
    let whole := (storeFormat accepted).wholeWithin snapshots (cut - header.length)
    let kept := header ++ (storeFormat accepted).write whole
    ∃ opened, FilePageStore.inspect width (store.writer.bytes.take cut) script =
      .ok opened ∧
      opened.repairedLen = (if cut = kept.length then none else some kept.length) ∧
      opened.finish = storeOf persistentId identity kept whole script ∧
      (∀ number, opened.finish.page number =
        whole.reverse.find? (fun stored => stored.pageNumber = number)) ∧
      FilePageStore.inspect width opened.finish.writer.bytes script =
        .ok { store := opened.finish, repairedLen := none }

theorem Wrote.reopens (wrote : Wrote accepted persistentId identity store snapshots) :
    ReopensAtEveryCut accepted persistentId identity store snapshots where
  latest healthy := by
    rcases wrote.healthy healthy with ⟨_, pages_eq, _⟩
    refine ⟨pages_eq, fun number => ?_⟩
    rw [FilePageStore.page, pages_eq, latestPages_find?]
  reopens healthy script := by
    rcases wrote.healthy healthy with ⟨bytes_eq, pages_eq, sequence_eq⟩
    rw [bytes_eq, inspect_whole identity wrote.readable]
    simp only [storeOf, bytes_eq, pages_eq, sequence_eq, wrote.format_eq,
      wrote.lineage_eq, wrote.persistentId_eq, wrote.identity_eq, healthy]
  cut cut script afterHeader within := by
    intro header whole kept
    rcases wrote.region with ⟨region, written, bytes_eq⟩
    have room : cut - header.length ≤ region.length := by
      have total : store.writer.bytes.length = header.length + region.length := by
        rw [bytes_eq, List.length_append]
      omega
    have taken :
        store.writer.bytes.take cut = header ++ region.take (cut - header.length) := by
      rw [bytes_eq, List.take_append, List.take_of_length_le afterHeader]
    have length : (region.take (cut - header.length)).length = cut - header.length := by
      rw [List.length_take, Nat.min_eq_left room]
    have cutWritten : region.take (cut - header.length) <+:
        (storeFormat accepted).write snapshots :=
      (List.take_prefix _ _).trans written
    rcases opens_region identity wrote.readable cutWritten script with
      ⟨opened, opens, repaired, finished, again⟩
    rw [length] at repaired finished
    have total : header.length + (cut - header.length) = cut :=
      Nat.add_sub_cancel' afterHeader
    refine ⟨opened, ?_, ?_, finished, fun number => ?_, again⟩
    · rw [taken, opens]
    · rw [repaired, total]
    · rw [finished]
      exact latestPages_find? whole number

end Reopening

theorem begun_of_length {store : FilePageStore width}
    {operation : FilePageStore.PageStoreOperation width}
    (grows : (store.after operation).writer.bytes.length ≠ store.writer.bytes.length) :
    store.begun operation = store.offered operation := by
  rw [FilePageStore.begun, if_neg fun same => grows (congrArg List.length same)]

end Ntsql.Storage
