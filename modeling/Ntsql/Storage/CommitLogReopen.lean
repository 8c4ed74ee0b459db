import Ntsql.Foundation.Execution
import Ntsql.Storage.CommitLogState
import Ntsql.Storage.CommitLogWrite
import Ntsql.Storage.LogHeaderRoundTrip

/-! # Reopening a commit log

Whatever a run of calls left in the file, and wherever the file is cut, opening
it finds the groups that are wholly there. A reclaimed file is refused unless
they reach what its header remembers. -/

namespace Ntsql.Storage

open Bytes FrameLog

variable {width : Nat}

/-! ## Headers -/

inductive LogFileHeader where
  | unreclaimed (format : LogFormat)
      (known : formatOfHeaderVersion format.version = some format)
      (persistentId : PersistentLogId)
  | database (persistentId : PersistentLogId) (identity : DatabaseFileHeaderIdentity)
  | reclaimed (metadata : V4HeaderMetadata) (valid : metadata.Valid)
  | reclaimedDatabase (metadata : V4HeaderMetadata) (valid : metadata.Valid)
      (identity : DatabaseFileHeaderIdentity)

namespace LogFileHeader

def bytes (layout : PageLayout) : LogFileHeader → List UInt8
  | .unreclaimed format _ persistentId =>
      (buildHeader format persistentId layout.width).toList
  | .database persistentId identity =>
      (buildHeaderV5Initial persistentId layout.width identity).toList
  | .reclaimed metadata _ => (buildHeaderV4 metadata layout.width).toList
  | .reclaimedDatabase metadata _ identity =>
      (buildHeaderV5Reclaimed metadata layout.width identity).toList

def opened : LogFileHeader → OpenedHeader
  | .unreclaimed format _ persistentId => .unreclaimed format persistentId
  | .database persistentId identity => {
      format := .v5
      persistentId
      generation := 0
      reclaimedRetainedFirst := none
      reclaimedLogicalHighWater := none
      allocatedEpochHighWater := none
      selectedCheckpointAnchor := none
      databaseFileIdentity := some identity
      headerLength := 192 }
  | .reclaimed metadata _ => .ofV4 metadata
  | .reclaimedDatabase metadata _ identity =>
      { OpenedHeader.ofV4 metadata with
        format := .v5
        databaseFileIdentity := some identity
        headerLength := 192 }

variable (layout : PageLayout) (header : LogFileHeader)

theorem length_bytes : (header.bytes layout).length = header.opened.headerLength := by
  cases header <;> simp [bytes, opened, OpenedHeader.unreclaimed, OpenedHeader.ofV4]

variable {layout}

theorem readU16_ofList {length : Nat} (header : Bytes length) (long : 64 ≤ length)
    (region : List UInt8) :
    (ofList 64 (header.toList ++ region)).readU16 8 = header.readU16 8 := by
  rw [readU16, readU16, slice_ofList_append _ _ (by decide) long]

theorem inspectHeader_unreclaimed {format : LogFormat}
    (known : formatOfHeaderVersion format.version = some format)
    (positive : format.supportsPages = true → layout.width ≠ 0)
    (persistentId : PersistentLogId) (region : List UInt8) :
    FileCommitLog.inspectHeader (.forFormat layout format)
        ((buildHeader format persistentId layout.width).toList ++ region) =
      .ok (.unreclaimed format persistentId) := by
  have parsed : parseHeader (buildHeader format persistentId layout.width)
      (.forFormat layout format) = .ok persistentId :=
    parseHeader_buildHeader known (fun supports => ⟨positive supports, rfl⟩) persistentId
  have long :
      ¬((buildHeader format persistentId layout.width).toList ++ region).length < 64 := by
    simp
  have notV5 : format.version ≠ FORMAT_VERSION_V5 := by
    intro same
    rw [same] at known
    cases format <;> cases known
  have notV4 : format.version ≠ FORMAT_VERSION_V4 := by
    intro same
    rw [same] at known
    cases format <;> cases known
  simp only [FileCommitLog.inspectHeader, rejectIf, long, if_false, Except.ok_bind,
    ofList_append, buildHeader_version, notV5, notV4, parsed, known, Except.mapError,
    okOr]
  rfl

theorem inspectHeader_v4 {metadata : V4HeaderMetadata} (valid : metadata.Valid)
    (positive : layout.width ≠ 0) (region : List UInt8) :
    FileCommitLog.inspectHeader (.v3OrLater layout)
        ((buildHeaderV4 metadata layout.width).toList ++ region) =
      .ok (.ofV4 metadata) := by
  have long : ¬((buildHeaderV4 metadata layout.width).toList ++ region).length < 128 :=
    by simp
  have started : ¬((buildHeaderV4 metadata layout.width).toList ++ region).length < 64 :=
    by omega
  have notV5 : FORMAT_VERSION_V4 ≠ FORMAT_VERSION_V5 := by decide
  simp only [FileCommitLog.inspectHeader, rejectIf, long, started, if_false,
    Except.ok_bind, readU16_ofList _ (by decide : 64 ≤ 128), buildHeaderV4_version, notV5,
    if_true, ofList_append, HeaderExpectation.pageLayout, okOr,
    parseHeaderV4_buildHeaderV4 valid positive]
  rfl

theorem inspectHeader_v5 {header : Bytes 192} {persistentId : PersistentLogId}
    {reclamation : Option V4HeaderMetadata} {identity : DatabaseFileHeaderIdentity}
    (carries : CarriesV5 header persistentId layout identity)
    (positive : layout.width ≠ 0) (version : header.readU16 8 = FORMAT_VERSION_V5)
    (reclaimed : parseReclamation header layout = .ok reclamation) (region : List UInt8) :
    FileCommitLog.inspectHeader (.v3OrLater layout) (header.toList ++ region) =
      .ok (.ofV5 {
        persistentId
        generation := (reclamation.map V4HeaderMetadata.generation).getD 0
        retainedFirst := reclamation.bind V4HeaderMetadata.retainedFirst
        logicalHighWater := reclamation.bind V4HeaderMetadata.logicalHighWater
        allocatedEpochHighWater :=
          reclamation.map V4HeaderMetadata.allocatedEpochHighWater
        selectedCheckpointAnchor :=
          reclamation.map V4HeaderMetadata.selectedCheckpointAnchor
        databaseFileIdentity := identity }) := by
  have long : ¬(header.toList ++ region).length < 192 := by simp
  have started : ¬(header.toList ++ region).length < 64 := by omega
  simp only [FileCommitLog.inspectHeader, rejectIf, long, started, if_false,
    Except.ok_bind, readU16_ofList _ (by decide : 64 ≤ 192), version, if_true,
    ofList_append, HeaderExpectation.pageLayout, okOr,
    parseHeaderV5_of_carries carries positive reclaimed]
  rfl

theorem inspectHeader_bytes
    (positive : header.opened.format.supportsPages = true → layout.width ≠ 0)
    (region : List UInt8) :
    FileCommitLog.inspectHeader (.forFormat layout header.opened.format)
        (header.bytes layout ++ region) =
      .ok header.opened := by
  cases header with
  | unreclaimed format known persistentId =>
      exact inspectHeader_unreclaimed known positive _ region
  | database persistentId identity =>
      exact inspectHeader_v5 (carriesV5_initial identity persistentId layout)
        (positive rfl)
        (buildHeaderV5Initial_version _ _ _) (parseReclamation_initial _ _ _) region
  | reclaimed metadata valid => exact inspectHeader_v4 valid (positive rfl) region
  | reclaimedDatabase metadata valid identity =>
      exact inspectHeader_v5 (carriesV5_reclaimed metadata identity layout) (positive rfl)
        (buildHeaderV5Reclaimed_version _ _ _) (parseReclamation_reclaimed identity valid
          (positive rfl)) region

end LogFileHeader

/-! ## The seeded scanner -/

namespace OpenedHeader

/-- The position of the first record after the header. -/
def first (header : OpenedHeader) : Nat :=
  match header.reclaimedRetainedFirst with
  | some position => position.val
  | none =>
      match header.reclaimedLogicalHighWater with
      | some position => position.val + 1
      | none => 1

/-- The durable records reach what the header remembers. -/
def ReachedBy (header : OpenedHeader) (state : OpenState width) : Prop :=
  ∀ expected ∈ header.reclaimedLogicalHighWater,
    ∃ actual ∈ state.lastDurablePosition, expected ≤ actual

theorem sound_openState {header : OpenedHeader} {format : LogFormat} {layout : PageLayout}
    (positioned : header.reclaimedRetainedFirst ≠ some 0)
    (pageLayout : Option PageLayout) :
    (header.openState pageLayout : OpenState width).Sound format layout header.first := by
  rw [openState, first]
  cases retained : header.reclaimedRetainedFirst with
  | some position =>
      have nonzero : 0 < position.val := by
        refine Nat.pos_of_ne_zero fun zero => positioned ?_
        rw [retained]
        exact congrArg some (Fin.ext zero)
      cases previous : checkedPred position with
      | none => simp [checkedPred, nonzero] at previous
      | some before =>
          have before_eq := checkedPred_eq_some.mp previous
          apply OpenState.sound_new
          · simpa [previous] using before_eq
          · simpa [previous] using (checkedSucc_eq_some.mpr before_eq).symm
          · nofun
  | none =>
      cases highWater : header.reclaimedLogicalHighWater with
      | some position =>
          apply OpenState.sound_new
          · simp
          · simp
          · simp
      | none =>
          apply OpenState.sound_new
          · rfl
          · rfl
          · nofun

/-- What is retained ends at the high water. -/
def Ordered (header : OpenedHeader) : Prop :=
  checkRetainedRange header.reclaimedRetainedFirst header.reclaimedLogicalHighWater =
    .ok ()

theorem Ordered.le {header : OpenedHeader} (ordered : header.Ordered) {position : U64}
    (retained : header.reclaimedRetainedFirst = some position) :
    ∃ highWater, header.reclaimedLogicalHighWater = some highWater ∧
      position ≤ highWater := by
  rw [Ordered, retained] at ordered
  cases highWater : header.reclaimedLogicalHighWater with
  | none =>
      rw [highWater] at ordered
      cases ordered
  | some high =>
      rw [highWater, checkRetainedRange, rejectIf_ok_iff] at ordered
      exact ⟨high, rfl, not_lt.mp ordered⟩

section Checks

variable {header : OpenedHeader} {format : LogFormat} {layout : PageLayout}
  {state : OpenState width}

theorem durable_le_completed (sound : state.Sound format layout header.first)
    {position : U64} (durable : position ∈ state.lastDurablePosition) :
    position.val ≤ state.lastCompletedPosition.val := by
  have reached := sound.durable position durable
  have within := sound.durableLen_le
  have completed := sound.completed
  omega

theorem retainedFirst_of_reached (sound : state.Sound format layout header.first)
    (ordered : header.Ordered) (reached : header.ReachedBy state) {position : U64}
    (retained : header.reclaimedRetainedFirst = some position) :
    (state.records.take state.durableLen).head?.map (fun record => record.position.get) =
      some position := by
  rcases ordered.le retained with ⟨highWater, isHighWater, below⟩
  rcases reached highWater isHighWater with ⟨durable, isDurable, above⟩
  have length := sound.durable durable isDurable
  have first : header.first = position.val := by
    rw [OpenedHeader.first, retained]
  have nonempty : 0 < state.durableLen := by
    have bound := Fin.le_def.mp (le_trans below above)
    omega
  have inside : 0 < state.records.length :=
    Nat.lt_of_lt_of_le nonempty sound.durableLen_le
  have position_eq := sound.position_eq (List.getElem?_eq_getElem inside)
  rw [List.head?_take, if_neg (by omega), List.head?_eq_getElem?,
    List.getElem?_eq_getElem inside, Option.map_some]
  exact congrArg some (Fin.ext (by omega))

theorem checkReclaimed_of_reached (sound : state.Sound format layout header.first)
    (ordered : header.Ordered) (reached : header.ReachedBy state) (scannedLength : Nat) :
    FileCommitLog.checkReclaimed header state scannedLength = .ok () := by
  have completed :
      ¬state.lastCompletedPosition < header.reclaimedLogicalHighWater.getD 0 := by
    cases highWater : header.reclaimedLogicalHighWater with
    | none => simp
    | some expected =>
        rcases reached expected highWater with ⟨durable, isDurable, above⟩
        have below := durable_le_completed sound isDurable
        rw [Option.getD_some, not_lt, Fin.le_def]
        exact Nat.le_trans (Fin.le_def.mp above) below
  have first : ¬(header.reclaimedRetainedFirst.isSome ∧
      (state.records.take state.durableLen).head?.map
        (fun record => record.position.get) ≠
        header.reclaimedRetainedFirst) := by
    rintro ⟨present, differs⟩
    rcases Option.isSome_iff_exists.mp present with ⟨position, retained⟩
    exact differs
      ((retainedFirst_of_reached sound ordered reached retained).trans retained.symm)
  have durable : ¬∃ expected ∈ header.reclaimedLogicalHighWater,
      ∀ actual ∈ state.lastDurablePosition, actual < expected := by
    rintro ⟨expected, isExpected, below⟩
    rcases reached expected isExpected with ⟨actual, isActual, above⟩
    exact absurd (below actual isActual) (not_lt.mpr above)
  rw [FileCommitLog.checkReclaimed]
  split
  · simp only [rejectIf, completed, first, durable, if_false, Except.ok_bind]
  · rfl

theorem reached_of_checkReclaimed (reclaims : header.format = .v4 ∨ header.format = .v5)
    {scannedLength : Nat}
    (accepted : FileCommitLog.checkReclaimed header state scannedLength = .ok ()) :
    header.ReachedBy state := by
  rw [FileCommitLog.checkReclaimed, if_pos reclaims] at accepted
  simp only [Except.bind_ok_iff, rejectIf_ok_iff] at accepted
  rcases accepted with ⟨_, _, _, _, durable⟩
  intro expected isExpected
  by_contra unreached
  refine durable ⟨expected, isExpected, fun actual isActual => ?_⟩
  by_contra above
  exact unreached ⟨actual, isActual, not_lt.mp above⟩

end Checks

end OpenedHeader

namespace LogFileHeader

variable (header : LogFileHeader)

theorem retainedFirst_ne_zero : header.opened.reclaimedRetainedFirst ≠ some 0 := by
  cases header with
  | unreclaimed format known persistentId => nofun
  | database persistentId identity => nofun
  | reclaimed metadata valid => exact valid.retainedFirst_ne_zero
  | reclaimedDatabase metadata valid identity => exact valid.retainedFirst_ne_zero

theorem logicalHighWater_ne_zero : header.opened.reclaimedLogicalHighWater ≠ some 0 := by
  cases header with
  | unreclaimed format known persistentId => nofun
  | database persistentId identity => nofun
  | reclaimed metadata valid => exact valid.logicalHighWater_ne_zero
  | reclaimedDatabase metadata valid identity => exact valid.logicalHighWater_ne_zero

theorem ordered : header.opened.Ordered := by
  cases header with
  | unreclaimed format known persistentId => rfl
  | database persistentId identity => rfl
  | reclaimed metadata valid => exact valid.ordered
  | reclaimedDatabase metadata valid identity => exact valid.ordered

/-- The scanner's state in front of the first frame. -/
def seed (width : Nat) (layout : PageLayout) : OpenState width :=
  header.opened.openState
    (HeaderExpectation.forFormat layout header.opened.format).pageLayout

theorem sound_seed (layout : PageLayout) :
    (header.seed width layout).Sound header.opened.format layout header.opened.first :=
  OpenedHeader.sound_openState header.retainedFirst_ne_zero _

/-- An open log with the records and counters of a scanned state. -/
def logOf (file : List UInt8) (state : OpenState width) (script : List IoResult) :
    FileCommitLog width where
  writer := { bytes := file, script, poisoned := false }
  format := header.opened.format
  lineage := .persistent header.opened.persistentId
  persistentId := header.opened.persistentId
  databaseFileIdentity := header.opened.databaseFileIdentity
  generation := header.opened.generation
  reclaimedRetainedFirst := header.opened.reclaimedRetainedFirst.map
    (LogLineage.persistent header.opened.persistentId).position
  reclaimedLogicalHighWater := header.opened.reclaimedLogicalHighWater.map
    (LogLineage.persistent header.opened.persistentId).position
  reclaimedAllocatedEpochHighWater := header.opened.allocatedEpochHighWater
  selectedCheckpointAnchor := header.opened.selectedCheckpointAnchor
  records := state.records
  durableLen := state.durableLen
  nextEpoch := state.nextEpoch
  nextPosition := state.nextPosition
  armedFault := none

end LogFileHeader

section Scanning

variable {layout : PageLayout} {header : LogFileHeader}
  (accepted : header.opened.format.supportsPages = true →
    PageLayout.forConst width = .ok layout)
  {groups : List (LogGroup width)} {region : List UInt8}

def logFormat :
    Format 56 (OpenState width) (LogGroup width) (OpenState width) FileFormatError :=
  commitLogFormat header.opened.format layout fun supports =>
    PageLayout.fits_of_forConst (accepted supports)

def stateAfter (header : LogFileHeader) (layout : PageLayout)
    (groups : List (LogGroup width)) :
    OpenState width :=
  groups.foldl OpenState.afterGroup (header.seed width layout)

theorem sound_stateAfter
    (readable : (logFormat accepted).Readable (header.seed width layout) groups) :
    (stateAfter header layout groups).Sound header.opened.format layout
      header.opened.first :=
  Format.invariant_of_readable (logFormat accepted)
    (fun _ _ sound admits => OpenState.Sound.afterGroup sound admits) readable
    (header.sound_seed layout)

theorem scan_region
    (readable : (logFormat accepted).Readable (header.seed width layout) groups)
    (written : region <+: (logFormat accepted).write groups) :
    let whole := (logFormat accepted).wholeWithin groups region.length
    let state := stateAfter header layout whole
    ∃ final : OpenState width,
      scan (OpenState.readFrame header.opened.format) header.opened.headerLength
          (readFrames 56 (region.length / 56) region)
          (header.seed width layout) = .ok final ∧
        { final with pendingPage := none } = state ∧
        repairedLength 56 final.pendingPageHeaderOffset header.opened.headerLength
          region.length =
          if region.length = (logFormat accepted).sizes whole then none
          else some (header.opened.headerLength + (logFormat accepted).sizes whole) := by
  intro whole state
  have within : region.length ≤ (logFormat accepted).sizes groups := by
    rw [← Format.length_write]
    exact written.length_le
  have idle : (logFormat accepted).pending (header.seed width layout) = none := rfl
  rcases (logFormat accepted).scan_cut (by decide) header.opened.headerLength idle
    readable within with ⟨final, scanned, viewed, repaired⟩
  have sound := sound_stateAfter accepted
    ((logFormat accepted).readable_wholeWithin readable region.length)
  refine ⟨final, ?_, ?_, repaired⟩
  · rw [(logFormat accepted).readFrames_region written]
    exact scanned
  · have idle : state.pendingPage = none := sound.idle
    have same : { state with pendingPage := none } = state := by rw [← idle]
    exact viewed.trans same

include accepted in
theorem pageWidth_ne_zero (supports : header.opened.format.supportsPages = true) :
    layout.width ≠ 0 :=
  (PageLayout.fits_of_forConst (accepted supports)).width_ne_zero

/-- Opening a file that starts with the header and some first part of what was
written finds the groups that are wholly there. -/
theorem inspectInternal_region
    (readable : (logFormat accepted).Readable (header.seed width layout) groups)
    (written : region <+: (logFormat accepted).write groups)
    (reached : header.opened.ReachedBy
      (stateAfter header layout ((logFormat accepted).wholeWithin groups region.length)))
    (script : List IoResult) :
    let whole := (logFormat accepted).wholeWithin groups region.length
    FileCommitLog.inspectInternal width (.forFormat layout header.opened.format)
        (header.bytes layout ++ region) script =
      .ok {
        log := header.logOf (header.bytes layout ++ region)
          (stateAfter header layout whole) script
        repairedLen :=
          if region.length = (logFormat accepted).sizes whole then none
          else some (header.opened.headerLength + (logFormat accepted).sizes whole)
            } := by
  intro whole
  rcases scan_region accepted readable written with ⟨final, scanned, viewed, repaired⟩
  have sound := sound_stateAfter accepted
    ((logFormat accepted).readable_wholeWithin readable region.length)
  have dropped :
      (header.bytes layout ++ region).drop header.opened.headerLength = region := by
    rw [← header.length_bytes layout, List.drop_left]
  have length : (header.bytes layout ++ region).length - header.opened.headerLength =
      region.length := by
    rw [← header.length_bytes layout, List.length_append, Nat.add_sub_cancel_left]
  have checked (scannedLength : Nat) :
      FileCommitLog.checkReclaimed header.opened final scannedLength = .ok () := by
    have same :
        FileCommitLog.checkReclaimed header.opened { final with pendingPage := none }
        scannedLength = FileCommitLog.checkReclaimed header.opened final
          scannedLength := rfl
    rw [← same, viewed]
    exact OpenedHeader.checkReclaimed_of_reached sound header.ordered reached
      scannedLength
  have scanned :
      scan (OpenState.readFrame header.opened.format) header.opened.headerLength
      (readFrames 56 (region.length / 56) region) (header.opened.openState
        (HeaderExpectation.forFormat layout header.opened.format).pageLayout) =
          .ok final := scanned
  have state_eq :
      header.logOf (header.bytes layout ++ region) (stateAfter header layout whole)
      script = header.logOf (header.bytes layout ++ region) final script := by
    rw [← viewed]
    rfl
  simp only [FileCommitLog.inspectInternal,
    header.inspectHeader_bytes (pageWidth_ne_zero accepted) region, Except.ok_bind,
    length, dropped, scanned, Except.mapError, checked, repaired, state_eq]
  rfl

theorem inspectInternal_whole
    (readable : (logFormat accepted).Readable (header.seed width layout) groups)
    (reached : header.opened.ReachedBy (stateAfter header layout groups))
    (script : List IoResult) :
    FileCommitLog.inspectInternal width (.forFormat layout header.opened.format)
        (header.bytes layout ++ (logFormat accepted).write groups) script =
      .ok {
        log := header.logOf (header.bytes layout ++ (logFormat accepted).write groups)
          (stateAfter header layout groups) script
        repairedLen := none } := by
  have whole :
      (logFormat accepted).wholeWithin groups ((logFormat accepted).sizes groups) =
      groups :=
    Format.wholeWithin_all _ _ le_rfl
  have length := (logFormat accepted).length_write groups
  have opens := inspectInternal_region accepted readable List.prefix_rfl
    (by rwa [length, whole]) script
  simpa only [length, whole, if_true] using opens

/-- A reclaimed file whose durable records do not reach the header's high water
is refused. -/
theorem inspectInternal_unreached
    (readable : (logFormat accepted).Readable (header.seed width layout) groups)
    (written : region <+: (logFormat accepted).write groups)
    (reclaims : header.opened.format = .v4 ∨ header.opened.format = .v5)
    (unreached : ¬header.opened.ReachedBy
      (stateAfter header layout ((logFormat accepted).wholeWithin groups region.length)))
    (script : List IoResult) :
    ∃ error, FileCommitLog.inspectInternal width (.forFormat layout header.opened.format)
      (header.bytes layout ++ region) script = .error error := by
  rcases scan_region accepted readable written with ⟨final, scanned, viewed, _⟩
  have dropped :
      (header.bytes layout ++ region).drop header.opened.headerLength = region := by
    rw [← header.length_bytes layout, List.drop_left]
  have length : (header.bytes layout ++ region).length - header.opened.headerLength =
      region.length := by
    rw [← header.length_bytes layout, List.length_append, Nat.add_sub_cancel_left]
  have scanned :
      scan (OpenState.readFrame header.opened.format) header.opened.headerLength
      (readFrames 56 (region.length / 56) region) (header.opened.openState
        (HeaderExpectation.forFormat layout header.opened.format).pageLayout) =
          .ok final := scanned
  rcases checked : FileCommitLog.checkReclaimed header.opened final
      (header.opened.headerLength + region.length / 56 * 56) with error | ⟨⟩
  · refine ⟨error, ?_⟩
    simp only [FileCommitLog.inspectInternal, header.inspectHeader_bytes
      (pageWidth_ne_zero accepted) region, Except.ok_bind, length, dropped, scanned,
      Except.mapError, checked]
    rfl
  · have reached := OpenedHeader.reached_of_checkReclaimed reclaims checked
    have same : header.opened.ReachedBy { final with pendingPage := none } := reached
    rw [viewed] at same
    exact absurd same unreached

end Scanning

end Ntsql.Storage
