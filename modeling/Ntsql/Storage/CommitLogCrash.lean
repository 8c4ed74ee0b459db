import Ntsql.Storage.CommitLogHistory

/-! # A crash at any byte

Cut anywhere, a log file shows the groups that are wholly there and is cut back
to their end. A reclaimed file that lost what its header remembers is refused. -/

namespace Ntsql.Storage

open FrameLog

variable {width : Nat}

namespace LogGroup

def record? : LogGroup width → Option (FileLogRecord width)
  | .record appended => some appended
  | .epoch _ | .marker _ => none

def marker? : LogGroup width → Option U64
  | .marker position => some position
  | .epoch _ | .record _ => none

def epoch? : LogGroup width → Option U64
  | .epoch allocated => some allocated.get
  | .record _ | .marker _ => none

end LogGroup

theorem foldl_afterGroup (groups : List (LogGroup width)) (state : OpenState width) :
    (groups.foldl OpenState.afterGroup state).records =
        state.records ++ groups.filterMap LogGroup.record? ∧
      (groups.foldl OpenState.afterGroup state).lastDurablePosition =
        (groups.filterMap LogGroup.marker?).getLast?.or state.lastDurablePosition ∧
      (groups.foldl OpenState.afterGroup state).highestAllocatedEpoch =
        (groups.filterMap LogGroup.epoch?).getLast?.getD state.highestAllocatedEpoch := by
  induction groups generalizing state with
  | nil => simp
  | cons group groups induction =>
      rcases induction (state.afterGroup group) with ⟨records, durable, epoch⟩
      rw [List.foldl_cons, records, durable, epoch]
      cases group with
      | epoch value =>
          rw [List.filterMap_cons_none
            (rfl : LogGroup.record? (.epoch value : LogGroup width) = none)]
          simp [LogGroup.marker?, LogGroup.epoch?, OpenState.afterGroup,
            OpenState.afterEpoch, List.getLast?_cons]
      | record appended =>
          simp [LogGroup.record?, LogGroup.marker?, LogGroup.epoch?, OpenState.afterGroup,
            OpenState.afterRecord]
      | marker position =>
          refine ⟨?_, ?_, ?_⟩
          · rw [List.filterMap_cons_none
              (rfl : LogGroup.record? (.marker position : LogGroup width) = none)]
            rfl
          · rw [List.filterMap_cons_some (rfl : LogGroup.marker? (.marker position) =
              some position), List.getLast?_cons]
            cases (groups.filterMap LogGroup.marker?).getLast? with
            | none => rfl
            | some other => rfl
          · simp [LogGroup.epoch?, OpenState.afterGroup, OpenState.afterMarker]

namespace FileCommitLog

variable {layout : PageLayout} {log : FileCommitLog width} {header : LogFileHeader}
  {groups : List (LogGroup width)} {region : List UInt8}

/-- A torn tail is cut off, and what is left opens without another repair. -/
theorem opens_region
    (accepted : header.opened.format.supportsPages = true →
      PageLayout.forConst width = .ok layout)
    (readable : (logFormat accepted).Readable (header.seed width layout) groups)
    (written : region <+: (logFormat accepted).write groups)
    (reached : header.opened.ReachedBy
      (stateAfter header layout ((logFormat accepted).wholeWithin groups region.length)))
    (script : List IoResult) :
    let whole := (logFormat accepted).wholeWithin groups region.length
    let kept := header.bytes layout ++ (logFormat accepted).write whole
    ∃ opened, inspectInternal width (.forFormat layout header.opened.format)
        (header.bytes layout ++ region) script = .ok opened ∧
      opened.repairedLen =
        (if header.opened.headerLength + region.length = kept.length then none
        else some kept.length) ∧
      opened.finish = header.logOf kept (stateAfter header layout whole) script ∧
      inspectInternal width (.forFormat layout header.opened.format)
        opened.finish.writer.bytes script =
          .ok { log := opened.finish, repairedLen := none } := by
  intro whole kept
  have keptLength : kept.length =
      header.opened.headerLength + (logFormat accepted).sizes whole := by
    rw [List.length_append, Format.length_write, header.length_bytes]
  have truncated : region.take ((logFormat accepted).sizes whole) =
      (logFormat accepted).write whole :=
    (logFormat accepted).take_wholeWithin written
  have opens := inspectInternal_region accepted readable written reached script
  rw [opens]
  have finished : LockedFileCommitLogOpen.finish {
      log := header.logOf (header.bytes layout ++ region)
        (stateAfter header layout whole) script
      repairedLen :=
        if region.length = (logFormat accepted).sizes whole then none
        else some (header.opened.headerLength + (logFormat accepted).sizes whole) } =
      header.logOf kept (stateAfter header layout whole) script := by
    rw [LockedFileCommitLogOpen.finish]
    by_cases complete : region.length = (logFormat accepted).sizes whole
    · rw [if_pos complete]
      rw [← complete, List.take_length] at truncated
      simp only [kept, ← truncated]
    · rw [if_neg complete]
      simp only [LogFileHeader.logOf, kept, ← header.length_bytes layout,
        List.take_length_add_append, truncated]
  refine ⟨_, rfl, ?_, finished, ?_⟩
  · rw [keptLength]
    simp only [Nat.add_left_cancel_iff]
    rfl
  · have whole_readable :=
      (logFormat accepted).readable_wholeWithin readable region.length
    exact finished ▸ inspectInternal_whole accepted whole_readable reached script

theorem wrote_logOf
    (accepted : header.opened.format.supportsPages = true →
      PageLayout.forConst width = .ok layout)
    (readable : (logFormat accepted).Readable (header.seed width layout) groups)
    (reached : header.opened.ReachedBy (stateAfter header layout groups))
    (script : List IoResult) :
    Wrote layout (header.logOf (header.bytes layout ++ (logFormat accepted).write groups)
      (stateAfter header layout groups) script) header groups where
  accepted
  writes := accepted
  readable
  reached
  region := ⟨_, List.prefix_rfl, rfl⟩
  healthy _ := rfl

/-! ## Files that were never reclaimed -/

/-- A log file that opens wherever it is cut, with the groups that are wholly
there. It is then cut to the end of the last of them and goes on as a log. -/
structure ReopensAtEveryCut (layout : PageLayout) (log : FileCommitLog width)
    (header : LogFileHeader)
    (accepted : header.opened.format.supportsPages = true →
      PageLayout.forConst width = .ok layout)
    (groups : List (LogGroup width)) : Prop where
  written : ∃ region, region <+: (logFormat accepted).write groups ∧
    log.writer.bytes = header.bytes layout ++ region
  cut : ∀ cut script, header.opened.headerLength ≤ cut → cut ≤ log.writer.bytes.length →
    let whole :=
      (logFormat accepted).wholeWithin groups (cut - header.opened.headerLength)
    let kept := header.bytes layout ++ (logFormat accepted).write whole
    ∃ opened, inspectInternal width (.forFormat layout header.opened.format)
        (log.writer.bytes.take cut) script = .ok opened ∧
      opened.repairedLen = (if cut = kept.length then none else some kept.length) ∧
      opened.finish.writer.bytes = kept ∧
      opened.finish.records = whole.filterMap LogGroup.record? ∧
      opened.finish.durableLen =
        ((whole.filterMap LogGroup.marker?).getLast?.map Fin.val).getD 0 ∧
      opened.finish.nextEpoch =
        NonZeroU64.checkedNext ((whole.filterMap LogGroup.epoch?).getLast?.getD 0) ∧
      inspectInternal width (.forFormat layout header.opened.format)
        opened.finish.writer.bytes script =
          .ok { log := opened.finish, repairedLen := none } ∧
      ∀ operations,
        Execution.Respects FileCommitLog.after Permitted opened.finish operations →
        ReopensExactly layout (Execution.run FileCommitLog.after opened.finish operations)

theorem unreclaimed_counters
    (accepted : header.opened.format.supportsPages = true →
      PageLayout.forConst width = .ok layout)
    (readable : (logFormat accepted).Readable (header.seed width layout) groups)
    (unreclaimed : Unreclaimed header) :
    (stateAfter header layout groups).records = groups.filterMap LogGroup.record? ∧
      (stateAfter header layout groups).durableLen =
        ((groups.filterMap LogGroup.marker?).getLast?.map Fin.val).getD 0 ∧
      (stateAfter header layout groups).nextEpoch =
        NonZeroU64.checkedNext ((groups.filterMap LogGroup.epoch?).getLast?.getD 0) := by
  rcases unreclaimed with ⟨retained, highWater, allocated⟩
  rcases foldl_afterGroup groups (header.seed width layout) with ⟨records, durable, epoch⟩
  have sound := sound_stateAfter accepted readable
  have first : header.opened.first = 1 := by
    rw [OpenedHeader.first, retained, highWater]
  have undurable : (header.seed width layout).lastDurablePosition = none := by
    rw [LogFileHeader.seed, OpenedHeader.openState, retained, highWater]
    rfl
  have unallocated : (header.seed width layout).highestAllocatedEpoch = 0 := by
    rw [LogFileHeader.seed, OpenedHeader.openState, allocated]
    rfl
  rw [undurable, Option.or_none] at durable
  rw [unallocated] at epoch
  refine ⟨records, ?_, ?_⟩
  · cases last : (groups.filterMap LogGroup.marker?).getLast? with
    | none =>
        rw [last] at durable
        exact sound.undurable durable
    | some position =>
        rw [last] at durable
        have reached := sound.durable position durable
        rw [Option.map_some, Option.getD_some]
        omega
  · rw [sound.nextEpoch]
    exact congrArg NonZeroU64.checkedNext epoch

theorem reached_unreclaimed {state : OpenState width} (unreclaimed : Unreclaimed header) :
    header.opened.ReachedBy state := by
  intro expected isExpected
  rw [unreclaimed.2.1] at isExpected
  cases isExpected

theorem Wrote.reopensAtEveryCut (wrote : Wrote layout log header groups)
    (unreclaimed : Unreclaimed header) :
    ReopensAtEveryCut layout log header wrote.accepted groups where
  written := wrote.region
  cut cut script afterHeader within := by
    intro whole kept
    rcases wrote.region with ⟨region, written, bytes_eq⟩
    have headerLength := header.length_bytes layout
    have room : cut - header.opened.headerLength ≤ region.length := by
      have total :
          log.writer.bytes.length = header.opened.headerLength + region.length := by
        rw [bytes_eq, List.length_append, headerLength]
      omega
    have taken : log.writer.bytes.take cut =
        header.bytes layout ++ region.take (cut - header.opened.headerLength) := by
      rw [bytes_eq, List.take_append, List.take_of_length_le (by omega), headerLength]
    have length : (region.take (cut - header.opened.headerLength)).length =
        cut - header.opened.headerLength := by
      rw [List.length_take, Nat.min_eq_left room]
    have cutWritten : region.take (cut - header.opened.headerLength) <+:
        (logFormat wrote.accepted).write groups :=
      (List.take_prefix _ _).trans written
    rcases opens_region wrote.accepted wrote.readable cutWritten
      (reached_unreclaimed unreclaimed) script with
        ⟨opened, opens, repaired, finished, again⟩
    rw [length] at repaired finished
    have total : header.opened.headerLength + (cut - header.opened.headerLength) = cut :=
      Nat.add_sub_cancel' afterHeader
    have readable := (logFormat wrote.accepted).readable_wholeWithin wrote.readable
      (cut - header.opened.headerLength)
    rcases unreclaimed_counters wrote.accepted readable unreclaimed with
      ⟨records, durableLen, nextEpoch⟩
    refine ⟨opened, ?_, ?_, ?_, ?_, ?_, ?_, again, fun operations permitted => ?_⟩
    · rw [taken, opens]
    · rw [repaired, total]
    · rw [finished]
      rfl
    · rw [finished]
      exact records
    · rw [finished]
      exact durableLen
    · rw [finished]
      exact nextEpoch
    · rw [finished] at permitted ⊢
      exact (wrote_run operations (wrote_logOf wrote.accepted readable
        (reached_unreclaimed unreclaimed) script) permitted).reopens

/-! ## Reclaimed files -/

/-- The records of these groups are durable up to the header's high water. There
is nothing to reach when no record was retained. -/
def DurablyReaches (header : OpenedHeader) (groups : List (LogGroup width)) : Prop :=
  ∀ highWater ∈ header.reclaimedLogicalHighWater, header.reclaimedRetainedFirst = none ∨
    ∃ position ∈ (groups.filterMap LogGroup.marker?).getLast?, highWater ≤ position

theorem durablyReaches_of_reached
    (reached : header.opened.ReachedBy (stateAfter header layout groups)) :
    DurablyReaches header.opened groups := by
  intro highWater isHighWater
  rcases reached highWater isHighWater with ⟨actual, isActual, above⟩
  rw [stateAfter, (foldl_afterGroup groups (header.seed width layout)).2.1] at isActual
  cases last : (groups.filterMap LogGroup.marker?).getLast? with
  | some position =>
      rw [last, Option.some_or] at isActual
      cases isActual
      exact .inr ⟨_, rfl, above⟩
  | none =>
      rw [last, Option.none_or, LogFileHeader.seed, OpenedHeader.openState] at isActual
      cases retained : header.opened.reclaimedRetainedFirst with
      | none => exact .inl rfl
      | some position =>
          rw [retained] at isActual
          cases isActual

theorem inspectHeader_short {length cut : Nat} {bytes : Bytes length} {format : LogFormat}
    (version : bytes.readU16 8 = format.version)
    (versioned : format = .v4 ∧ length = 128 ∨ format = .v5 ∧ length = 192)
    (short : cut < length) :
    inspectHeader (.v3OrLater layout) (bytes.toList.take cut) =
      .error (headerTooShort cut) := by
  have size : (bytes.toList.take cut).length = cut := by
    rw [List.length_take, Vector.length_toList, Nat.min_eq_left short.le]
  by_cases started : cut < 64
  · simp only [inspectHeader, rejectIf, size, started, if_true]
    rfl
  · have read : (Bytes.ofList 64 (bytes.toList.take cut)).readU16 8 = format.version := by
      rw [Bytes.readU16, Bytes.slice_ofList_take bytes (by decide) (by omega) short.le]
      exact version
    rcases versioned with ⟨rfl, rfl⟩ | ⟨rfl, rfl⟩
    · have isV4 : LogFormat.version .v4 = FORMAT_VERSION_V4 := rfl
      simp only [inspectHeader, rejectIf, size, started, if_false, Except.ok_bind, read,
        isV4, if_true, short]
      rfl
    · have isV5 : LogFormat.version .v5 = FORMAT_VERSION_V5 := rfl
      simp only [inspectHeader, rejectIf, size, started, if_false, Except.ok_bind, read,
        isV5, if_true, short]
      rfl

/-- A reclaimed log file of which no first part opens that lost durable records
up to the header's high water. -/
structure RejectsUnreached (layout : PageLayout) (log : FileCommitLog width)
    (header : LogFileHeader)
    (accepted : header.opened.format.supportsPages = true →
      PageLayout.forConst width = .ok layout)
    (groups : List (LogGroup width)) : Prop where
  written : ∃ region, region <+: (logFormat accepted).write groups ∧
    log.writer.bytes = header.bytes layout ++ region
  rejected : header.opened.format = .v4 ∨ header.opened.format = .v5 → ∀ cut script,
    cut ≤ log.writer.bytes.length →
    (header.opened.headerLength ≤ cut → ¬DurablyReaches header.opened
      ((logFormat accepted).wholeWithin groups (cut - header.opened.headerLength))) →
    ∃ error, inspectInternal width (.forFormat layout header.opened.format)
      (log.writer.bytes.take cut) script = .error error

theorem inspectHeader_bytes_short
    (reclaims : header.opened.format = .v4 ∨ header.opened.format = .v5) {cut : Nat}
    (short : cut < header.opened.headerLength) :
    inspectHeader (.forFormat layout header.opened.format)
      ((header.bytes layout).take cut) = .error (headerTooShort cut) := by
  cases header with
  | unreclaimed format known persistentId =>
      have reclaims : format = .v4 ∨ format = .v5 := reclaims
      rcases reclaims with rfl | rfl
      · cases known
      · cases known
  | database persistentId identity =>
      exact inspectHeader_short (buildHeaderV5Initial_version _ _ _)
        (.inr ⟨rfl, rfl⟩) short
  | reclaimed metadata valid =>
      exact inspectHeader_short (buildHeaderV4_version _ _) (.inl ⟨rfl, rfl⟩) short
  | reclaimedDatabase metadata valid identity =>
      exact inspectHeader_short (buildHeaderV5Reclaimed_version _ _ _)
        (.inr ⟨rfl, rfl⟩) short

theorem Wrote.rejectsUnreached (wrote : Wrote layout log header groups) :
    RejectsUnreached layout log header wrote.accepted groups where
  written := wrote.region
  rejected reclaims cut script within unreached := by
    rcases wrote.region with ⟨region, written, bytes_eq⟩
    have headerLength := header.length_bytes layout
    by_cases afterHeader : header.opened.headerLength ≤ cut
    · have room : cut - header.opened.headerLength ≤ region.length := by
        have total :
            log.writer.bytes.length = header.opened.headerLength + region.length := by
          rw [bytes_eq, List.length_append, headerLength]
        omega
      have taken : log.writer.bytes.take cut =
          header.bytes layout ++ region.take (cut - header.opened.headerLength) := by
        rw [bytes_eq, List.take_append, List.take_of_length_le (by omega), headerLength]
      have length : (region.take (cut - header.opened.headerLength)).length =
          cut - header.opened.headerLength := by
        rw [List.length_take, Nat.min_eq_left room]
      have cutWritten : region.take (cut - header.opened.headerLength) <+:
          (logFormat wrote.accepted).write groups :=
        (List.take_prefix _ _).trans written
      rw [taken]
      refine inspectInternal_unreached wrote.accepted wrote.readable cutWritten
        reclaims ?_ script
      rw [length]
      exact fun reached => unreached afterHeader (durablyReaches_of_reached reached)
    · have short : cut < header.opened.headerLength := Nat.lt_of_not_le afterHeader
      have taken : log.writer.bytes.take cut = (header.bytes layout).take cut := by
        rw [bytes_eq, List.take_append_of_le_length (by omega)]
      refine ⟨headerTooShort cut, ?_⟩
      rw [taken, inspectInternal, inspectHeader_bytes_short reclaims short]
      rfl

/-! ## Runs and histories -/

/-- Every run on a new log, ended by a write failure or not, leaves a file that
opens wherever it is cut, with the groups that are wholly there. Every history
leaves one of which no first part opens that lost what its header remembers. -/
theorem commit_log_reopens_at_every_cut {initial : FileCommitLog width}
    {script : List IoResult} (created : Created layout script initial) :
    (∃ header accepted, header.bytes layout = initial.writer.bytes ∧
      ∀ operations, Execution.Respects FileCommitLog.after Permitted initial operations →
        ReopensAtEveryCut layout (Execution.run FileCommitLog.after initial operations)
          header
          accepted (Execution.emitted FileCommitLog.after begun initial operations)) ∧
    ∀ calls, Execution.Respects perform Authorized initial calls →
      ∃ header accepted groups,
        RejectsUnreached layout (Execution.run perform initial calls) header accepted
          groups := by
  rcases wrote_created created with ⟨header, unreclaimed, wrote⟩
  refine ⟨⟨header, wrote.accepted, ?_, fun operations permitted => ?_⟩,
    fun calls authorized => ?_⟩
  · have log_eq := wrote.healthy created.fresh.2.1
    have bytes := congrArg (fun log => log.writer.bytes) log_eq
    exact (List.append_nil _).symm.trans bytes.symm
  · exact (wrote_run operations wrote permitted).reopensAtEveryCut unreclaimed
  · rcases accounted_run calls ⟨header, [], wrote⟩ authorized with ⟨later, groups, wrote⟩
    exact ⟨later, wrote.accepted, groups, wrote.rejectsUnreached⟩

/-! ## A commit, cut -/

def commitOperations : List LogOperation :=
  [.allocateTransactionEpochFrame, .appendCommit ⟨.min, .min⟩,
    .flushThrough ⟨.persistent .min, 1⟩]

def commitGroup : LogGroup 2 :=
  .record ⟨⟨.persistent .min, 1⟩, .transactionCommit (.fromTransactionId ⟨.min, .min⟩)⟩

def commitPermit : WalReclamationPermit where
  persistentLogId := .min
  lineage := .persistent .min
  durableFrontier := some ⟨.persistent .min, 1⟩
  retainedFirstLogicalRecord := some ⟨.persistent .min, 1⟩
  allocatedEpochHighWater := .min
  physicalFormatVersion := FORMAT_VERSION_V3
  sourceGeneration := 0
  selectedCheckpointAnchor := (1, 9)
  anchorVersion_ne_zero := by decide

def commitCalls : List LogCall :=
  commitOperations.map .operation ++ [.reclaim commitPermit]

theorem begun_of_length {log : FileCommitLog width} {operation : LogOperation}
    (grows : (log.after operation).writer.bytes.length ≠ log.writer.bytes.length) :
    log.begun operation = log.offered operation := by
  rw [begun, if_neg fun same => grows (congrArg List.length same)]

theorem commitOperations_begun {initial : FileCommitLog 2}
    (created : createNewTransactionPageCapable 2 .min [] = .ok initial) :
    Execution.emitted FileCommitLog.after begun initial commitOperations =
      [.epoch .min, commitGroup, .marker 1] := by
  cases created
  simp only [commitOperations, Execution.emitted]
  rw [begun_of_length (by decide +kernel), begun_of_length (by decide +kernel),
    begun_of_length (by decide +kernel)]
  rfl

/-- The log is cut within the durability marker and shows the commit, not durable.
The log that was reclaimed is refused where its header is cut. -/
theorem new_commit_log_reopens_at_every_cut :
    ∃ initial : FileCommitLog 2, createNewTransactionPageCapable 2 .min [] = .ok initial ∧
      let log := Execution.run FileCommitLog.after initial commitOperations
      let reclaimed := Execution.run perform initial commitCalls
      (∃ header accepted, header.bytes ⟨2, 1, 2⟩ = initial.writer.bytes ∧
        ReopensAtEveryCut ⟨2, 1, 2⟩ log header accepted
          [.epoch .min, commitGroup, .marker 1] ∧
        ∃ opened, inspectInternal 2 (.forFormat ⟨2, 1, 2⟩ header.opened.format)
            (log.writer.bytes.take 200) [] = .ok opened ∧
          opened.repairedLen = some 176 ∧ opened.finish.records = log.records ∧
          opened.finish.durableLen = 0 ∧ opened.finish.nextEpoch =
            some ⟨2, u64_two_ne_zero⟩) ∧
      (∃ header accepted groups,
        RejectsUnreached ⟨2, 1, 2⟩ reclaimed header accepted groups) ∧
      reclaimed.generation = 1 ∧ reclaimed.records = log.records ∧
      (inspectInternal 2 (.forFormat ⟨2, 1, 2⟩ reclaimed.format)
        (reclaimed.writer.bytes.take 100) []).toOption = none := by
  refine ⟨_, rfl, ?_⟩
  intro log reclaimed
  have created : createNewTransactionPageCapable 2 .min [] = .ok _ := rfl
  rcases commit_log_reopens_at_every_cut
    (.transactionPageCapable .min forConst_two created) with
    ⟨⟨header, accepted, bytes, reopens⟩, rejects⟩
  have cuts := reopens commitOperations (by decide +kernel)
  rw [commitOperations_begun rfl] at cuts
  have headerLength : header.opened.headerLength = 64 := by
    rw [← header.length_bytes ⟨2, 1, 2⟩, bytes]
    rfl
  refine ⟨⟨header, accepted, bytes, cuts, ?_⟩,
    rejects commitCalls (by decide +kernel), ?_⟩
  · rcases cuts.cut 200 [] (by omega) (by decide +kernel) with
      ⟨opened, opens, repaired, _, records, durable, epoch, _⟩
    have keptLength : (header.bytes ⟨2, 1, 2⟩ ++
        (logFormat accepted).write [.epoch .min, commitGroup]).length = 176 := by
      rw [List.length_append, Format.length_write, header.length_bytes, headerLength]
      rfl
    rw [headerLength] at repaired records durable epoch
    have whole : (logFormat accepted).wholeWithin [.epoch .min, commitGroup, .marker 1]
        (200 - 64) = [.epoch .min, commitGroup] := rfl
    rw [whole] at repaired records durable epoch
    rw [keptLength] at repaired
    exact ⟨opened, opens, repaired, records, durable, epoch⟩
  · decide +kernel

end FileCommitLog

end Ntsql.Storage
