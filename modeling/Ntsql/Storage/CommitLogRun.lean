import Ntsql.Storage.CommitLogReopen

/-! # Runs of the commit log

A healthy log holds what a scan of its file finds, however it got there. -/

namespace Ntsql.Storage.FileCommitLog

open Bytes FrameLog

variable {width : Nat}

/-- An epoch this log has allocated. -/
def Allocated (log : FileCommitLog width) (epoch : NonZeroU64) : Prop :=
  ∀ next ∈ log.nextEpoch, epoch.get < next.get

instance (log : FileCommitLog width) (epoch : NonZeroU64) :
    Decidable (log.Allocated epoch) :=
  inferInstanceAs (Decidable (∀ next ∈ log.nextEpoch, epoch.get < next.get))

/-- Transactions come from allocated epochs and are committed at most once. -/
def Permitted (log : FileCommitLog width) : LogOperation → Prop
  | .appendCommit transactionId => log.Allocated transactionId.epoch ∧
      ∀ record ∈ log.records,
        record.transactionIdentity ≠ some (.fromTransactionId transactionId)
  | .appendTransactionPage transactionId _ => log.Allocated transactionId.epoch
  | _ => True

instance (log : FileCommitLog width) : (operation : LogOperation) →
    Decidable (log.Permitted operation)
  | .appendCommit transactionId =>
      inferInstanceAs (Decidable (log.Allocated transactionId.epoch ∧
      ∀ record ∈ log.records,
        record.transactionIdentity ≠ some (.fromTransactionId transactionId)))
  | .appendTransactionPage transactionId _ =>
      inferInstanceAs (Decidable (log.Allocated transactionId.epoch))
  | .allocateTransactionEpochFrame | .appendPage _ | .flushThrough _ | .armFault _ =>
      isTrue trivial

/-- The group whose bytes a call began to write. -/
def begun (log : FileCommitLog width) (operation : LogOperation) :
    Option (LogGroup width) :=
  if (log.after operation).writer.bytes = log.writer.bytes then none
  else log.offered operation

theorem pageLayout_forFormat {format : LogFormat} (layout : PageLayout)
    (supports : format.supportsPages = true) :
    (HeaderExpectation.forFormat layout format).pageLayout = some layout := by
  cases format with
  | v1 => cases supports
  | v2 => rfl
  | v3 => rfl
  | v4 => rfl
  | v5 => rfl

theorem stateAfter_constants (header : LogFileHeader) (layout : PageLayout)
    (groups : List (LogGroup width)) :
    (stateAfter header layout groups).lineage = .persistent header.opened.persistentId ∧
      (stateAfter header layout groups).pageLayout =
        (HeaderExpectation.forFormat layout header.opened.format).pageLayout := by
  have preserved (state : OpenState width) (group : LogGroup width) :
      (state.afterGroup group).lineage = state.lineage ∧
        (state.afterGroup group).pageLayout = state.pageLayout := by
    cases group with
    | epoch epoch => exact ⟨rfl, rfl⟩
    | record record => exact ⟨rfl, rfl⟩
    | marker position => exact ⟨rfl, rfl⟩
  have folded (state : OpenState width) :
      (groups.foldl OpenState.afterGroup state).lineage = state.lineage ∧
        (groups.foldl OpenState.afterGroup state).pageLayout = state.pageLayout := by
    induction groups generalizing state with
    | nil => exact ⟨rfl, rfl⟩
    | cons group groups induction =>
        rcases induction (state.afterGroup group) with ⟨lineage, pageLayout⟩
        rcases preserved state group with ⟨sameLineage, sameLayout⟩
        exact ⟨lineage.trans sameLineage, pageLayout.trans sameLayout⟩
  exact folded _

theorem stateAfter_append (header : LogFileHeader) (layout : PageLayout)
    (groups : List (LogGroup width)) (group : LogGroup width) :
    stateAfter header layout (groups ++ [group]) =
      (stateAfter header layout groups).afterGroup group := by
  rw [stateAfter, List.foldl_append]
  rfl

theorem reached_append {header : LogFileHeader} {layout : PageLayout}
    {groups : List (LogGroup width)} {group : LogGroup width}
    (reached : header.opened.ReachedBy (stateAfter header layout groups))
    (admits : (stateAfter header layout groups).Admits header.opened.format
      layout group) :
    header.opened.ReachedBy (stateAfter header layout (groups ++ [group])) := by
  rw [stateAfter_append]
  cases group with
  | epoch epoch => exact reached
  | record record => exact reached
  | marker position =>
      intro expected isExpected
      rcases reached expected isExpected with ⟨actual, isActual, above⟩
      have advances := admits.advances
      rw [Option.mem_def.mp isActual, Option.getD_some] at advances
      exact ⟨position, rfl, above.trans advances.le⟩

/-- The groups a log has begun to write. All are on file unless the writer
failed on the last one, and a healthy log holds what they say. -/
structure Wrote (layout : PageLayout) (log : FileCommitLog width) (header : LogFileHeader)
    (groups : List (LogGroup width)) : Prop where
  accepted :
    header.opened.format.supportsPages = true → PageLayout.forConst width = .ok layout
  writes : log.format.supportsPages = true → PageLayout.forConst width = .ok layout
  readable : (logFormat accepted).Readable (header.seed width layout) groups
  reached : header.opened.ReachedBy (stateAfter header layout groups)
  region : ∃ region, region <+: (logFormat accepted).write groups ∧
    log.writer.bytes = header.bytes layout ++ region
  healthy : log.writer.poisoned = false →
    log = { header.logOf (header.bytes layout ++ (logFormat accepted).write groups)
        (stateAfter header layout groups) log.writer.script with armedFault :=
          log.armedFault }

variable {layout : PageLayout} {log : FileCommitLog width} {header : LogFileHeader}
  {groups : List (LogGroup width)}

theorem write_group
    (accepted : header.opened.format.supportsPages = true →
      PageLayout.forConst width = .ok layout)
    (groups : List (LogGroup width)) (group : LogGroup width) :
    (logFormat accepted).write (groups ++ [group]) = (logFormat accepted).write groups ++
      encode (logGroupFrames header.opened.format layout group) := by
  rw [Format.write_append]
  simp [Format.write, logFormat, commitLogFormat]

/-- In memory as on file, a marker is found at the record it names. -/
theorem findIdx_position {records : List (FileLogRecord width)} {lineage : LogLineage}
    (own : ∀ record ∈ records, record.position.lineage = lineage) (position : U64) :
    records.findIdx (fun record => record.position = lineage.position position) =
      records.findIdx (fun record => record.position.get = position) := by
  induction records with
  | nil => rfl
  | cons record records induction =>
      have rest :=
        induction fun other member => own other (List.mem_cons_of_mem record member)
      have here : record.position = lineage.position position ↔
          record.position.get = position := by
        rw [LogSequenceNumber.eq_position (own record List.mem_cons_self)]
        simp [LogLineage.position]
      simp only [List.findIdx_cons, here, rest]

theorem logOf_afterGroup {state : OpenState width} {file : List UInt8}
    {script : List IoResult} {armed : Option FaultPoint}
    (log_eq : log = { header.logOf file state script with armedFault := armed })
    (own : ∀ record ∈ state.records,
      record.position.lineage = .persistent header.opened.persistentId)
    (group : LogGroup width) (later : List UInt8) (rest : List IoResult)
    (left : Option FaultPoint) :
    { log.afterGroup group with
        writer := { bytes := later, script := rest, poisoned := false }
        armedFault := left } =
      { header.logOf later (state.afterGroup group) rest with armedFault := left } := by
  rw [log_eq]
  cases group with
  | epoch epoch => rfl
  | record record => rfl
  | marker position =>
      exact congrArg (fun index => ({ header.logOf later state rest with
        durableLen := index + 1
        armedFault := left } : FileCommitLog width)) (findIdx_position own position)

/-- Opening the file of a log finds the log: its records, counters and identity. -/
def ReopensExactly (layout : PageLayout) (log : FileCommitLog width) : Prop :=
  log.writer.poisoned = false → ∀ script,
    inspectInternal width (.forFormat layout log.format) log.writer.bytes script =
      .ok {
        log := { log with
          writer := { log.writer with script }
          armedFault := none }
        repairedLen := none }

namespace Wrote

theorem sound (wrote : Wrote layout log header groups) :
    (stateAfter header layout groups).Sound header.opened.format layout
      header.opened.first :=
  sound_stateAfter wrote.accepted wrote.readable

theorem lineage_eq (wrote : Wrote layout log header groups) :
    ∀ record ∈ (stateAfter header layout groups).records,
      record.position.lineage = .persistent header.opened.persistentId := by
  intro record member
  rw [wrote.sound.lineage_eq record member, (stateAfter_constants header layout groups).1]

theorem admits (wrote : Wrote layout log header groups)
    (healthy : log.writer.poisoned = false) {operation : LogOperation}
    (permitted : log.Permitted operation) {group : LogGroup width}
    (isOffer : log.offered operation = some group) (begins : log.Begins group) :
    (stateAfter header layout groups).Admits header.opened.format layout group := by
  have log_eq := wrote.healthy healthy
  have sound := wrote.sound
  have lineage := (stateAfter_constants header layout groups).1
  have pageLayout := (stateAfter_constants header layout groups).2
  generalize stateAfter header layout groups = state at log_eq sound lineage pageLayout
  have allocated {epoch : NonZeroU64} (allocated : log.Allocated epoch) :
      epoch.get ≤ state.highestAllocatedEpoch := by
    rw [log_eq] at allocated
    have allocated : ∀ next ∈ state.nextEpoch, epoch.get < next.get := allocated
    rw [Fin.le_def]
    cases next : NonZeroU64.checkedNext state.highestAllocatedEpoch with
    | none =>
        have bound := epoch.get.isLt
        have greatest := NonZeroU64.checkedNext_eq_none.mp next
        rw [u64Max] at greatest
        omega
    | some later =>
        have below := Fin.lt_def.mp (allocated later (sound.nextEpoch.trans next))
        have advanced := NonZeroU64.checkedNext_eq_some.mp next
        omega
  have nextEpoch : log.nextEpoch = state.nextEpoch :=
    congrArg FileCommitLog.nextEpoch log_eq
  have nextPosition : log.nextPosition = state.nextPosition :=
    congrArg FileCommitLog.nextPosition log_eq
  have records : log.records = state.records := congrArg FileCommitLog.records log_eq
  have format : log.format = header.opened.format := congrArg FileCommitLog.format log_eq
  have ownLineage : log.lineage = state.lineage :=
    (congrArg FileCommitLog.lineage log_eq).trans lineage.symm
  have durableLen : log.durableLen = state.durableLen :=
    congrArg FileCommitLog.durableLen log_eq
  cases group with
  | epoch epoch => exact nextEpoch.symm.trans begins
  | record record =>
      rcases begins with ⟨own, next, paged, transactional⟩
      rw [format] at paged transactional
      have advanced := checkedSucc_eq_some.mp
        (sound.next.symm.trans (nextPosition.symm.trans next))
      refine {
        lineage_eq := own.trans ownLineage
        next := nextPosition.symm.trans next
        position_ne_zero := ?_
        kind := ?_ }
      · intro zero
        rw [zero] at advanced
        simp at advanced
      · cases operation with
        | allocateTransactionEpochFrame => simp [offered] at isOffer
        | flushThrough position => simp [offered] at isOffer
        | armFault fault => simp [offered] at isOffer
        | appendCommit transactionId =>
            simp only [offered, next, Option.map_some, Option.some.injEq,
              LogGroup.record.injEq] at isOffer
            rw [← isOffer]
            rcases permitted with ⟨isAllocated, fresh⟩
            rw [records] at fresh
            exact ⟨⟨transactionId.epoch.nonzero, allocated isAllocated,
              transactionId.sequence.nonzero⟩, fresh⟩
        | appendPage page =>
            simp only [offered, next, Option.map_some, Option.some.injEq,
              LogGroup.record.injEq] at isOffer
            have supports := paged (storedPage width page) (by rw [← isOffer]; rfl)
            rw [← isOffer]
            exact ⟨supports, pageLayout.trans (pageLayout_forFormat layout supports)⟩
        | appendTransactionPage transactionId page =>
            simp only [offered, next, Option.map_some, Option.some.injEq,
              LogGroup.record.injEq] at isOffer
            have supports := transactional (.fromTransactionId transactionId)
              (storedPage width page) (by rw [← isOffer]; rfl)
            have supportsPages :=
              LogFormat.supportsPages_of_supportsTransactionPages supports
            rw [← isOffer]
            exact ⟨supports, pageLayout.trans (pageLayout_forFormat layout supportsPages),
              transactionId.epoch.nonzero, allocated permitted,
                transactionId.sequence.nonzero⟩
  | marker position =>
      rcases begins with ⟨index, found, undurable⟩
      rw [records, ownLineage] at found
      rcases List.findIdx?_eq_some_iff_getElem.mp found with ⟨inside, named, _⟩
      have named : state.records[index].position = state.lineage.position position := by
        simpa using named
      have member : state.records[index] ∈ state.records := List.getElem_mem inside
      have get_eq : state.records[index].position.get = position := by
        rw [named]
        rfl
      have position_eq := sound.position_eq (List.getElem?_eq_getElem inside)
      have bounds := sound.mem_le_completed member
      rw [get_eq] at position_eq bounds
      refine {
        advances := ?_
        completed := bounds.2
        recorded := ⟨_, member, get_eq⟩ }
      rw [Fin.lt_def]
      cases durable : state.lastDurablePosition with
      | none =>
          have first := sound.first_pos
          simp only [Option.getD_none, Fin.val_zero]
          omega
      | some last =>
          have reached := sound.durable last durable
          simp only [Option.getD_some]
          omega

theorem after (wrote : Wrote layout log header groups) {operation : LogOperation}
    (permitted : log.Permitted operation) :
    Wrote layout (log.after operation) header
      (groups ++ (log.begun operation).toList) := by
  have effect := log.after_effect wrote.writes operation
  rw [begun]
  generalize log.after operation = final at effect ⊢
  cases effect with
  | kept armedFault =>
      rw [if_pos rfl, Option.toList_none, List.append_nil]
      exact { wrote with
        healthy := fun healthy =>
          congrArg (fun log => { log with armedFault }) (wrote.healthy healthy) }
  | tried group final isOffer begins effect =>
      rw [isOffer]
      cases effect with
      | refused script armedFault reliable =>
          rw [if_pos rfl, Option.toList_none, List.append_nil]
          exact { wrote with
            healthy := fun healthy => congrArg (fun log => { log with
              writer := { log.writer with script }
              armedFault }) (wrote.healthy healthy) }
      | torn written script armedFault isHealthy failing =>
          have log_eq := wrote.healthy isHealthy
          have admits := wrote.admits isHealthy permitted isOffer begins
          have frames : logGroupFrames log.format layout group =
              logGroupFrames header.opened.format layout group := by
            rw [log_eq]
            rfl
          have bytes_eq : log.writer.bytes =
              header.bytes layout ++ (logFormat wrote.accepted).write groups :=
            congrArg (fun log => log.writer.bytes) log_eq
          rw [frames]
          by_cases nothing : log.writer.bytes ++
              (encode (logGroupFrames header.opened.format layout group)).take written =
                log.writer.bytes
          · rw [if_pos nothing, Option.toList_none, List.append_nil]
            exact { wrote with
              region := ⟨(logFormat wrote.accepted).write groups, List.prefix_rfl,
                nothing.trans bytes_eq⟩
              healthy := nofun }
          · rw [if_neg nothing, Option.toList_some]
            refine { wrote with
              readable := (Format.readable_append _).mpr ⟨wrote.readable, admits, trivial⟩
              reached := reached_append wrote.reached admits
              region := ⟨(logFormat wrote.accepted).write groups ++
                (encode (logGroupFrames header.opened.format layout group)).take written,
                  ?_, ?_⟩
              healthy := nofun }
            · rw [write_group]
              exact (List.prefix_append_right_inj _).mpr (List.take_prefix _ _)
            · simp only [bytes_eq, List.append_assoc]
      | appended script armedFault isHealthy reliable =>
          have log_eq := wrote.healthy isHealthy
          have admits := wrote.admits isHealthy permitted isOffer begins
          have frames : logGroupFrames log.format layout group =
              logGroupFrames header.opened.format layout group := by
            rw [log_eq]
            rfl
          have bytes_eq : log.writer.bytes =
              header.bytes layout ++ (logFormat wrote.accepted).write groups :=
            congrArg (fun log => log.writer.bytes) log_eq
          have appended : log.writer.bytes ++
              encode (logGroupFrames log.format layout group) ≠ log.writer.bytes := by
            intro same
            have nothing :
                (encode (logGroupFrames log.format layout group)).length = 0 := by
              simpa using congrArg List.length same
            have some := (commitLogFormat log.format layout fun supports =>
              PageLayout.fits_of_forConst (wrote.writes supports)).frames_ne_nil group
            rw [length_encode] at nothing
            have empty : (logGroupFrames log.format layout group).length = 0 := by omega
            exact some (List.length_eq_zero_iff.mp empty)
          have bytes :
              log.writer.bytes ++ encode
                (logGroupFrames header.opened.format layout group) =
              header.bytes layout ++ (logFormat wrote.accepted).write
                (groups ++ [group]) := by
            rw [bytes_eq, write_group, List.append_assoc]
          rw [if_neg appended, Option.toList_some, frames]
          refine {
            accepted := wrote.accepted
            writes := ?_
            readable := (Format.readable_append _).mpr ⟨wrote.readable, admits, trivial⟩
            reached := reached_append wrote.reached admits
            region :=
              ⟨(logFormat wrote.accepted).write (groups ++ [group]),
                List.prefix_rfl, bytes⟩
            healthy := fun _ => ?_ }
          · cases group with
            | epoch epoch => exact wrote.writes
            | record record => exact wrote.writes
            | marker position => exact wrote.writes
          · rw [bytes, stateAfter_append]
            exact logOf_afterGroup log_eq wrote.lineage_eq group _ script armedFault

theorem reopens (wrote : Wrote layout log header groups) : ReopensExactly layout log := by
  intro healthy script
  have log_eq := wrote.healthy healthy
  have bytes_eq : log.writer.bytes =
      header.bytes layout ++ (logFormat wrote.accepted).write groups :=
    congrArg (fun log => log.writer.bytes) log_eq
  have format : log.format = header.opened.format := congrArg FileCommitLog.format log_eq
  have opens :
      inspectInternal width (.forFormat layout log.format) log.writer.bytes script =
      .ok {
        log := header.logOf
          (header.bytes layout ++ (logFormat wrote.accepted).write groups)
          (stateAfter header layout groups) script
        repairedLen := none } := by
    rw [format, bytes_eq]
    exact inspectInternal_whole wrote.accepted wrote.readable wrote.reached script
  rw [opens]
  have unarmed := congrArg (fun log : FileCommitLog width => { log with
    writer := { bytes := log.writer.bytes, script, poisoned := false }
    armedFault := none }) log_eq
  simp only [healthy]
  exact congrArg (fun log => Except.ok (LockedFileCommitLogOpen.mk log none)) unarmed.symm

end Wrote

/-! ## New logs -/

/-- A log that was just created, whose pages have the layout. -/
inductive Created (layout : PageLayout) (script : List IoResult) :
    {width : Nat} → FileCommitLog width → Prop
  | createNew (persistentId : PersistentLogId) :
      Created layout script (createNew persistentId script)
  | pageCapable {width : Nat} {log : FileCommitLog width} (persistentId : PersistentLogId)
      (accepted : PageLayout.forConst width = .ok layout)
      (created : createNewPageCapable width persistentId script = .ok log) :
      Created layout script log
  | transactionPageCapable {width : Nat} {log : FileCommitLog width}
      (persistentId : PersistentLogId) (accepted : PageLayout.forConst width = .ok layout)
      (created : createNewTransactionPageCapable width persistentId script = .ok log) :
      Created layout script log
  | database {width : Nat} {log : FileCommitLog width} (persistentId : PersistentLogId)
      (identity : DatabaseFileHeaderIdentity)
      (accepted : PageLayout.forConst width = .ok layout)
      (created : createNewDatabaseTransactionPageCapable width persistentId
        identity script = .ok log) :
      Created layout script log

/-- The header of a log that was never reclaimed. -/
def Unreclaimed (header : LogFileHeader) : Prop :=
  header.opened.reclaimedRetainedFirst = none ∧
    header.opened.reclaimedLogicalHighWater = none ∧
    header.opened.allocatedEpochHighWater = none

theorem wrote_unreclaimed {script : List IoResult} (unreclaimed : Unreclaimed header)
    (accepted : header.opened.format.supportsPages = true →
      PageLayout.forConst width = .ok layout)
    (created : log = header.logOf (header.bytes layout)
      (header.seed width layout) script) :
    Wrote layout log header [] where
  accepted
  writes := by
    rw [created]
    exact accepted
  readable := trivial
  reached := by
    intro expected isExpected
    rw [unreclaimed.2.1] at isExpected
    cases isExpected
  region := ⟨[], List.nil_prefix, by rw [created, List.append_nil]; rfl⟩
  healthy _ := by
    have bytes :
        header.bytes layout ++ (logFormat accepted).write [] = header.bytes layout :=
      List.append_nil _
    rw [bytes, created]
    rfl

theorem buildHeaderV1_eq (pageWidth : U64) (persistentId : PersistentLogId) :
    buildHeaderV1 persistentId = buildHeader .v1 persistentId pageWidth := by
  rw [buildHeaderV1, buildHeader, buildHeader]
  simp only [LogFormat.supportsPages, Bool.false_eq_true, if_false]

theorem Created.fresh {script : List IoResult} (created : Created layout script log) :
    log.writer.script = script ∧ log.writer.poisoned = false ∧ log.generation = 0 := by
  cases created with
  | createNew persistentId => exact ⟨rfl, rfl, rfl⟩
  | pageCapable persistentId accepted created =>
      rw [createNewPageCapable, accepted, Except.ok_bind, Except.pure_ok_iff] at created
      rw [← created]
      exact ⟨rfl, rfl, rfl⟩
  | transactionPageCapable persistentId accepted created =>
      rw [createNewTransactionPageCapable, accepted, Except.ok_bind, Except.pure_ok_iff]
        at created
      rw [← created]
      exact ⟨rfl, rfl, rfl⟩
  | database persistentId identity accepted created =>
      rw [createNewDatabaseTransactionPageCapable, accepted, Except.ok_bind,
        Except.pure_ok_iff] at created
      rw [← created]
      exact ⟨rfl, rfl, rfl⟩

theorem wrote_created {script : List IoResult} (created : Created layout script log) :
    ∃ header, Unreclaimed header ∧ Wrote layout log header [] := by
  cases created with
  | createNew persistentId =>
      have unreclaimed : Unreclaimed (.unreclaimed .v1 rfl persistentId) :=
        ⟨rfl, rfl, rfl⟩
      let header : LogFileHeader := .unreclaimed .v1 rfl persistentId
      have created : createNew persistentId script =
          header.logOf (header.bytes layout) (header.seed 0 layout) script := by
        rw [createNew, buildHeaderV1_eq layout.width]
        rfl
      exact ⟨_, unreclaimed, wrote_unreclaimed unreclaimed nofun created⟩
  | pageCapable persistentId accepted created =>
      have unreclaimed : Unreclaimed (.unreclaimed .v2 rfl persistentId) :=
        ⟨rfl, rfl, rfl⟩
      rw [createNewPageCapable, accepted, Except.ok_bind, Except.pure_ok_iff] at created
      exact ⟨_, unreclaimed,
        wrote_unreclaimed unreclaimed (fun _ => accepted) created.symm⟩
  | transactionPageCapable persistentId accepted created =>
      have unreclaimed : Unreclaimed (.unreclaimed .v3 rfl persistentId) :=
        ⟨rfl, rfl, rfl⟩
      rw [createNewTransactionPageCapable, accepted, Except.ok_bind, Except.pure_ok_iff]
        at created
      exact ⟨_, unreclaimed,
        wrote_unreclaimed unreclaimed (fun _ => accepted) created.symm⟩
  | database persistentId identity accepted created =>
      have unreclaimed : Unreclaimed (.database persistentId identity) := ⟨rfl, rfl, rfl⟩
      rw [createNewDatabaseTransactionPageCapable, accepted, Except.ok_bind,
        Except.pure_ok_iff] at created
      exact ⟨_, unreclaimed,
        wrote_unreclaimed unreclaimed (fun _ => accepted) created.symm⟩

/-! ## Runs -/

theorem wrote_run (operations : List LogOperation)
    (wrote : Wrote layout log header groups)
    (permitted : Execution.Respects FileCommitLog.after Permitted log operations) :
    Wrote layout (Execution.run FileCommitLog.after log operations) header
      (groups ++ Execution.emitted FileCommitLog.after begun log operations) := by
  have preserved (log : FileCommitLog width) (groups : List (LogGroup width))
      (operation : LogOperation) (wrote : Wrote layout log header groups)
      (permitted : log.Permitted operation) :=
    wrote.after permitted
  exact Execution.invariant_emitted preserved operations permitted wrote

theorem steady_effect {final : FileCommitLog width} {offer : Option (LogGroup width)}
    (effect : OperationEffect layout log offer final)
    (steady : log.writer.Reliable ∧ log.writer.poisoned = false) :
    final.writer.Reliable ∧ final.writer.poisoned = false := by
  cases effect with
  | kept armedFault => exact steady
  | tried group final isOffer begins effect =>
      cases effect with
      | refused script armedFault reliable => exact ⟨reliable steady.1, steady.2⟩
      | torn written script armedFault isHealthy failing => exact absurd steady.1 failing
      | appended script armedFault isHealthy reliable => exact ⟨reliable steady.1, rfl⟩

theorem steady_run (operations : List LogOperation)
    (wrote : Wrote layout log header groups)
    (permitted : Execution.Respects FileCommitLog.after Permitted log operations)
    (steady : log.writer.Reliable ∧ log.writer.poisoned = false) :
    (Execution.run FileCommitLog.after log operations).writer.poisoned = false := by
  have preserved (log : FileCommitLog width) (operation : LogOperation)
      (holds : (∃ groups, Wrote layout log header groups) ∧
        log.writer.Reliable ∧ log.writer.poisoned = false)
      (permitted : log.Permitted operation) :
      (∃ groups, Wrote layout (log.after operation) header groups) ∧
        (log.after operation).writer.Reliable ∧
          (log.after operation).writer.poisoned = false := by
    rcases holds with ⟨⟨groups, wrote⟩, steady⟩
    exact ⟨⟨_, wrote.after permitted⟩,
      steady_effect (log.after_effect wrote.writes operation) steady⟩
  exact (Execution.invariant_run preserved operations permitted
    ⟨⟨groups, wrote⟩, steady⟩).2.2

/-- Every permitted run on a new log leaves one that reopens exactly; if every
request succeeds, it leaves a healthy one. -/
theorem commit_log_reopens_exactly {initial : FileCommitLog width}
    {script : List IoResult} (created : Created layout script initial)
    (operations : List LogOperation)
    (permitted : Execution.Respects FileCommitLog.after Permitted initial operations) :
    ReopensExactly layout (Execution.run FileCommitLog.after initial operations) ∧
      (script = [] →
        (Execution.run FileCommitLog.after initial operations).writer.poisoned =
          false) := by
  rcases wrote_created created with ⟨header, unreclaimed, wrote⟩
  refine ⟨(wrote_run operations wrote permitted).reopens, fun reliable => ?_⟩
  rcases created.fresh with ⟨script_eq, healthy, _⟩
  exact steady_run operations wrote permitted ⟨script_eq.trans reliable, healthy⟩

theorem forConst_two : PageLayout.forConst 2 = .ok ⟨2, 1, 2⟩ := rfl

theorem commit_log_of_one_commit_reopens :
    ∃ initial : FileCommitLog 2, createNewTransactionPageCapable 2 .min [] = .ok initial ∧
      let operations : List LogOperation :=
        [.allocateTransactionEpochFrame,
          .appendTransactionPage ⟨.min, .min⟩ ⟨⟨.persistent .min, .min⟩, ⟨1⟩, #v[5, 6]⟩,
          .appendCommit ⟨.min, .min⟩, .flushThrough ⟨.persistent .min, 2⟩]
      ReopensExactly ⟨2, 1, 2⟩ (Execution.run FileCommitLog.after initial operations) ∧
        (([] : List IoResult) = [] →
          (Execution.run FileCommitLog.after initial operations).writer.poisoned =
            false) := by
  refine ⟨_, rfl, ?_⟩
  refine commit_log_reopens_exactly (.transactionPageCapable .min forConst_two rfl) _ ?_
  decide +kernel

end Ntsql.Storage.FileCommitLog
