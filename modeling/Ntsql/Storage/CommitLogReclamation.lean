import Ntsql.Storage.CommitLogReclaim
import Ntsql.Storage.CommitLogRun

/-! # What reclaiming leaves

A reclamation is refused, poisons the log, or leaves a log whose file holds
exactly the retained records under a header that continues the counters. -/

namespace Ntsql.Storage

open FrameLog Operation

variable {width : Nat}

namespace ReclamationPlan

def bytes (plan : ReclamationPlan width) : List UInt8 :=
  plan.header.asBytes ++ encode plan.frames

end ReclamationPlan

namespace FileCommitLog

/-! ## Requests -/

/-- The action succeeds with the value or poisons the log. Of the rest only the
script and the armed fault change. -/
def Proceeds {ε α : Type} (action : EStateM ε (FileCommitLog width) α)
    (value : α) : Prop :=
  ∀ log, ∃ script armedFault, (log.writer.Reliable → script = []) ∧
    (action log = .ok value
      { log with writer := { log.writer with script }, armedFault } ∨
      ∃ error, action log = .error error { log with
        writer := { log.writer with script, poisoned := true }, armedFault })

section Requests

variable {ε α β : Type}

theorem Proceeds.bind {action : EStateM ε (FileCommitLog width) α} {value : α}
    {next : α → EStateM ε (FileCommitLog width) β} {result : β}
    (first : Proceeds action value)
    (rest : Proceeds (next value) result) : Proceeds (action >>= next) result := by
  intro log
  rcases first log with ⟨script, armedFault, reliable, succeeds | ⟨error, fails⟩⟩
  · rcases rest { log with writer := { log.writer with script }, armedFault } with
      ⟨later, left, stillReliable, finishes⟩
    refine ⟨later, left, fun isReliable => stillReliable (reliable isReliable), ?_⟩
    rw [bind_of_ok succeeds]
    exact finishes
  · refine ⟨script, armedFault, reliable, .inr ⟨error, ?_⟩⟩
    rw [bind_apply, fails]

theorem Proceeds.pure (value : α) :
    Proceeds (Pure.pure value : EStateM ε (FileCommitLog width) α) value := by
  intro log
  exact ⟨log.writer.script, log.armedFault, id, .inl rfl⟩

theorem reclamationFault_proceeds (point : FaultPoint) :
    Proceeds (reclamationFault point : Reclaim width Unit) () := by
  intro log
  refine ⟨log.writer.script, log.disarmed point, id, ?_⟩
  rw [reclamationFault, bind_of_ok (consumeFault_apply point log)]
  by_cases armed : log.armedFault = some point
  · right
    simp only [armed, decide_true, if_true]
    exact ⟨.injectedFault point, rfl⟩
  · left
    simp only [armed, decide_false, Bool.false_eq_true, if_false]
    rfl

theorem reclamationRequest_proceeds (stage : FileIoStage) :
    Proceeds (reclamationRequest stage : Reclaim width Unit) () := by
  intro log
  rcases AppendFile.syncAll_cases stage true log.writer with
    ⟨script, synced, reliable⟩ | ⟨script, failed, unreliable⟩
  · refine ⟨script, log.armedFault, reliable, .inl ?_⟩
    rw [reclamationRequest, request, synced]
  · refine ⟨script, log.armedFault, fun isReliable => absurd isReliable unreliable,
      .inr ⟨.io stage, ?_⟩⟩
    rw [reclamationRequest, request, failed, Bool.or_true]

variable (width) in
theorem writeCandidate_proceeds {length : Nat}
    (frames : List (FileIoStage × Bytes length)) (candidate : List UInt8) :
    Proceeds (writeCandidate frames candidate : Reclaim width (List UInt8))
      (candidate ++ encode (frames.map Prod.snd)) := by
  intro log
  rcases AppendFile.writeFrames_cases frames
    { bytes := candidate, script := log.writer.script, poisoned := false } with
    ⟨script, wrote, reliable⟩ | ⟨stage, written, script, failed, unreliable⟩
  · refine ⟨script, log.armedFault, reliable, .inl ?_⟩
    rw [writeCandidate, wrote]
  · refine ⟨script, log.armedFault, fun isReliable => absurd isReliable unreliable,
      .inr ⟨.io stage, ?_⟩⟩
    rw [writeCandidate, failed]

theorem writeReclamationHeader_proceeds (header : WalReclamationHeader) :
    Proceeds (writeReclamationHeader [] header : Reclaim width (List UInt8))
      header.asBytes := by
  cases header with
  | v4 header =>
      have written := writeCandidate_proceeds width
        [(FileIoStage.writeReclamationHeader, header)] []
      rw [List.map_singleton, encode_singleton, List.nil_append] at written
      exact written
  | v5 header =>
      have written := writeCandidate_proceeds width
        [(FileIoStage.writeReclamationHeader, header)] []
      rw [List.map_singleton, encode_singleton, List.nil_append] at written
      exact written

theorem createCandidate_proceeds (plan : ReclamationPlan width) :
    Proceeds (createCandidate plan) plan.bytes := by
  have frames := writeCandidate_proceeds width
    (plan.frames.map fun frame => (FileIoStage.writeReclamationFrame, frame))
      plan.header.asBytes
  have written : plan.header.asBytes ++ encode ((plan.frames.map fun frame =>
      (FileIoStage.writeReclamationFrame, frame)).map Prod.snd) = plan.bytes := by
    simp [ReclamationPlan.bytes]
  rw [written] at frames
  rw [createCandidate]
  apply (reclamationFault_proceeds _).bind
  apply (reclamationRequest_proceeds _).bind
  apply (reclamationRequest_proceeds _).bind
  apply (reclamationRequest_proceeds _).bind
  apply (reclamationFault_proceeds _).bind
  apply (writeReclamationHeader_proceeds plan.header).bind
  apply (reclamationFault_proceeds _).bind
  apply frames.bind
  apply (reclamationFault_proceeds _).bind
  apply (reclamationRequest_proceeds _).bind
  apply (reclamationFault_proceeds _).bind
  apply (reclamationFault_proceeds _).bind
  apply (reclamationRequest_proceeds _).bind
  exact .pure _

theorem publishCandidate_proceeds :
    Proceeds (publishCandidate : Reclaim width Unit) () := by
  rw [publishCandidate]
  apply (reclamationFault_proceeds _).bind
  apply (reclamationFault_proceeds _).bind
  apply (reclamationRequest_proceeds _).bind
  exact reclamationRequest_proceeds _

end Requests

def observation (permit : WalReclamationPermit) (plan : ReclamationPlan width) :
    WalReclamationEffectObservation where
  oldGeneration := permit.sourceGeneration
  newGeneration := plan.generation
  physicalFormatVersion := plan.format.version
  retainedFirstLogicalRecord := permit.retainedFirstLogicalRecord
  durableFrontier := permit.durableFrontier
  retainedLogicalRecordCount := plan.records.length
  retainedPhysicalUnitCount := plan.frames.length
  allocatedEpochHighWater := plan.allocatedEpochHighWater

/-- The result of a reclamation: it fails before or after the new file is in
place, or succeeds. -/
inductive ReclaimEffect (log : FileCommitLog width) (permit : WalReclamationPermit) :
    EStateM.Result FileTransactionRestartWalReclamationError (FileCommitLog width)
      WalReclamationEffectObservation → Prop
  | refused (error : FileTransactionRestartWalReclamationError) :
      ReclaimEffect log permit (.error error log)
  | unwritten (error : FileTransactionRestartWalReclamationError) (script : List IoResult)
      (armedFault : Option FaultPoint) :
      ReclaimEffect log permit (.error error { log with
        writer := { log.writer with script, poisoned := true }
        armedFault })
  | unpublished (plan : ReclamationPlan width)
      (planned : log.planReclamation permit = .ok plan)
      (error : FileTransactionRestartWalReclamationError) (script : List IoResult)
      (armedFault : Option FaultPoint) :
      ReclaimEffect log permit (.error error { log with
        writer := { bytes := plan.bytes, script, poisoned := true }
        armedFault })
  | reclaimed (plan : ReclamationPlan width)
      (planned : log.planReclamation permit = .ok plan)
      (script : List IoResult) (armedFault : Option FaultPoint)
      (reliable : log.writer.Reliable → script = []) :
      ReclaimEffect log permit (.ok (observation permit plan) { log.adopt plan with
        writer := { bytes := plan.bytes, script, poisoned := false }
        armedFault })

theorem reclaimRestartWalPrefix_effect (log : FileCommitLog width)
    (permit : WalReclamationPermit) :
    ReclaimEffect log permit (reclaimRestartWalPrefix permit log) := by
  rw [reclaimRestartWalPrefix, get_bind]
  cases planned : log.planReclamation permit with
  | error error => exact .refused error
  | ok plan =>
      rw [check_bind_of_ok rfl]
      rcases createCandidate_proceeds plan log with
        ⟨script, armedFault, reliable, created | ⟨error, failed⟩⟩
      · rw [bind_of_ok created, modify_bind]
        rcases publishCandidate_proceeds { log with
            writer := { log.writer with bytes := plan.bytes, script }, armedFault } with
          ⟨later, left, stillReliable, published | ⟨error, failed⟩⟩
        · rw [bind_of_ok published, modify_bind]
          exact .reclaimed plan planned later left fun isReliable =>
            stillReliable (reliable isReliable)
        · rw [bind_apply, failed]
          exact .unpublished plan planned error later left
      · rw [bind_apply, failed]
        exact .unwritten error script armedFault

/-! ## What was decided -/

/-- What a plan was checked for and made of. -/
structure Planned (log : FileCommitLog width) (permit : WalReclamationPermit)
    (layout : PageLayout) (start : Nat) (plan : ReclamationPlan width) : Prop where
  healthy : log.writer.poisoned = false
  reclaimable : log.format = .v3 ∨ log.format = .v4 ∨ log.format = .v5
  allocated : log.allocatedEpochHighWater = some plan.allocatedEpochHighWater
  frontier : plan.logicalHighWater = log.durablePosition
  durable : log.records.length = log.durableLen
  start_eq : log.retainedStart permit = .ok start
  retainedFirst : plan.retainedFirst = permit.retainedFirstLogicalRecord
  records : plan.records = log.records.drop start
  generation : checkedSucc log.generation = some plan.generation
  width_eq : PageLayout.forConst width = .ok layout
  format : plan.format = if log.format = .v5 then .v5 else .v4
  frames : buildReclamationFramePlan plan.records
    (plan.logicalHighWater.map LogSequenceNumber.get) layout plan.format = .ok plan.frames
  anchor : plan.anchor = permit.selectedCheckpointAnchor
  header : log.reclamationHeader {
    persistentId := log.persistentId
    generation := plan.generation
    retainedFirst := plan.retainedFirst.map LogSequenceNumber.get
    logicalHighWater := plan.logicalHighWater.map LogSequenceNumber.get
    allocatedEpochHighWater := plan.allocatedEpochHighWater
    selectedCheckpointAnchor := plan.anchor } plan.format layout.width = .ok plan.header

theorem planned_of_ok {log : FileCommitLog width} {permit : WalReclamationPermit}
    {plan : ReclamationPlan width} (planned : log.planReclamation permit = .ok plan) :
    ∃ layout start, Planned log permit layout start plan := by
  simp only [planReclamation, Except.bind_ok_iff, rejectIf_ok_iff, okOr_ok_iff,
    Except.mapError_ok_iff, Except.pure_ok_iff] at planned
  rcases planned with
    ⟨_, healthy, _, reclaimable, allocated, isAllocated, _, _, _, durable,
    start, start_eq, generation, isNext, layout, width_eq, frames, frames_eq,
      header, header_eq,
    rfl⟩
  have durable : log.records.length = log.durableLen := not_not.mp durable
  refine ⟨layout, start, {
    healthy := Bool.eq_false_iff.mpr healthy
    reclaimable := ?_
    allocated := isAllocated
    frontier := rfl
    durable
    start_eq
    retainedFirst := rfl
    records := ?_
    generation := isNext
    width_eq
    format := rfl
    frames := frames_eq
    anchor := rfl
    header := header_eq }⟩
  · by_contra other
    exact reclaimable (by simpa using other)
  · rw [← durable, List.take_length]

/-! ## The retained records -/

section Retained

variable {format : LogFormat} {layout : PageLayout} {state : OpenState width}
  {first : Nat}

theorem admitsKind_of_sound {kind : FileLogRecordKind width}
    (sound : state.SoundKind format layout kind)
    (fresh : ∀ transaction, kind = .transactionCommit transaction →
      ∀ record ∈ state.records, record.transactionIdentity ≠ some transaction) :
    state.AdmitsKind format layout kind := by
  cases kind with
  | transactionCommit transaction => exact ⟨sound, fresh transaction rfl⟩
  | pageWrite page => exact sound
  | transactionPageWrite owner page => exact sound

theorem readable_records (fits : format.supportsPages = true → layout.Fits width)
    (sound : state.Sound format layout first) (records : List (FileLogRecord width))
    (own : ∀ record ∈ records, record.position.lineage = state.lineage)
    (positions : records.map (fun record => record.position.get.val) =
      List.range' (first + state.records.length) records.length)
    (kinds : ∀ record ∈ records, state.SoundKind format layout record.kind)
    (unique : (state.records ++ records).Pairwise fun earlier later =>
      ∀ transaction, earlier.transactionIdentity = some transaction →
        later.transactionIdentity ≠ some transaction) :
    (commitLogFormat format layout fits).Readable state (records.map .record) ∧
      ∃ completed next, (records.map LogGroup.record).foldl OpenState.afterGroup state =
        { state with
          records := state.records ++ records
          lastCompletedPosition := completed
          nextPosition := next } := by
  induction records generalizing state with
  | nil => exact ⟨trivial, state.lastCompletedPosition, state.nextPosition, by simp⟩
  | cons record records induction =>
      simp only [List.map_cons, List.length_cons, List.range'_succ, List.cons.injEq]
        at positions
      rcases positions with ⟨position, positions⟩
      have completed := sound.completed
      have advances : record.position.get.val = state.lastCompletedPosition.val + 1 :=
        by omega
      have admits : state.AdmitsRecord format layout record := by
        refine {
          lineage_eq := own record List.mem_cons_self
          next := sound.next.trans (checkedSucc_eq_some.mpr advances)
          position_ne_zero := ?_
          kind := ?_ }
        · intro zero
          rw [zero] at advances
          simp at advances
        · refine admitsKind_of_sound (kinds record List.mem_cons_self) ?_
          intro transaction kind_eq earlier member committed
          have distinct := (List.pairwise_append.mp unique).2.2 earlier member record
            List.mem_cons_self transaction committed
          exact distinct (by rw [FileLogRecord.transactionIdentity, kind_eq])
      have after_eq :
          (state.afterRecord record).records = state.records ++ [record] := rfl
      have grows : state.highestAllocatedEpoch ≤
          (state.afterRecord record).highestAllocatedEpoch := le_rfl
      have rest := induction (sound.afterRecord admits)
        (fun other member => own other (List.mem_cons_of_mem record member))
        (by
          rw [after_eq, List.length_append, List.length_singleton, ← Nat.add_assoc]
          exact positions)
        (fun other member =>
          (kinds other (List.mem_cons_of_mem record member)).mono grows rfl)
        (by rwa [after_eq, List.append_assoc])
      rcases rest with ⟨readable, last, next, folded⟩
      refine ⟨⟨admits, readable⟩, last, next, ?_⟩
      rw [List.map_cons, List.foldl_cons]
      refine folded.trans ?_
      rw [after_eq, List.append_assoc]
      have idle : state.pendingPage = none := sound.idle
      simp [OpenState.afterRecord, idle]

theorem soundKind_reformat {later : LogFormat} {kind : FileLogRecordKind width}
    (supports : later.supportsTransactionPages = true)
    (sound : state.SoundKind format layout kind) : state.SoundKind later layout kind := by
  cases kind with
  | transactionCommit transaction => exact sound
  | pageWrite page =>
      exact ⟨LogFormat.supportsPages_of_supportsTransactionPages supports, sound.2⟩
  | transactionPageWrite owner page => exact ⟨supports, sound.2⟩

end Retained

/-! ## The reclaimed log -/

def openedOf (log : FileCommitLog width) (plan : ReclamationPlan width) :
    OpenedHeader where
  format := plan.format
  persistentId := log.persistentId
  generation := plan.generation
  reclaimedRetainedFirst := plan.retainedFirst.map LogSequenceNumber.get
  reclaimedLogicalHighWater := plan.logicalHighWater.map LogSequenceNumber.get
  allocatedEpochHighWater := some plan.allocatedEpochHighWater
  selectedCheckpointAnchor := some plan.anchor
  databaseFileIdentity := log.databaseFileIdentity
  headerLength := if plan.format = .v5 then 192 else 128

section Reclaimed

variable {layout : PageLayout} {log : FileCommitLog width} {header : LogFileHeader}
  {groups : List (LogGroup width)} {permit : WalReclamationPermit} {start : Nat}
  {plan : ReclamationPlan width}

theorem Planned.format_cases (planned : Planned log permit layout start plan) :
    plan.format = .v4 ∨ plan.format = .v5 := by
  rw [planned.format]
  split
  · exact .inr rfl
  · exact .inl rfl

theorem Planned.supports (planned : Planned log permit layout start plan) :
    plan.format.supportsTransactionPages = true := by
  rcases planned.format_cases with format | format
  · rw [format]
    rfl
  · rw [format]
    rfl

theorem supportsPages_of_reclaimable
    (reclaimable : log.format = .v3 ∨ log.format = .v4 ∨ log.format = .v5) :
    log.format.supportsPages = true := by
  rcases reclaimable with format | format | format
  · rw [format]
    rfl
  · rw [format]
    rfl
  · rw [format]
    rfl

theorem databaseFileIdentity_none (other : header.opened.format ≠ .v5) :
    header.opened.databaseFileIdentity = none := by
  cases header with
  | unreclaimed format known persistentId => rfl
  | database persistentId identity => exact absurd rfl other
  | reclaimed metadata valid => rfl
  | reclaimedDatabase metadata valid identity => exact absurd rfl other

namespace Wrote

section Planned

variable (wrote : Wrote layout log header groups)
  (planned : Planned log permit layout start plan)

include wrote planned

theorem log_eq : log = { header.logOf
      (header.bytes layout ++ (logFormat wrote.accepted).write groups)
      (stateAfter header layout groups) log.writer.script with armedFault :=
        log.armedFault } :=
  wrote.healthy planned.healthy

theorem allocated_eq :
    plan.allocatedEpochHighWater.get =
      (stateAfter header layout groups).highestAllocatedEpoch := by
  have nextEpoch : log.nextEpoch = (stateAfter header layout groups).nextEpoch :=
    congrArg FileCommitLog.nextEpoch (wrote.log_eq planned)
  have counter := nextEpoch.trans wrote.sound.nextEpoch
  have allocated := planned.allocated
  rw [allocatedEpochHighWater, counter] at allocated
  cases next :
    NonZeroU64.checkedNext (stateAfter header layout groups).highestAllocatedEpoch with
  | none =>
      rw [next] at allocated
      have greatest := NonZeroU64.checkedNext_eq_none.mp next
      have same := Option.some.inj allocated
      exact Fin.ext (by rw [← same, greatest]; rfl)
  | some later =>
      rw [next] at allocated
      rcases Option.bind_eq_some_iff.mp allocated with ⟨previous, isPrevious, wrapped⟩
      have before := checkedPred_eq_some.mp isPrevious
      have advanced := NonZeroU64.checkedNext_eq_some.mp next
      have same := NonZeroU64.new_eq_some.mp wrapped
      exact Fin.ext (by rw [same]; omega)

theorem frontier_cases :
    (plan.logicalHighWater = none ∧
        (stateAfter header layout groups).lastCompletedPosition.val = 0) ∨
      (plan.logicalHighWater = some (log.lineage.position
          (stateAfter header layout groups).lastCompletedPosition) ∧
        (stateAfter header layout groups).lastCompletedPosition.val ≠ 0) := by
  have log_eq := wrote.log_eq planned
  have sound := wrote.sound
  have reached := wrote.reached
  have own := wrote.lineage_eq
  generalize stateAfter header layout groups = state at log_eq sound reached own ⊢
  have records : log.records = state.records := congrArg FileCommitLog.records log_eq
  have durableLen : log.durableLen = state.durableLen :=
    congrArg FileCommitLog.durableLen log_eq
  have lineage : log.lineage = .persistent header.opened.persistentId :=
    congrArg FileCommitLog.lineage log_eq
  have highWater :
      log.reclaimedLogicalHighWater = header.opened.reclaimedLogicalHighWater.map
      (LogLineage.persistent header.opened.persistentId).position :=
    congrArg FileCommitLog.reclaimedLogicalHighWater log_eq
  have all : state.records.length = state.durableLen := by
    rw [← records, ← durableLen]
    exact planned.durable
  have completed := sound.completed
  have first := sound.first_pos
  rw [planned.frontier, durablePosition, durableLen, records, ← all, List.take_length,
    highWater, lineage]
  cases last : state.records.getLast? with
  | some record =>
      right
      have member := List.mem_of_getLast? last
      have found : state.records[state.records.length - 1]? = some record := by
        rw [← List.getLast?_eq_getElem?, last]
      have position := sound.position_eq found
      have nonempty : 0 < state.records.length := List.length_pos_of_mem member
      have value : record.position.get = state.lastCompletedPosition := Fin.ext (by omega)
      refine ⟨?_, by omega⟩
      rw [Option.map_some, Option.some_or,
        LogSequenceNumber.eq_position (own record member), value]
  | none =>
      have empty : state.records = [] := List.getLast?_eq_none_iff.mp last
      rw [empty, List.length_nil] at completed
      have unretained : header.opened.reclaimedRetainedFirst = none := by
        cases retained : header.opened.reclaimedRetainedFirst with
        | none => rfl
        | some position =>
            have head :=
              OpenedHeader.retainedFirst_of_reached sound header.ordered reached retained
            rw [empty, List.take_nil] at head
            cases head
      rw [OpenedHeader.first, unretained] at completed first
      cases high : header.opened.reclaimedLogicalHighWater with
      | none =>
          left
          rw [high] at completed
          exact ⟨rfl, by simpa using completed.symm⟩
      | some position =>
          right
          rw [high] at completed
          have value : position = state.lastCompletedPosition := Fin.ext (by
            simpa using completed)
          refine ⟨by rw [value]; rfl, ?_⟩
          intro zero
          have nonzero := header.logicalHighWater_ne_zero
          rw [high, value] at nonzero
          exact nonzero (congrArg some (Fin.ext zero))

theorem start_cases :
    let state := stateAfter header layout groups
    (plan.retainedFirst = none ∧ start = state.records.length) ∨
      ∃ value : U64, plan.retainedFirst = some (log.lineage.position value) ∧
        value.val = header.opened.first + start ∧ start < state.records.length := by
  intro state
  have log_eq := wrote.log_eq planned
  have records : log.records = state.records := congrArg FileCommitLog.records log_eq
  have lineage : log.lineage = .persistent header.opened.persistentId :=
    congrArg FileCommitLog.lineage log_eq
  have start_eq := planned.start_eq
  rw [retainedStart, ← planned.retainedFirst, ← planned.durable, List.take_length,
    records] at start_eq
  cases floor : plan.retainedFirst with
  | none =>
      rw [floor] at start_eq
      exact .inl ⟨rfl, (Except.ok.inj start_eq).symm⟩
  | some position =>
      rw [floor, okOr_ok_iff] at start_eq
      rcases List.findIdx?_eq_some_iff_getElem.mp start_eq with ⟨inside, named, _⟩
      have named : state.records[start].position = position := by simpa using named
      have own := wrote.lineage_eq _ (List.getElem_mem inside)
      have position_eq := wrote.sound.position_eq (List.getElem?_eq_getElem inside)
      rw [named] at own position_eq
      refine .inr ⟨position.get, ?_, position_eq, inside⟩
      rw [lineage, ← LogSequenceNumber.eq_position own]

theorem adopt_nextPosition : (log.adopt plan).nextPosition = log.nextPosition := by
  have counter : log.nextPosition = (stateAfter header layout groups).nextPosition :=
    congrArg FileCommitLog.nextPosition (wrote.log_eq planned)
  rw [counter, wrote.sound.next, adopt]
  rcases wrote.frontier_cases planned with ⟨highWater, zero⟩ | ⟨highWater, _⟩
  · have start : (stateAfter header layout groups).lastCompletedPosition = 0 :=
      Fin.ext zero
    rw [highWater, start]
    rfl
  · rw [highWater]
    rfl

theorem retained_eq_filter : plan.records = log.records.filter fun record =>
    ∃ floor ∈ permit.retainedFirstLogicalRecord, floor.get ≤ record.position.get := by
  have records : log.records = (stateAfter header layout groups).records :=
    congrArg FileCommitLog.records (wrote.log_eq planned)
  rw [planned.records, ← planned.retainedFirst, records]
  rcases wrote.start_cases planned with ⟨floor, whole⟩ | ⟨value, floor, value_eq, inside⟩
  · rw [floor, whole, List.drop_length]
    simp
  · have above {index : Nat} {record : FileLogRecord width}
        (found : (stateAfter header layout groups).records[index]? = some record) :
        value ≤ record.position.get ↔ start ≤ index := by
      have position := wrote.sound.position_eq found
      rw [Fin.le_def]
      omega
    generalize (stateAfter header layout groups).records = records at above inside
    have front :
        (records.take start).filter (fun record => value ≤ record.position.get) = [] := by
      refine List.filter_eq_nil_iff.mpr fun record member reaches => ?_
      rcases List.mem_iff_getElem?.mp member with ⟨index, found⟩
      rw [List.getElem?_take] at found
      split at found
      · have reaches := (above found).mp (of_decide_eq_true reaches)
        omega
      · cases found
    have back : (records.drop start).filter (fun record => value ≤ record.position.get) =
        records.drop start := by
      refine List.filter_eq_self.mpr fun record member => decide_eq_true ?_
      rcases List.mem_iff_getElem?.mp member with ⟨index, found⟩
      rw [List.getElem?_drop] at found
      exact (above found).mpr (Nat.le_add_right start index)
    have whole : records.filter (fun record => value ≤ record.position.get) =
        records.drop start := by
      conv_lhs => rw [← List.take_append_drop start records]
      rw [List.filter_append, front, back, List.nil_append]
    rw [floor, ← whole]
    simp

/-- The metadata of the new header is what a parser accepts, so the header is
one that a log file can have. -/
theorem header_of : ∃ next : LogFileHeader, next.opened = openedOf log plan ∧
    next.bytes layout = plan.header.asBytes := by
  have log_eq := wrote.log_eq planned
  have completed := wrote.sound.completed
  have first := wrote.sound.first_pos
  let metadata : V4HeaderMetadata := {
    persistentId := log.persistentId
    generation := plan.generation
    retainedFirst := plan.retainedFirst.map LogSequenceNumber.get
    logicalHighWater := plan.logicalHighWater.map LogSequenceNumber.get
    allocatedEpochHighWater := plan.allocatedEpochHighWater
    selectedCheckpointAnchor := plan.anchor }
  have valid : metadata.Valid := {
    generation_ne_zero := by
      have advanced := checkedSucc_eq_some.mp planned.generation
      intro zero
      have zero : plan.generation = 0 := zero
      rw [zero] at advanced
      simp at advanced
    retainedFirst_ne_zero := by
      rcases wrote.start_cases planned with ⟨floor, _⟩ | ⟨value, floor, value_eq, _⟩
      · simp [metadata, floor]
      · simp only [metadata, floor, Option.map_some, LogLineage.position_get, ne_eq,
          Option.some.injEq, Fin.ext_iff, Fin.val_zero]
        omega
    logicalHighWater_ne_zero := by
      rcases wrote.frontier_cases planned with ⟨highWater, _⟩ | ⟨highWater, nonzero⟩
      · simp [metadata, highWater]
      · simp only [metadata, highWater, Option.map_some, LogLineage.position_get, ne_eq,
          Option.some.injEq, Fin.ext_iff, Fin.val_zero]
        exact nonzero
    ordered := by
      rcases wrote.start_cases planned with ⟨floor, _⟩ | ⟨value, floor, value_eq, inside⟩
      · simp [metadata, floor, checkRetainedRange]
      · rcases wrote.frontier_cases planned with ⟨_, zero⟩ | ⟨highWater, _⟩
        · omega
        · simp only [metadata, floor, highWater, Option.map_some, LogLineage.position_get,
            checkRetainedRange, rejectIf_ok_iff, Fin.lt_def]
          omega
    anchorVersion_ne_zero := by
      have version := permit.anchorVersion_ne_zero
      rw [← planned.anchor] at version
      exact version }
  have format : log.format = header.opened.format := congrArg FileCommitLog.format log_eq
  have identity : log.databaseFileIdentity = header.opened.databaseFileIdentity :=
    congrArg FileCommitLog.databaseFileIdentity log_eq
  have header_eq := planned.header
  have plan_format := planned.format
  by_cases database : log.format = .v5
  · rw [if_pos database] at plan_format
    rw [reclamationHeader, if_pos plan_format] at header_eq
    simp only [Except.bind_ok_iff, okOr_ok_iff, Except.pure_ok_iff] at header_eq
    rcases header_eq with ⟨file, isFile, built⟩
    refine ⟨.reclaimedDatabase metadata valid file, ?_, ?_⟩
    · simp [LogFileHeader.opened, OpenedHeader.ofV4, openedOf, plan_format, isFile,
        metadata]
    · rw [← built]
      rfl
  · rw [if_neg database] at plan_format
    have other : plan.format ≠ .v5 := by
      rw [plan_format]
      decide
    rw [reclamationHeader, if_neg other, Except.ok.injEq] at header_eq
    have unidentified := identity.trans (databaseFileIdentity_none (format ▸ database))
    refine ⟨.reclaimed metadata valid, ?_, ?_⟩
    · simp [LogFileHeader.opened, OpenedHeader.ofV4, openedOf, plan_format, unidentified,
        metadata]
    · rw [← header_eq]
      rfl

end Planned

end Wrote

/-- The groups of the new file: the retained records and their marker. -/
def keptGroups (plan : ReclamationPlan width) : List (LogGroup width) :=
  plan.records.map .record ++
    if plan.records = [] then [] else (plan.logicalHighWater.map fun position =>
      LogGroup.marker position.get).toList

theorem frames_eq (planned : Planned log permit layout start plan) :
    plan.frames = (keptGroups plan).flatMap (logGroupFrames plan.format layout) := by
  have frames := planned.frames
  rw [buildReclamationFramePlan] at frames
  have records :
      (plan.records.map LogGroup.record).flatMap (logGroupFrames plan.format layout) =
      plan.records.flatMap (recordFrames plan.format layout) := by
    rw [List.flatMap_map]
    rfl
  rw [keptGroups, List.flatMap_append, records]
  by_cases empty : plan.records = []
  · rw [if_pos empty, Except.ok.injEq] at frames
    rw [if_pos empty, ← frames, List.flatMap_nil, List.append_nil]
  · rw [if_neg empty] at frames
    rw [if_neg empty]
    simp only [Except.bind_ok_iff, okOr_ok_iff, Except.pure_ok_iff,
      Option.map_eq_some_iff] at frames
    rcases frames with ⟨_, ⟨position, isHighWater, rfl⟩, frames⟩
    rw [← frames, isHighWater]
    rfl

namespace Wrote

section Next

variable (wrote : Wrote layout log header groups)
  (planned : Planned log permit layout start plan)
  {next : LogFileHeader} (opened : next.opened = openedOf log plan)

include wrote planned opened

theorem first_next : next.opened.first = header.opened.first + start := by
  have completed := wrote.sound.completed
  rw [opened, OpenedHeader.first, openedOf]
  rcases wrote.start_cases planned with ⟨floor, whole⟩ | ⟨value, floor, value_eq, _⟩
  · rcases wrote.frontier_cases planned with ⟨highWater, zero⟩ | ⟨highWater, _⟩
    · simp only [floor, highWater, Option.map_none]
      omega
    · simp only [floor, highWater, Option.map_none, Option.map_some,
        LogLineage.position_get]
      omega
  · simp only [floor, Option.map_some, LogLineage.position_get]
    exact value_eq

theorem readable_retained
    (accepted : next.opened.format.supportsPages = true → PageLayout.forConst width =
      .ok layout) :
    (logFormat accepted).Readable (next.seed width layout) (plan.records.map .record) ∧
      ∃ completed following, stateAfter next layout (plan.records.map .record) =
        { next.seed width layout with
          records := plan.records
          lastCompletedPosition := completed
          nextPosition := following } := by
  have log_eq := wrote.log_eq planned
  have sound := wrote.sound
  have records : log.records = (stateAfter header layout groups).records :=
    congrArg FileCommitLog.records log_eq
  have lineage : log.persistentId = header.opened.persistentId :=
    congrArg FileCommitLog.persistentId log_eq
  have retained :
      plan.records = (stateAfter header layout groups).records.drop start := by
    rw [planned.records, records]
  have member {record : FileLogRecord width} (retains : record ∈ plan.records) :
      record ∈ (stateAfter header layout groups).records := by
    rw [retained] at retains
    exact List.mem_of_mem_drop retains
  have format : next.opened.format = plan.format := by
    rw [opened, openedOf]
  have supports : next.opened.format.supportsTransactionPages = true := by
    rw [format]
    exact planned.supports
  have supportsPages := LogFormat.supportsPages_of_supportsTransactionPages supports
  have grows : (stateAfter header layout groups).highestAllocatedEpoch ≤
      (next.seed width layout).highestAllocatedEpoch := by
    have highest : (next.seed width layout).highestAllocatedEpoch =
        plan.allocatedEpochHighWater.get := by
      rw [LogFileHeader.seed, opened]
      rfl
    rw [highest, wrote.allocated_eq planned]
  have samePages : (next.seed width layout).pageLayout =
      (stateAfter header layout groups).pageLayout := by
    have old : header.opened.format.supportsPages = true := by
      have same : log.format = header.opened.format :=
        congrArg FileCommitLog.format log_eq
      rw [← same]
      exact supportsPages_of_reclaimable planned.reclaimable
    rw [(stateAfter_constants header layout groups).2, pageLayout_forFormat layout old]
    exact pageLayout_forFormat layout supportsPages
  have sameId : next.opened.persistentId = header.opened.persistentId := by
    rw [opened]
    exact lineage
  have seedRecords : (next.seed width layout).records = [] := rfl
  rcases readable_records
    (fun supports => PageLayout.fits_of_forConst (accepted supports))
    (next.sound_seed layout) plan.records
    (by
      intro record retains
      rw [wrote.lineage_eq record (member retains), ← sameId]
      rfl)
    (by
      have positions := congrArg (List.drop start) sound.positions
      rw [← List.map_drop, ← retained, List.drop_range'] at positions
      rw [seedRecords, List.length_nil, Nat.add_zero,
        wrote.first_next planned opened, positions,
        retained, List.length_drop, Nat.mul_one])
    (fun record retains => soundKind_reformat supports
      ((sound.kinds record (member retains)).mono grows samePages))
    (by
      rw [seedRecords, List.nil_append, retained]
      exact sound.unique.sublist (List.drop_sublist _ _)) with
    ⟨readable, completed, following, folded⟩
  exact ⟨readable, completed, following, folded⟩

/-- The new file is read to the end: its records are the retained ones, all of
them durable, and its counters go on where the old ones stopped. -/
theorem readable_kept
    (accepted : next.opened.format.supportsPages = true → PageLayout.forConst width =
      .ok layout) :
    (logFormat accepted).Readable (next.seed width layout) (keptGroups plan) ∧
      next.opened.ReachedBy (stateAfter next layout (keptGroups plan)) ∧
      (stateAfter next layout (keptGroups plan)).records = plan.records ∧
      (stateAfter next layout (keptGroups plan)).durableLen = plan.records.length ∧
      (stateAfter next layout (keptGroups plan)).nextEpoch = log.nextEpoch ∧
      (stateAfter next layout (keptGroups plan)).nextPosition = log.nextPosition := by
  have log_eq := wrote.log_eq planned
  have sound := wrote.sound
  have completed := sound.completed
  have first_next := wrote.first_next planned opened
  have records : log.records = (stateAfter header layout groups).records :=
    congrArg FileCommitLog.records log_eq
  have nextPosition : log.nextPosition = (stateAfter header layout groups).nextPosition :=
    congrArg FileCommitLog.nextPosition log_eq
  have nextEpoch : log.nextEpoch = (stateAfter header layout groups).nextEpoch :=
    congrArg FileCommitLog.nextEpoch log_eq
  have length :
      plan.records.length = (stateAfter header layout groups).records.length - start := by
    rw [planned.records, records, List.length_drop]
  have epoch : (next.seed width layout).nextEpoch = log.nextEpoch := by
    have seed : (next.seed width layout).nextEpoch =
        NonZeroU64.checkedNext plan.allocatedEpochHighWater.get := by
      rw [LogFileHeader.seed, opened]
      rfl
    rw [seed, nextEpoch, sound.nextEpoch, wrote.allocated_eq planned]
  rcases wrote.readable_retained planned opened accepted with
    ⟨readable, last, following, after_eq⟩
  have soundRetained := sound_stateAfter accepted readable
  have lengthAfter := congrArg (fun state => state.records.length) after_eq
  have completedAfter := soundRetained.completed
  rw [after_eq, first_next] at completedAfter
  have completedAfter :
      header.opened.first + start + plan.records.length = last.val + 1 :=
    completedAfter
  by_cases empty : plan.records = []
  · have kept : keptGroups plan = plan.records.map .record := by
      rw [keptGroups, if_pos empty, List.append_nil]
    have whole : start = (stateAfter header layout groups).records.length := by
      rcases wrote.start_cases planned with ⟨_, whole⟩ | ⟨_, _, _, inside⟩
      · exact whole
      · have none : plan.records.length = 0 := by rw [empty, List.length_nil]
        omega
    have last_eq : last = (stateAfter header layout groups).lastCompletedPosition := by
      rw [empty, List.length_nil] at completedAfter
      exact Fin.ext (by omega)
    have position := soundRetained.next
    rw [after_eq] at position
    have position : following = checkedSucc last := position
    have durable : (next.seed width layout).durableLen = plan.records.length := by
      rw [empty]
      rfl
    rw [kept]
    refine ⟨readable, ?_, by rw [after_eq], by rw [after_eq]; exact durable,
      by rw [after_eq]; exact epoch, ?_⟩
    · intro expected isExpected
      have unretained : plan.retainedFirst = none := by
        rcases wrote.start_cases planned with ⟨floor, _⟩ | ⟨_, _, _, inside⟩
        · exact floor
        · omega
      have seeded : (next.seed width layout).lastDurablePosition =
          plan.logicalHighWater.map LogSequenceNumber.get := by
        rw [LogFileHeader.seed, opened, OpenedHeader.openState, openedOf]
        simp [unretained, OpenState.new]
      rw [opened, openedOf] at isExpected
      rw [after_eq]
      exact ⟨expected, seeded.trans isExpected, le_rfl⟩
    · rw [after_eq, nextPosition, sound.next, ← last_eq]
      exact position
  · have nonempty : 0 < plan.records.length := List.length_pos_iff.mpr empty
    have first_pos := sound.first_pos
    rcases wrote.frontier_cases planned with ⟨_, zero⟩ | ⟨highWater, nonzero⟩
    · omega
    have last_eq : last = (stateAfter header layout groups).lastCompletedPosition :=
      Fin.ext (by omega)
    have kept : keptGroups plan = plan.records.map .record ++ [.marker last] := by
      rw [keptGroups, if_neg empty, highWater, last_eq]
      rfl
    have retainedFirst : plan.retainedFirst ≠ none := by
      rcases wrote.start_cases planned with ⟨_, whole⟩ | ⟨value, floor, _, _⟩
      · omega
      · rw [floor]
        exact Option.some_ne_none _
    have undurable : (next.seed width layout).lastDurablePosition = none := by
      rw [LogFileHeader.seed, opened, OpenedHeader.openState, openedOf]
      simp [retainedFirst, OpenState.new]
    have admits :
        (stateAfter next layout (plan.records.map LogGroup.record)).AdmitsMarker
          last := by
      have index : plan.records.length - 1 < plan.records.length := by omega
      have found := List.getElem?_eq_getElem index
      have foundAfter :
          (stateAfter next layout (plan.records.map LogGroup.record)).records[
          plan.records.length - 1]? = some plan.records[plan.records.length - 1] := by
        rw [after_eq]
        exact found
      have position := soundRetained.position_eq foundAfter
      rw [after_eq]
      refine {
        advances := ?_
        completed := le_rfl
        recorded := ⟨_, List.getElem_mem index, Fin.ext (by omega)⟩ }
      rw [undurable, Option.getD_none, Fin.lt_def, Fin.val_zero]
      omega
    have readableKept :
        (logFormat accepted).Readable (next.seed width layout) (keptGroups plan) := by
      rw [kept]
      exact (Format.readable_append _).mpr ⟨readable, admits, trivial⟩
    have soundKept := sound_stateAfter accepted readableKept
    have kept_eq : stateAfter next layout (keptGroups plan) =
        (stateAfter next layout (plan.records.map LogGroup.record)).afterMarker last := by
      rw [kept, stateAfter_append]
      rfl
    have durable := soundKept.durable last (by rw [kept_eq]; rfl)
    have position := soundKept.next
    rw [kept_eq] at durable position
    refine ⟨readableKept, ?_, ?_, ?_, ?_, ?_⟩
    · intro expected isExpected
      rw [opened, openedOf] at isExpected
      have isExpected : plan.logicalHighWater.map LogSequenceNumber.get = some expected :=
        isExpected
      rw [highWater, ← last_eq] at isExpected
      rw [kept_eq]
      exact ⟨last, rfl, (Option.some.inj isExpected).symm.le⟩
    · rw [kept_eq, after_eq]
      rfl
    · rw [kept_eq]
      have reaches : last.val + 1 = next.opened.first + ((stateAfter next layout
          (plan.records.map LogGroup.record)).afterMarker last).durableLen := durable
      omega
    · rw [kept_eq, after_eq]
      exact epoch
    · rw [kept_eq, nextPosition, sound.next, ← last_eq, position, after_eq]
      rfl

end Next

theorem reclaimed (wrote : Wrote layout log header groups)
    (planned : log.planReclamation permit = .ok plan) :
    ∃ next : LogFileHeader, next.opened = openedOf log plan ∧
      (∀ script armedFault, Wrote layout { log with
        writer := { bytes := plan.bytes, script, poisoned := true }
        armedFault } next (keptGroups plan)) ∧
      ∀ script armedFault, Wrote layout { log.adopt plan with
        writer := { bytes := plan.bytes, script, poisoned := false }
        armedFault } next (keptGroups plan) := by
  rcases planned_of_ok planned with ⟨other, start, planned⟩
  have pages := supportsPages_of_reclaimable planned.reclaimable
  have same : other = layout :=
    Except.ok.inj (planned.width_eq.symm.trans (wrote.writes pages))
  rw [same] at planned
  rcases wrote.header_of planned with ⟨next, opened, header_eq⟩
  have accepted : next.opened.format.supportsPages = true →
      PageLayout.forConst width = .ok layout := fun _ => planned.width_eq
  rcases wrote.readable_kept planned opened accepted with
    ⟨readable, reached, records, durableLen, nextEpoch, nextPosition⟩
  have format : next.opened.format = plan.format := by
    rw [opened, openedOf]
  have bytes :
      plan.bytes = next.bytes layout ++ (logFormat accepted).write (keptGroups plan) := by
    rw [ReclamationPlan.bytes, ← header_eq, frames_eq planned, ← format]
    rfl
  have region : ∃ region, region <+: (logFormat accepted).write (keptGroups plan) ∧
      plan.bytes = next.bytes layout ++ region := ⟨_, List.prefix_rfl, bytes⟩
  refine ⟨next, opened, fun script armedFault => ?_, fun script armedFault => ?_⟩
  · exact {
      accepted, readable, reached, region
      writes := wrote.writes
      healthy := nofun }
  · refine {
      accepted, readable, reached, region
      writes := fun _ => planned.width_eq
      healthy := fun _ => ?_ }
    have log_eq := wrote.log_eq planned
    have lineage : log.lineage = .persistent log.persistentId := by
      rw [log_eq]
      rfl
    have retainedFirst :
        (plan.retainedFirst.map LogSequenceNumber.get).map log.lineage.position =
        plan.retainedFirst := by
      rcases wrote.start_cases planned with ⟨floor, _⟩ | ⟨value, floor, _, _⟩
      · rw [floor]
        rfl
      · rw [floor]
        rfl
    have highWater :
        (plan.logicalHighWater.map LogSequenceNumber.get).map log.lineage.position =
        plan.logicalHighWater := by
      rcases wrote.frontier_cases planned with ⟨highWater, _⟩ | ⟨highWater, _⟩
      · rw [highWater]
        rfl
      · rw [highWater]
        rfl
    have position := wrote.adopt_nextPosition planned
    rw [LogFileHeader.logOf, opened, records, durableLen, nextEpoch, nextPosition,
      ← position, ← bytes]
    simp only [openedOf, ← lineage, retainedFirst, highWater]
    rfl

end Wrote

end Reclaimed

end FileCommitLog

end Ntsql.Storage
