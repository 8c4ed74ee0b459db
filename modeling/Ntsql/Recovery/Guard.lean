import Ntsql.Recovery.Transition.Effect

/-! # The guard behind late checks

Four operations write before their last check: appends and `begin_transaction`
move a counter, repair installs pages, reclamation builds a candidate. The
guard is the invariant that makes each later check pass. Every public
operation keeps it, candidate and open-scenario setters included. -/

namespace Ntsql.Recovery

variable {model final : RecoveryModel}

open RecoveryModel Operation

namespace RecoveryModel

/-- The phases between a reopen and the end of replay. -/
def IsReplaying (model : RecoveryModel) : Prop :=
  model.phase = .unrecovered ∨ model.phase = .selected ∨ model.phase = .replayPlanned

/-- No counter is zero, and every active identity was issued by them. -/
structure Counted (model : RecoveryModel) : Prop where
  positionNonzero : model.nextPosition ≠ some 0
  epochNonzero : model.currentEpoch ≠ some 0
  sequenceNonzero : model.nextSequence ≠ some 0
  nextEpochNonzero : model.nextEpoch ≠ some 0
  epochAdvances : ∀ epoch ∈ model.currentEpoch, ∀ next ∈ model.nextEpoch, epoch < next
  activeIssued : ∀ id ∈ model.activeTransactions, ∃ epoch ∈ model.currentEpoch,
    id.epoch ≤ epoch ∧
      (id.epoch = epoch → ∀ next ∈ model.nextSequence, id.sequence < next)

/-- A WAL candidate waits only in two phases, and what is being replayed
belongs to this log and lineage. -/
structure Poised (model : RecoveryModel) : Prop where
  candidateIdle : model.walCandidate ≠ .absent →
    model.phase = .crashed ∨ model.phase = .retentionAnalyzed
  accepted : model.IsReplaying → ∀ record ∈ model.walRecords, model.Accepts record
  planned : model.phase = .replayPlanned →
    ∃ plan, model.replayPlan = some plan ∧ ∀ record ∈ plan, model.Accepts record

/-- What makes every check after a first write pass. -/
structure Guarded (model : RecoveryModel) : Prop extends Counted model, Poised model

/-- The selected checkpoint's pages and the replay plan fit in one address
space together, as two collections held in memory at once always do. -/
def Resident (model : RecoveryModel) : Prop :=
  ∀ plan ∈ model.replayPlan,
    (model.selectedCheckpoint.elim 0 fun checkpoint => checkpoint.pages.size) +
      plan.length ≤ u64Max

/-- Repair gets through once it has begun. -/
def RepairsInfallibly (model : RecoveryModel) : Prop :=
  model.phase = .replayPlanned →
    ∃ count store, repairPagesInner model = .ok count (model.withStore store)

instance (model : RecoveryModel) : Decidable model.Resident :=
  inferInstanceAs (Decidable (∀ plan ∈ model.replayPlan, _))

theorem guarded_new (logId : LogId) : (new logId).Guarded where
  positionNonzero := by simp [new]
  epochNonzero := by simp [new]
  sequenceNonzero := by simp [new]
  nextEpochNonzero := by simp [new]
  epochAdvances := by simp [new]
  activeIssued := by simp [new]
  candidateIdle := by simp [new]
  accepted := by simp [new, IsReplaying]
  planned := by simp [new]

end RecoveryModel

/-! ## Every success keeps the guard -/

theorem mem_of_getElem? {Key Value : Type} [LinearOrder Key]
    {entries : BTreeMap Key Value}
    {key : Key} {value : Value} (found : entries[key]? = some value) : key ∈ entries := by
  rw [← Std.ExtTreeMap.isSome_getElem?_iff_mem, found]
  rfl

theorem checkedSucc_ne_zero (value : U64) : checkedSucc value ≠ some 0 := by
  intro zero
  have equal := checkedSucc_eq_some.mp zero
  simp at equal

namespace RecoveryModel

theorem IsLive.not_replaying (live : model.IsLive) : ¬model.IsReplaying := by
  rcases live with live | live <;> simp [IsReplaying, live]

theorem Poised.of_live (poised : model.Poised) (live : model.IsLive)
    (candidate : final.walCandidate = model.walCandidate)
    (phase : final.phase = model.phase) :
    final.Poised where
  candidateIdle := by
    rw [candidate, phase]
    exact poised.candidateIdle
  accepted := by
    intro replaying
    exact absurd (by simpa only [IsReplaying, phase] using replaying) live.not_replaying
  planned := by
    intro planned
    exact absurd (.inr (.inr (phase.symm.trans planned))) live.not_replaying

theorem Poised.of_absent (absent : model.walCandidate = .absent)
    (elsewhere : ¬model.IsReplaying) : model.Poised where
  candidateIdle := fun waiting => absurd absent waiting
  accepted := fun replaying => absurd replaying elsewhere
  planned := fun planned => absurd (.inr (.inr planned)) elsewhere

theorem Poised.absent (poised : model.Poised) (notCrashed : model.phase ≠ .crashed)
    (notAnalyzed : model.phase ≠ .retentionAnalyzed) : model.walCandidate = .absent := by
  by_contra waiting
  rcases poised.candidateIdle waiting with crashed | analyzed
  · exact notCrashed crashed
  · exact notAnalyzed analyzed

theorem Counted.allocated (counted : model.Counted) {epoch : U64}
    (next : model.nextEpoch = some epoch) :
    { model with
      nextEpoch := checkedSucc epoch
      currentEpoch := some epoch
      nextSequence := some 1
      epochHighWater := raiseHighWater model.epochHighWater epoch }.Counted where
  positionNonzero := counted.positionNonzero
  epochNonzero := fun zero => counted.nextEpochNonzero (next.trans zero)
  sequenceNonzero := by simp
  nextEpochNonzero := checkedSucc_ne_zero epoch
  epochAdvances := by
    intro current member following advances
    cases member
    exact lt_of_checkedSucc advances
  activeIssued := by
    intro id active
    rcases counted.activeIssued id active with ⟨earlier, member, bound, _⟩
    have below : id.epoch < epoch :=
      bound.trans_lt (counted.epochAdvances earlier member epoch next)
    exact ⟨epoch, rfl, below.le, fun equal => absurd equal below.ne⟩

theorem Counted.begun (counted : model.Counted) {id : TransactionId}
    (current : model.currentEpoch = some id.epoch)
    (next : model.nextSequence = some id.sequence) :
    { model with
      nextSequence := checkedSucc id.sequence
      activeTransactions := model.activeTransactions.insert id [] }.Counted where
  positionNonzero := counted.positionNonzero
  epochNonzero := counted.epochNonzero
  sequenceNonzero := checkedSucc_ne_zero id.sequence
  nextEpochNonzero := counted.nextEpochNonzero
  epochAdvances := counted.epochAdvances
  activeIssued := by
    intro other active
    refine ⟨id.epoch, current, ?_⟩
    rcases Std.ExtTreeMap.mem_insert.mp active with same | earlier
    · cases Std.LawfulEqOrd.eq_of_compare same
      exact ⟨le_rfl, fun _ following advances => lt_of_checkedSucc advances⟩
    · rcases counted.activeIssued other earlier with ⟨epoch, member, bound, below⟩
      rw [current] at member
      cases member
      refine ⟨bound, fun equal following advances => ?_⟩
      exact (below equal id.sequence next).trans (lt_of_checkedSucc advances)

theorem Counted.crashed (counted : model.Counted) (preserve : Bool) :
    (model.afterCrash preserve).Counted where
  positionNonzero := counted.positionNonzero
  epochNonzero := by simp [afterCrash]
  sequenceNonzero := by simp [afterCrash]
  nextEpochNonzero := counted.nextEpochNonzero
  epochAdvances := by simp [afterCrash]
  activeIssued := by simp [afterCrash]

theorem freshEpoch_ne_zero {epoch : U64} (fresh : model.freshEpoch = .ok epoch) :
    epoch ≠ 0 := by
  unfold freshEpoch at fresh
  split at fresh
  · rename_i highWater _
    have next := (okOr_ok_iff _ _ _).mp fresh
    intro zero
    exact checkedSucc_ne_zero highWater (next.trans (congrArg some zero))
  · cases fresh
    decide

theorem Counted.restored (counted : model.Counted) {epoch : U64} (plan : List WalRecord)
    (fresh : model.freshEpoch = .ok epoch) : (model.afterRestore epoch plan).Counted where
  positionNonzero := counted.positionNonzero
  epochNonzero := fun zero => freshEpoch_ne_zero fresh (Option.some.inj zero)
  sequenceNonzero := by simp [afterRestore]
  nextEpochNonzero := checkedSucc_ne_zero epoch
  epochAdvances := by
    intro current member next advances
    cases member
    exact lt_of_checkedSucc advances
  activeIssued := by simp [afterRestore]

theorem accepts_rebrand {record : WalRecord} (accepts : model.Accepts record)
    (lineage : LineageId) :
      (model.afterReopen lineage).Accepts (record.rebrand lineage) where
  logId_eq := accepts.logId_eq
  lineageId_eq := rfl
  shape := accepts.shape

theorem Poised.reopened (valid : model.validateSelectedOnOpen = .ok ())
    (lineage : LineageId) :
    (model.afterReopen lineage).Poised where
  candidateIdle := fun waiting => absurd rfl waiting
  accepted := by
    intro _ record member
    rcases List.mem_map.mp member with ⟨original, present, rfl⟩
    exact accepts_rebrand ((validateSelectedOnOpen_records valid).1 original present)
      lineage
  planned := fun planned => by cases planned

theorem Poised.planned_window (poised : model.Poised)
    (selected : model.phase = .selected) :
    { model with
      replayPlan := some model.replayWindow
      phase := .replayPlanned }.Poised where
  candidateIdle := fun waiting =>
    absurd (poised.absent (by simp [selected]) (by simp [selected])) waiting
  accepted := fun _ => poised.accepted (.inr (.inl selected))
  planned := by
    intro _
    refine ⟨model.replayWindow, rfl, ?_⟩
    intro record member
    exact poised.accepted (.inr (.inl selected)) record 
      (mem_walRecords_of_mem_durable (mem_durable_of_mem_window member))

end RecoveryModel

theorem RecoveryModel.Guarded.effect (guarded : model.Guarded) {operation : RunOperation}
    {response : Response} (effect : Effect model operation response final) :
      final.Guarded := by
  have counted := guarded.toCounted
  have poised := guarded.toPoised
  cases effect with
  | allocateCoordinatorEpoch live next =>
      exact ⟨{ counted.allocated next with }, poised.of_live live rfl rfl⟩
  | beginTransaction live current next fresh =>
      exact ⟨{ counted.begun current next with }, poised.of_live live rfl rfl⟩
  | appendTransactionPage live active next =>
      refine ⟨{ counted with
        positionNonzero := checkedSucc_ne_zero _
        activeIssued := ?_ }, poised.of_live live rfl rfl⟩
      intro id member
      rcases Std.ExtTreeMap.mem_insert.mp member with same | present
      · cases Std.LawfulEqOrd.eq_of_compare same
        exact counted.activeIssued _ (mem_of_getElem? active)
      · exact counted.activeIssued id present
  | appendTransactionCommit live active undecided next =>
      refine ⟨{ counted with
        positionNonzero := checkedSucc_ne_zero _
        activeIssued := ?_ }, poised.of_live live rfl rfl⟩
      intro id member
      exact counted.activeIssued id (Std.ExtTreeMap.mem_of_mem_erase member)
  | appendRawPage live next =>
      exact ⟨{ counted with positionNonzero := checkedSucc_ne_zero _ },
        poised.of_live live rfl rfl⟩
  | flushWal live =>
      unfold afterFlush
      split
      · exact ⟨{ counted with }, poised.of_live live rfl rfl⟩
      · exact guarded
  | writePageStore live accepted =>
      exact ⟨{ counted with }, poised.of_live live rfl rfl⟩
  | publishCheckpoint live =>
      exact ⟨{ counted with }, poised.of_live live rfl rfl⟩
  | crash running =>
      exact ⟨counted.crashed false,
        ⟨fun _ => .inl rfl, by simp [IsReplaying, afterCrash], by simp [afterCrash]⟩⟩
  | crashPreservingCompleteWalTail running =>
      exact ⟨counted.crashed true,
        ⟨fun _ => .inl rfl, by simp [IsReplaying, afterCrash], by simp [afterCrash]⟩⟩
  | reopen crashed next valid =>
      exact ⟨{ counted with }, Poised.reopened valid _⟩
  | select unrecovered accepted =>
      refine ⟨{ counted with }, ⟨?_, fun _ => poised.accepted (.inl unrecovered), ?_⟩⟩
      · intro waiting
        exact absurd (poised.absent (by simp [unrecovered]) (by simp [unrecovered]))
          waiting
      · intro planned
        cases planned
  | planReplay selected =>
      exact ⟨{ counted with }, poised.planned_window selected⟩
  | repairPages planned found | repairPagesAppliedFault planned found =>
      have absent := poised.absent (by simp [planned]) (by simp [planned])
      exact ⟨{ counted with }, Poised.of_absent absent (by simp [IsReplaying])⟩
  | restoreTransactions repaired fresh found =>
      have absent := poised.absent (by simp [repaired]) (by simp [repaired])
      exact ⟨counted.restored _ fresh,
        Poised.of_absent absent (by simp [IsReplaying, afterRestore])⟩
  | complete restored =>
      have absent := poised.absent (by simp [restored]) (by simp [restored])
      exact ⟨{ counted with }, Poised.of_absent absent (by simp [IsReplaying])⟩
  | analyzeRetention completed fresh selected analyzed =>
      have absent := poised.absent (by simp [completed]) (by simp [completed])
      exact ⟨{ counted with },
        Poised.of_absent absent (by simp [IsReplaying, afterAnalysis])⟩
  | reclaim analyzed builds =>
      exact ⟨{ counted with }, Poised.of_absent rfl (by simp [IsReplaying, afterReclaim])⟩

end Ntsql.Recovery
