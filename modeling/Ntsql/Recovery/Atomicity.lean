import Ntsql.Recovery.Guard

/-! # Failed operations change nothing -/

namespace Ntsql.Recovery

variable {model final : RecoveryModel}

open RecoveryModel Operation

/-! ## Atomicity of each operation -/

theorem atomic_allocatePosition (nonzero : model.nextPosition ≠ some 0) :
    Atomic allocatePosition model := by
  apply Atomic.get_bind
  apply Atomic.check_bind
  intro value next
  have next := (okOr_ok_iff _ _ _).mp next
  have valid : value ≠ 0 := by
    intro zero
    exact nonzero (next.trans (congrArg some zero))
  have handedOut : WalPosition.new value = some ⟨value, valid⟩ :=
    WalPosition.new_eq_some.mpr rfl
  apply Atomic.of_infallible
  rw [set_bind, handedOut]
  exact ⟨_, _, rfl⟩

theorem atomic_append {next : WalPosition → ModelM WalPosition}
    (nonzero : model.nextPosition ≠ some 0)
    (infallible : ∀ position middle, ∃ final, next position middle = .ok position final) :
    Atomic (allocatePosition >>= next) model := by
  apply Atomic.bind_infallible (atomic_allocatePosition nonzero)
  intro position middle allocated
  exact ⟨position, infallible position middle⟩

theorem atomic_beginTransaction (guarded : model.Guarded) :
    Atomic beginTransaction model := by
  apply Atomic.get_bind
  apply Atomic.check_bind
  intro _ _
  apply Atomic.check_bind
  intro epoch current
  have current := (okOr_ok_iff _ _ _).mp current
  apply Atomic.check_bind
  intro sequence next
  have next := (okOr_ok_iff _ _ _).mp next
  -- the identity is nonzero and above every active one, so both checks pass
  have epochNonzero : epoch ≠ 0 := by
    intro zero
    exact guarded.epochNonzero (current.trans (congrArg some zero))
  have sequenceNonzero : sequence ≠ 0 := by
    intro zero
    exact guarded.sequenceNonzero (next.trans (congrArg some zero))
  obtain ⟨id, rfl, rfl⟩ :
    ∃ id : TransactionId, id.epoch = epoch ∧ id.sequence = sequence :=
    ⟨⟨epoch, sequence, epochNonzero, sequenceNonzero⟩, rfl, rfl⟩
  have fresh : id ∉ model.activeTransactions := by
    intro active
    rcases guarded.activeIssued id active with ⟨issued, member, _, below⟩
    rw [current] at member
    cases member
    exact (below rfl id.sequence next).ne rfl
  have identified := TransactionId.new_eq_some.mpr (⟨rfl, rfl⟩ :
    id.epoch = id.epoch ∧ id.sequence = id.sequence)
  have unused := (rejectIf_ok_iff _ (ModelError.duplicateTransactionId id) ()).mpr
    (Std.ExtTreeMap.contains_iff_mem.not.mpr fresh)
  apply Atomic.of_infallible
  rw [set_bind, identified]
  exact ⟨_, _, bind_of_ok (check_ok_iff.mpr ⟨unused, rfl⟩)⟩

theorem atomic_flushWal : Atomic flushWal model := by
  apply Atomic.get_bind
  apply Atomic.check_bind
  intro _ _
  cases model.walRecords.getLast? with
  | none => exact Atomic.pure _
  | some record => exact Atomic.of_infallible ⟨_, _, rfl⟩

theorem atomic_selectObserved (minimal : MinimalMetadata) (full : Option FullMetadata) :
    Atomic (selectObserved minimal full) model := by
  apply Atomic.get_bind
  apply Atomic.check_bind
  intro _ _
  apply Atomic.check_bind
  intro _ _
  exact Atomic.of_infallible ⟨_, _, rfl⟩

theorem repairsInfallibly_of_resident (guarded : model.Guarded)
    (resident : model.Resident) :
    model.RepairsInfallibly := by
  intro planned
  rcases guarded.planned planned with ⟨plan, found, accepted⟩
  have heldBound : ∀ checkpoint ∈ model.selectedCheckpoint, checkpoint.pages.size ≤
      model.selectedCheckpoint.elim 0 fun checkpoint => checkpoint.pages.size := by
    intro checkpoint selected
    rw [Option.mem_def.mp selected]
    exact le_rfl
  rcases repairPagesInner_succeeds found accepted heldBound (resident plan found) with
    ⟨count, succeeds⟩
  exact ⟨count, _, succeeds⟩

theorem atomic_repairPages (infallible : model.RepairsInfallibly) :
    Atomic repairPages model := by
  apply Atomic.get_bind
  apply Atomic.check_bind
  intro _ legal
  have planned : model.phase = .replayPlanned :=
    by simpa using requirePhase_ok_iff.mp legal
  rcases infallible planned with ⟨count, store, repaired⟩
  apply Atomic.of_infallible
  rw [bind_of_ok repaired]
  exact ⟨_, _, rfl⟩

theorem atomic_restoreTransactions : Atomic restoreTransactions model := by
  apply Atomic.get_bind
  apply Atomic.check_bind
  intro _ _
  apply Atomic.check_bind
  intro _ _
  apply Atomic.check_bind
  intro _ _
  apply Atomic.check_bind
  intro _ _
  exact Atomic.of_infallible ⟨_, _, rfl⟩

theorem atomic_beginWalCandidate (replacement : WalReplacement) :
    Atomic (beginWalCandidate replacement) model := by
  apply Atomic.get_bind
  apply Atomic.check_bind
  intro _ _
  apply Atomic.check_bind
  intro _ _
  apply Atomic.check_bind
  intro _ _
  apply Atomic.check_bind
  intro _ _
  apply Atomic.check_bind
  intro _ _
  exact Atomic.of_infallible ⟨_, _, rfl⟩

theorem atomic_reclaim : Atomic reclaim model := by
  apply Atomic.get_bind
  apply Atomic.check_bind
  intro _ _
  apply Atomic.check_bind
  intro replacement _
  apply Atomic.bind_infallible (atomic_beginWalCandidate replacement)
  intro _ begun begins
  rcases beginWalCandidate_ok_iff.mp begins with ⟨_, _, rfl⟩
  have advanced := advanceToCompletion_begun
    { model.withCandidate replacement with retentionAnalysis := none } rfl
  rw [modify_bind, bind_of_ok advanced]
  exact ⟨_, _, rfl⟩

theorem atomic_advanceCheckpointCandidate : Atomic advanceCheckpointCandidate model := by
  apply Atomic.get_bind
  cases model.checkpointCandidate with
  | absent => exact Atomic.throw _
  | present snapshot stage entry =>
      apply Atomic.check_bind
      intro _ _
      exact Atomic.of_infallible ⟨_, _, rfl⟩

theorem atomic_advanceWalCandidate : Atomic advanceWalCandidate model := by
  apply Atomic.get_bind
  cases model.walCandidate with
  | absent => exact Atomic.throw _
  | present replacement stage entry =>
      apply Atomic.check_bind
      intro _ _
      exact Atomic.of_infallible ⟨_, _, rfl⟩

theorem atomic_setCheckpointCandidateEntry (entry : CandidateEntry) :
    Atomic (setCheckpointCandidateEntry entry) model := by
  apply Atomic.get_bind
  cases model.checkpointCandidate with
  | absent => exact Atomic.throw _
  | present => exact Atomic.of_infallible ⟨_, _, rfl⟩

theorem atomic_setWalCandidateEntry (entry : CandidateEntry) :
    Atomic (setWalCandidateEntry entry) model := by
  apply Atomic.get_bind
  cases model.walCandidate with
  | absent => exact Atomic.throw _
  | present => exact Atomic.of_infallible ⟨_, _, rfl⟩

theorem atomic_run_operation (guarded : model.Guarded) (operation : RunOperation)
    (infallible : operation = .repairPages → model.RepairsInfallibly) :
    Atomic operation.apply model := by
  cases operation with
  | allocateCoordinatorEpoch =>
      apply Atomic.map
      apply Atomic.get_bind
      apply Atomic.check_bind
      intro _ _
      apply Atomic.check_bind
      intro _ _
      exact Atomic.of_infallible ⟨_, _, rfl⟩
  | beginTransaction => exact (atomic_beginTransaction guarded).map
  | appendTransactionPage txn page value version =>
      apply Atomic.map
      apply Atomic.get_bind
      apply Atomic.check_bind
      intro _ _
      apply Atomic.check_bind
      intro _ _
      exact atomic_append guarded.positionNonzero fun _ _ => ⟨_, rfl⟩
  | appendTransactionCommit txn =>
      apply Atomic.map
      apply Atomic.get_bind
      apply Atomic.check_bind
      intro _ _
      apply Atomic.check_bind
      intro _ _
      apply Atomic.check_bind
      intro _ _
      exact atomic_append guarded.positionNonzero fun _ _ => ⟨_, rfl⟩
  | appendRawPage page value version =>
      apply Atomic.map
      apply Atomic.get_bind
      apply Atomic.check_bind
      intro _ _
      exact atomic_append guarded.positionNonzero fun _ _ => ⟨_, rfl⟩
  | flushWal => exact atomic_flushWal.map
  | writePageStore position =>
      apply Atomic.map
      apply Atomic.get_bind
      apply Atomic.check_bind
      intro _ _
      apply Atomic.check_bind
      intro _ _
      exact Atomic.of_infallible ⟨_, _, rfl⟩
  | publishCheckpoint anchor =>
      exact (Atomic.get_bind (Atomic.check_set _)).map
  | crash => exact (Atomic.get_bind (Atomic.check_set _)).map
  | crashPreservingCompleteWalTail =>
      exact (Atomic.get_bind (Atomic.check_set _)).map
  | reopen =>
      apply Atomic.map
      apply Atomic.get_bind
      apply Atomic.check_bind
      intro _ _
      apply Atomic.check_bind
      intro _ _
      apply Atomic.check_bind
      intro _ _
      apply Atomic.check_bind
      intro _ _
      exact Atomic.of_infallible ⟨_, _, rfl⟩
  | select => exact (Atomic.get_bind (atomic_selectObserved _ _)).map
  | planReplay =>
      apply Atomic.map
      apply Atomic.get_bind
      apply Atomic.check_bind
      intro _ _
      exact Atomic.of_infallible ⟨_, _, rfl⟩
  | repairPages => exact (atomic_repairPages (infallible rfl)).map
  | repairPagesFault =>
      apply Atomic.map
      apply Atomic.get_bind
      apply Atomic.check_bind
      intro _ _
      exact Atomic.throw _
  | repairPagesAppliedFault =>
      apply Atomic.map
      apply Atomic.of_infallible
      simp only [repairPagesAppliedFault]
      split
      · exact ⟨_, _, rfl⟩
      · split <;> exact ⟨_, _, rfl⟩
  | restoreTransactions => exact atomic_restoreTransactions.map
  | complete => exact (Atomic.get_bind (Atomic.check_set _)).map
  | analyzeRetention =>
      apply Atomic.map
      apply Atomic.get_bind
      apply Atomic.check_bind
      intro _ _
      apply Atomic.check_bind
      intro _ _
      apply Atomic.check_bind
      intro _ _
      apply Atomic.check_bind
      intro _ _
      apply Atomic.check_bind
      intro _ _
      exact Atomic.of_infallible ⟨_, _, rfl⟩
  | reclaim => exact atomic_reclaim.map

theorem atomic_public_operation (guarded : model.Guarded) (operation : PublicOperation)
    (infallible : operation = .ordinary .repairPages → model.RepairsInfallibly) :
    Atomic operation.apply model := by
  cases operation with
  | ordinary operation =>
      exact atomic_run_operation guarded operation fun same =>
        infallible (congrArg _ same)
  | selectObserved minimal full => exact (atomic_selectObserved minimal full).map
  | beginCheckpointCandidate snapshot =>
      exact (Atomic.get_bind (Atomic.check_set _)).map
  | advanceCheckpointCandidate => exact atomic_advanceCheckpointCandidate.map
  | setCheckpointCandidateEntry entry =>
      exact (atomic_setCheckpointCandidateEntry entry).map
  | beginWalCandidate replacement => exact (atomic_beginWalCandidate replacement).map
  | advanceWalCandidate => exact atomic_advanceWalCandidate.map
  | setWalCandidateEntry entry => exact (atomic_setWalCandidateEntry entry).map
  | setSelectedEntriesForOpen wal checkpoint =>
      exact (Atomic.get_bind (Atomic.check_set _)).map
  | setCheckpointCandidateForOpen candidate =>
      exact (Atomic.get_bind (Atomic.check_set _)).map
  | setWalCandidateForOpen candidate =>
      exact (Atomic.get_bind (Atomic.check_set _)).map

/-! ## The guard along public runs -/

namespace RecoveryModel

theorem Guarded.sameButStore (guarded : model.Guarded) (same : model.SameButStore final) :
    final.Guarded := by
  rcases same with ⟨store, rfl⟩
  exact ⟨{ guarded.toCounted with }, { guarded.toPoised with }⟩

theorem Guarded.ordinary (guarded : model.Guarded) {operation : RunOperation}
    {response : Response} (succeeds : operation.apply model = .ok response final) :
    final.Guarded := by
  rcases effect_of_ok succeeds with effect | ⟨error, _, rfl | ⟨_, failed⟩⟩
  · exact guarded.effect effect
  · exact guarded
  · have relates := repairPagesInner_relates model
    rw [failed] at relates
    exact guarded.sameButStore relates

theorem Poised.selected (poised : model.Poised)
    (unrecovered : model.phase = .unrecovered) :
    { model with
      selectedCheckpoint := model.checkpointSlot
      phase := .selected }.Poised where
  candidateIdle := fun waiting =>
    absurd (poised.absent (by simp [unrecovered]) (by simp [unrecovered])) waiting
  accepted := fun _ => poised.accepted (.inl unrecovered)
  planned := fun planned => by cases planned

theorem Poised.waiting (poised : model.Poised) (waiting : model.walCandidate ≠ .absent)
    (phase : final.phase = model.phase) : final.Poised := by
  have idle := poised.candidateIdle waiting
  rw [← phase] at idle
  refine ⟨fun _ => idle, ?_, ?_⟩
  · intro replaying
    rcases idle with idle | idle <;> simp [IsReplaying, idle] at replaying
  · intro planned
    rcases idle with idle | idle <;> simp [idle] at planned

theorem Poised.crashed (phase : model.phase = .crashed) : model.Poised where
  candidateIdle := fun _ => .inl phase
  accepted := fun replaying => by simp [IsReplaying, phase] at replaying
  planned := fun planned => by simp [phase] at planned

theorem Guarded.checkpointStage (guarded : model.Guarded) (snapshot : CheckpointSnapshot)
    (entry : CandidateEntry) (next : ReplacementStage) :
    (model.reachCheckpointStage snapshot entry next).Guarded := by
  unfold reachCheckpointStage
  split
  · exact ⟨{ guarded.toCounted with }, { guarded.toPoised with }⟩
  · exact ⟨{ guarded.toCounted with }, { guarded.toPoised with }⟩

theorem Guarded.walStage (guarded : model.Guarded)
    (waiting : model.walCandidate ≠ .absent) (replacement : WalReplacement)
    (next : ReplacementStage) :
    (model.reachWalStage replacement next).Guarded := by
  have poised : (model.reachWalStage replacement next).Poised := by
    apply guarded.toPoised.waiting waiting
    unfold reachWalStage installReplacement
    split <;> split <;> rfl
  refine ⟨?_, poised⟩
  unfold reachWalStage installReplacement
  split <;> split <;> exact { guarded.toCounted with }

theorem Guarded.succeeds (guarded : model.Guarded) {operation : PublicOperation}
    {response : Response} (succeeds : operation.apply model = .ok response final) :
    final.Guarded := by
  have counted := guarded.toCounted
  have poised := guarded.toPoised
  cases operation with
  | ordinary operation => exact guarded.ordinary succeeds
  | selectObserved minimal full =>
      rcases map_ok_iff.mp succeeds with ⟨_, applied, _⟩
      rcases selectObserved_ok_iff.mp applied with ⟨unrecovered, _, rfl⟩
      exact ⟨{ counted with }, poised.selected unrecovered⟩
  | beginCheckpointCandidate snapshot =>
      rcases map_ok_iff.mp succeeds with ⟨_, applied, _⟩
      rw [Recovery.beginCheckpointCandidate, get_bind] at applied
      rcases check_bind_ok_iff.mp applied with ⟨_, _, written⟩
      cases written
      exact ⟨{ counted with }, { poised with }⟩
  | advanceCheckpointCandidate =>
      rcases map_ok_iff.mp succeeds with ⟨next, applied, _⟩
      rw [Recovery.advanceCheckpointCandidate, get_bind] at applied
      cases candidate : model.checkpointCandidate with
      | absent =>
          rw [candidate] at applied
          cases applied
      | present snapshot stage entry =>
          rw [candidate] at applied
          rcases check_bind_ok_iff.mp applied with ⟨_, _, written⟩
          cases written
          exact guarded.checkpointStage _ _ _
  | setCheckpointCandidateEntry entry =>
      rcases map_ok_iff.mp succeeds with ⟨_, applied, _⟩
      rw [Recovery.setCheckpointCandidateEntry, get_bind] at applied
      cases candidate : model.checkpointCandidate with
      | absent =>
          rw [candidate] at applied
          cases applied
      | present =>
          rw [candidate] at applied
          cases applied
          exact ⟨{ counted with }, { poised with }⟩
  | beginWalCandidate replacement =>
      rcases map_ok_iff.mp succeeds with ⟨_, applied, _⟩
      rcases beginWalCandidate_ok_iff.mp applied with ⟨analyzed, _, rfl⟩
      refine ⟨{ counted with }, ⟨fun _ => .inr analyzed, ?_, ?_⟩⟩
      · exact fun replaying => by simp [IsReplaying, withCandidate, analyzed] at replaying
      · exact fun planned => by simp [withCandidate, analyzed] at planned
  | advanceWalCandidate =>
      rcases map_ok_iff.mp succeeds with ⟨next, applied, _⟩
      rw [Recovery.advanceWalCandidate, get_bind] at applied
      cases candidate : model.walCandidate with
      | absent =>
          rw [candidate] at applied
          cases applied
      | present replacement stage entry =>
          rw [candidate] at applied
          rcases check_bind_ok_iff.mp applied with ⟨_, _, written⟩
          cases written
          exact guarded.walStage (by simp [candidate]) _ _
  | setWalCandidateEntry entry =>
      rcases map_ok_iff.mp succeeds with ⟨_, applied, _⟩
      rw [Recovery.setWalCandidateEntry, get_bind] at applied
      cases candidate : model.walCandidate with
      | absent =>
          rw [candidate] at applied
          cases applied
      | present =>
          rw [candidate] at applied
          cases applied
          exact ⟨{ counted with }, poised.waiting (by simp [candidate]) rfl⟩
  | setSelectedEntriesForOpen wal checkpoint =>
      rcases map_ok_iff.mp succeeds with ⟨_, applied, _⟩
      rw [Recovery.setSelectedEntriesForOpen, get_bind] at applied
      rcases check_bind_ok_iff.mp applied with ⟨_, legal, written⟩
      cases written
      exact ⟨{ counted with }, { poised with }⟩
  | setCheckpointCandidateForOpen candidate =>
      rcases map_ok_iff.mp succeeds with ⟨_, applied, _⟩
      rw [Recovery.setCheckpointCandidateForOpen, get_bind] at applied
      rcases check_bind_ok_iff.mp applied with ⟨_, legal, written⟩
      cases written
      exact ⟨{ counted with }, { poised with }⟩
  | setWalCandidateForOpen candidate =>
      rcases map_ok_iff.mp succeeds with ⟨_, applied, _⟩
      rw [Recovery.setWalCandidateForOpen, get_bind] at applied
      rcases check_bind_ok_iff.mp applied with ⟨_, legal, written⟩
      have crashed : model.phase = .crashed := by simpa using requirePhase_ok_iff.mp legal
      cases written
      exact ⟨{ counted with }, Poised.crashed crashed⟩

/-- Every public operation keeps the guard, whether or not it succeeds. -/
theorem Guarded.afterPublic (guarded : model.Guarded) (operation : PublicOperation) :
    (model.afterPublic operation).Guarded := by
  unfold RecoveryModel.afterPublic
  cases outcome : operation.apply model with
  | ok response final => exact guarded.succeeds outcome
  | error error final =>
      by_cases repairs : operation = .ordinary .repairPages
      · subst repairs
        exact guarded.sameButStore (repairPages_error (map_error_iff.mp outcome))
      · have atomic :=
          atomic_public_operation guarded operation fun same => absurd same repairs
        rw [leaves_error, atomic error final outcome]
        exact guarded

end RecoveryModel

def RecoveryModel.reachedPublic (logId : LogId) (operations : List PublicOperation) :
    RecoveryModel :=
  Execution.run RecoveryModel.afterPublic (RecoveryModel.new logId) operations

theorem guarded_reachedPublic (logId : LogId) (operations : List PublicOperation) :
    (reachedPublic logId operations).Guarded :=
  Execution.invariant_run (fun _ operation guarded _ => guarded.afterPublic operation)
    operations (Execution.respects_true _ operations) (guarded_new logId)

/-- An operation changed nothing although it reported an error, either as its
own failure or as an applied fault that was not applied. -/
def FailsWithoutEffect (model : RecoveryModel) (operation : PublicOperation) : Prop :=
  (∀ error final, operation.apply model = .error error final → final = model) ∧
    ∀ error final, operation.apply model = .ok (.applied (.unapplied error)) final →
      final = model

theorem unapplied_changes_nothing {model final : RecoveryModel}
    (infallible : model.RepairsInfallibly) {operation : PublicOperation}
    {error : ModelError}
    (unapplied : operation.apply model = .ok (.applied (.unapplied error)) final) :
    final = model := by
  cases operation with
  | ordinary operation =>
      rcases effect_of_ok unapplied with effect | ⟨_, _, unchanged | ⟨planned, failed⟩⟩
      · cases effect
      · exact unchanged
      · rcases infallible planned with ⟨count, store, repaired⟩
        rw [repaired] at failed
        cases failed
  | selectObserved | beginCheckpointCandidate | advanceCheckpointCandidate
  | setCheckpointCandidateEntry | beginWalCandidate | advanceWalCandidate
  | setWalCandidateEntry | setSelectedEntriesForOpen | setCheckpointCandidateForOpen
  | setWalCandidateForOpen =>
      rcases map_ok_iff.mp unapplied with ⟨_, _, equal⟩
      cases equal

theorem failed_operation_changes_nothing (logId : LogId)
    (operations : List PublicOperation)
    (resident : (reachedPublic logId operations).Resident) (operation : PublicOperation) :
    FailsWithoutEffect (reachedPublic logId operations) operation := by
  have guarded := guarded_reachedPublic logId operations
  have infallible := repairsInfallibly_of_resident guarded resident
  refine ⟨atomic_public_operation guarded operation fun _ => infallible, ?_⟩
  intro error final unapplied
  exact unapplied_changes_nothing infallible unapplied

/-- With a planned record and a checkpointed page, the applied fault of repair
either repairs or changes nothing. -/
theorem failed_operation_changes_nothing_when_planned :
    FailsWithoutEffect
      (reachedPublic Sample.log
        [.ordinary (.appendRawPage Sample.page 7 Sample.version), .ordinary .flushWal,
          .ordinary (.writePageStore Sample.first),
          .ordinary (.appendRawPage Sample.page 8 Sample.version), .ordinary .flushWal,
          .ordinary (.publishCheckpoint Sample.anchor), .ordinary .crash,
            .ordinary .reopen,
          .ordinary .select, .ordinary .planReplay])
      (.ordinary .repairPagesAppliedFault) :=
  failed_operation_changes_nothing Sample.log _ (by decide +kernel) _

end Ntsql.Recovery
