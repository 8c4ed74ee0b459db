import Ntsql.Recovery.Invariant.Sound

/-! # Identities are handed out once

Each counter has a set of identities still ahead of it. A step hands out only
what is ahead, leaves it behind, and never brings anything back, so a whole run
hands out strictly increasing positions, transaction identities and epochs. -/

namespace Ntsql.Recovery

variable {model final : RecoveryModel}

open RecoveryModel Operation

def Response.handedPosition : Response → Option WalPosition
  | .position handed => some handed
  | _ => none

/-- The identity a `begin_transaction` reports. -/
def Response.handedTransaction : Response → Option TransactionId
  | .transaction handed => some handed
  | _ => none

/-- The epoch an allocation or a restoration reports. -/
def Response.handedEpoch : Response → Option U64
  | .epoch handed => some handed
  | .restoration summary => some summary.freshEpoch
  | _ => none

namespace RecoveryModel

def response (model : RecoveryModel) (operation : RunOperation) : Option Response :=
  match operation.apply model with
  | .ok response _ => some response
  | .error _ _ => none

/-- What one kind of counter hands out along a run from a fresh model. -/
def handedOut (hands : Response → Option Value) (logId : LogId)
    (operations : List RunOperation) : List Value :=
  Execution.emitted RecoveryModel.after
    (fun model operation => (model.response operation).bind hands) (new logId) operations

def PositionAhead (model : RecoveryModel) (position : WalPosition) : Prop :=
  ∃ next ∈ model.nextPosition, next ≤ position.get

def EpochAhead (model : RecoveryModel) (epoch : U64) : Prop :=
  ∀ highWater ∈ model.epochHighWater, highWater < epoch

/-- An identity of a later epoch, or one the current epoch has not reached. -/
def TransactionAhead (model : RecoveryModel) (id : TransactionId) : Prop :=
  model.EpochAhead id.epoch ∨
    model.currentEpoch = some id.epoch ∧ ∃ next ∈ model.nextSequence, next ≤ id.sequence

theorem Sound.effect_of_response (sound : model.Sound) {operation : RunOperation}
    {hands : Response → Option Value} {value : Value}
    (unapplied : ∀ error, hands (.applied (.unapplied error)) = none)
    (handed : value ∈ (model.response operation).bind hands) :
    ∃ response, Effect model operation response (model.after operation) ∧
      hands response = some value := by
  rcases Option.bind_eq_some_iff.mp handed with ⟨response, responded, hands_value⟩
  unfold RecoveryModel.response at responded
  unfold RecoveryModel.after
  cases outcome : operation.apply model with
  | error error final =>
      rw [outcome] at responded
      cases responded
  | ok answered final =>
      rw [outcome] at responded
      cases responded
      rcases sound.effect_of_ok outcome with effect | ⟨_, error, rfl⟩
      · exact ⟨response, effect, hands_value⟩
      · rw [unapplied error] at hands_value
        cases hands_value

/-- Every effect of an operation hands out only what was ahead, leaves it
behind, and brings nothing back ahead. -/
theorem handedOut_increasing [LT Value] {hands : Response → Option Value}
    {ahead : RecoveryModel → Value → Prop}
    (unapplied : ∀ error, hands (.applied (.unapplied error)) = none)
    (advances : ∀ {model final : RecoveryModel} {operation response}, model.Sound →
      Effect model operation response final →
      (∀ later, ahead final later → ahead model later) ∧
      ∀ value, hands response = some value →
        ahead model value ∧ ∀ later, ahead final later → value < later)
    (logId : LogId) (operations : List RunOperation) :
    (handedOut hands logId operations).Pairwise (· < ·) := by
  refine Execution.emitted_increasing Sound ahead
    (fun _ operation sound _ => sound.after operation) ?_ ?_ ?_ operations
    (Execution.respects_true _ operations) (Sound.new logId)
  · intro model operation value sound _ handed
    rcases sound.effect_of_response unapplied handed with ⟨response, effect, isHanded⟩
    exact ((advances sound effect).2 value isHanded).1
  · intro model operation later sound _ isAhead
    rcases sound.after_cases operation with unchanged | ⟨response, _, effect⟩
    · rwa [unchanged] at isAhead
    · exact (advances sound effect).1 later isAhead
  · intro model operation value later sound _ handed isAhead
    rcases sound.effect_of_response unapplied handed with ⟨response, effect, isHanded⟩
    exact ((advances sound effect).2 value isHanded).2 later isAhead

theorem handedOut_lt_of_ahead [LT Value] {hands : Response → Option Value}
    {ahead : RecoveryModel → Value → Prop}
    (unapplied : ∀ error, hands (.applied (.unapplied error)) = none)
    (advances : ∀ {model final : RecoveryModel} {operation response}, model.Sound →
      Effect model operation response final →
      (∀ later, ahead final later → ahead model later) ∧
      ∀ value, hands response = some value →
        ahead model value ∧ ∀ later, ahead final later → value < later)
    (logId : LogId) (operations : List RunOperation) {later : Value}
    (isAhead : ahead (reached logId operations) later) :
    ∀ value ∈ handedOut hands logId operations, value < later := by
  refine (Execution.emitted_lt_of_ahead Sound ahead
    (fun _ operation sound _ => sound.after operation) ?_ ?_ operations
    (Execution.respects_true _ operations) (Sound.new logId) isAhead).2
  · intro model operation later sound _ isAhead
    rcases sound.after_cases operation with unchanged | ⟨response, _, effect⟩
    · rwa [unchanged] at isAhead
    · exact (advances sound effect).1 later isAhead
  · intro model operation value later sound _ handed isAhead
    rcases sound.effect_of_response unapplied handed with ⟨response, effect, isHanded⟩
    exact ((advances sound effect).2 value isHanded).2 later isAhead

/-! ## Positions -/

theorem PositionAhead.of_next {next : U64} {position : WalPosition}
    (counter : final.nextPosition = checkedSucc next)
    (ahead : final.PositionAhead position) :
    next < position.get := by
  rcases ahead with ⟨following, member, bound⟩
  rw [counter] at member
  exact (lt_of_checkedSucc member).trans_le bound

theorem position_advances {operation : RunOperation} {response : Response}
    (effect : Effect model operation response final) :
    (∀ later, final.PositionAhead later → model.PositionAhead later) ∧
      ∀ position, response.handedPosition = some position →
        model.PositionAhead position ∧ ∀ later, final.PositionAhead later →
          position < later := by
  cases effect with
  | appendTransactionPage live active next
  | appendTransactionCommit live active undecided next
  | appendRawPage live next =>
      refine ⟨fun later ahead => ⟨_, next, (PositionAhead.of_next rfl ahead).le⟩, ?_⟩
      intro position handed
      cases handed
      exact ⟨⟨_, next, le_rfl⟩, fun later ahead => PositionAhead.of_next rfl ahead⟩
  | flushWal live =>
      have same : model.afterFlush.nextPosition = model.nextPosition := by
        unfold afterFlush
        split <;> rfl
      refine ⟨?_, nofun⟩
      intro later ahead
      rwa [PositionAhead, same] at ahead
  | allocateCoordinatorEpoch | beginTransaction | writePageStore |
      publishCheckpoint | crash
  | crashPreservingCompleteWalTail | reopen | select | planReplay | repairPages
  | repairPagesAppliedFault | restoreTransactions | complete |
      analyzeRetention | reclaim =>
      exact ⟨fun later ahead => ahead, nofun⟩

/-! ## Epochs -/

theorem epoch_effect (sound : model.Sound) {operation : RunOperation}
    {response : Response} (effect : Effect model operation response final) :
    (∃ epoch, response.handedEpoch = some epoch ∧
      epochAfter model.epochHighWater = some epoch ∧ final.epochHighWater = some epoch ∧
      final.currentEpoch = some epoch) ∨
    response.handedEpoch = none ∧ final.epochHighWater = model.epochHighWater := by
  cases effect with
  | allocateCoordinatorEpoch live next =>
      have after := sound.transactions.epochNext.symm.trans next
      exact .inl ⟨_, rfl, after, raiseHighWater_of_after after, rfl⟩
  | restoreTransactions repaired fresh found =>
      exact .inl ⟨_, rfl, sound.epochAfter_of_fresh repaired fresh, rfl, rfl⟩
  | flushWal live =>
      refine .inr ⟨rfl, ?_⟩
      unfold afterFlush
      split <;> rfl
  | reclaim analyzed builds => exact .inr ⟨rfl, builds.epochHighWater_eq⟩
  | beginTransaction | appendTransactionPage | appendTransactionCommit | appendRawPage
  | writePageStore | publishCheckpoint | crash | crashPreservingCompleteWalTail | reopen
  | select | planReplay | repairPages | repairPagesAppliedFault | complete |
      analyzeRetention =>
      exact .inr ⟨rfl, rfl⟩

theorem EpochAhead.of_opened {epoch later : U64}
    (after : epochAfter model.epochHighWater = some epoch)
    (highWater : final.epochHighWater = some epoch) (ahead : final.EpochAhead later) :
    model.EpochAhead later ∧ epoch < later := by
  have above := ahead epoch highWater
  exact ⟨fun issued isIssued =>
    (lt_of_epochAfter after issued isIssued).trans above, above⟩

theorem epoch_advances (sound : model.Sound) {operation : RunOperation}
    {response : Response} (effect : Effect model operation response final) :
    (∀ later, final.EpochAhead later → model.EpochAhead later) ∧
      ∀ epoch, response.handedEpoch = some epoch →
        model.EpochAhead epoch ∧ ∀ later, final.EpochAhead later → epoch < later := by
  rcases epoch_effect sound effect with
    ⟨opened, handed, after, highWater, _⟩ | ⟨nothing, same⟩
  · refine ⟨fun later ahead => (ahead.of_opened after highWater).1, ?_⟩
    intro epoch isHanded
    cases handed.symm.trans isHanded
    exact ⟨lt_of_epochAfter after, fun later ahead => (ahead.of_opened after highWater).2⟩
  · refine ⟨?_, ?_⟩
    · intro later ahead
      rwa [EpochAhead, same] at ahead
    · intro epoch isHanded
      cases nothing.symm.trans isHanded

/-! ## Transactions -/

theorem TransactionId.lt_iff {left right : TransactionId} :
    left < right ↔
      left.epoch < right.epoch ∨ left.epoch = right.epoch ∧
        left.sequence < right.sequence :=
  Prod.Lex.toLex_lt_toLex

theorem TransactionAhead.of_opened {epoch : U64} {id : TransactionId}
    (after : epochAfter model.epochHighWater = some epoch)
    (highWater : final.epochHighWater = some epoch)
    (current : final.currentEpoch = some epoch) (ahead : final.TransactionAhead id) :
    model.TransactionAhead id := by
  rcases ahead with later | ⟨isCurrent, _⟩
  · exact .inl (later.of_opened after highWater).1
  · cases current.symm.trans isCurrent
    exact .inl (lt_of_epochAfter after)

theorem TransactionAhead.of_begun {id later : TransactionId}
    (ahead : final.TransactionAhead later) (sound : model.Sound)
    (current : model.currentEpoch = some id.epoch)
    (next : model.nextSequence = some id.sequence)
    (highWater : final.epochHighWater = model.epochHighWater)
    (sameEpoch : final.currentEpoch = model.currentEpoch)
    (sequence : final.nextSequence = checkedSucc id.sequence) :
      model.TransactionAhead later ∧ id < later := by
  have reached := sound.transactions.epochCurrent id.epoch current
  rw [TransactionAhead, EpochAhead, highWater, sameEpoch, sequence] at ahead
  rcases ahead with above | ⟨isCurrent, following, advances, bound⟩
  · exact ⟨.inl above, TransactionId.lt_iff.mpr (.inl (above id.epoch reached))⟩
  · have passed := (lt_of_checkedSucc advances).trans_le bound
    have equal := Option.some.inj (current.symm.trans isCurrent)
    exact ⟨.inr ⟨isCurrent, id.sequence, next, passed.le⟩,
      TransactionId.lt_iff.mpr (.inr ⟨equal, passed⟩)⟩

theorem transaction_advances (sound : model.Sound) {operation : RunOperation}
    {response : Response} (effect : Effect model operation response final) :
    (∀ later, final.TransactionAhead later → model.TransactionAhead later) ∧
      ∀ id, response.handedTransaction = some id →
        model.TransactionAhead id ∧ ∀ later, final.TransactionAhead later →
          id < later := by
  cases effect with
  | allocateCoordinatorEpoch live next =>
      have after := sound.transactions.epochNext.symm.trans next
      exact ⟨fun later ahead => ahead.of_opened after (raiseHighWater_of_after after) rfl,
        nofun⟩
  | restoreTransactions repaired fresh found =>
      have after := sound.epochAfter_of_fresh repaired fresh
      exact ⟨fun later ahead => ahead.of_opened after rfl rfl, nofun⟩
  | beginTransaction live current next fresh =>
      refine ⟨fun later ahead => (ahead.of_begun sound current next rfl rfl rfl).1, ?_⟩
      intro id handed
      cases handed
      exact ⟨.inr ⟨current, _, next, le_rfl⟩,
        fun later ahead => (ahead.of_begun sound current next rfl rfl rfl).2⟩
  | crash running | crashPreservingCompleteWalTail running =>
      refine ⟨?_, nofun⟩
      intro later ahead
      rcases ahead with above | ⟨isCurrent, _⟩
      · exact .inl above
      · cases isCurrent
  | flushWal live =>
      unfold afterFlush
      split <;> exact ⟨fun later ahead => ahead, nofun⟩
  | reclaim analyzed builds =>
      refine ⟨?_, nofun⟩
      intro later ahead
      have highWater : (model.afterReclaim _).epochHighWater = model.epochHighWater :=
        builds.epochHighWater_eq
      rw [TransactionAhead, EpochAhead, highWater] at ahead
      exact ahead
  | appendTransactionPage | appendTransactionCommit | appendRawPage | writePageStore
  | publishCheckpoint | reopen | select | planReplay | repairPages |
      repairPagesAppliedFault
  | complete | analyzeRetention =>
      exact ⟨fun later ahead => ahead, nofun⟩

/-! ## Exhaustion -/

/-- A counter with nothing left makes its operations fail and stays where it
is. -/
structure ReportsExhaustion (model : RecoveryModel) : Prop where
  rawPage : model.IsLive → model.nextPosition = none → ∀ page value version,
    appendRawPage page value version model = .error .positionExhausted model
  transactionPage : model.IsLive → model.nextPosition = none →
    ∀ txn ∈ model.activeTransactions, ∀ page value version,
      appendTransactionPage txn page value version model = .error .positionExhausted model
  transactionCommit : model.IsLive → model.nextPosition = none →
    ∀ txn ∈ model.activeTransactions, txn ∉ model.committedTransactions →
      appendTransactionCommit txn model = .error .positionExhausted model
  sequence : model.IsLive → model.currentEpoch ≠ none → model.nextSequence = none →
    beginTransaction model = .error .sequenceExhausted model
  epoch : model.IsLive → epochAfter model.epochHighWater = none →
    allocateCoordinatorEpoch model = .error .epochExhausted model
  restoration : model.phase = .pagesRepaired → epochAfter model.epochHighWater = none →
    restoreTransactions model = .error .epochExhausted model

end RecoveryModel

theorem allocatePosition_exhausted (exhausted : model.nextPosition = none)
    (next : WalPosition → ModelM α) :
    (allocatePosition >>= next) model = .error .positionExhausted model := by
  have refused : allocatePosition model = .error .positionExhausted model := by
    rw [allocatePosition, get_bind, exhausted]
    rfl
  change EStateM.bind allocatePosition next model = _
  simp [EStateM.bind, refused]

theorem RecoveryModel.Sound.reportsExhaustion (sound : model.Sound) :
    model.ReportsExhaustion := by
  have live :
      ∀ operation, model.IsLive → model.requireLiveOrComplete operation = .ok () :=
    fun operation isLive => requireLiveOrComplete_ok_iff.mpr isLive
  have active : ∀ txn ∈ model.activeTransactions,
      rejectIf (¬model.activeTransactions.contains txn)
        (ModelError.transactionNotFound txn) = .ok () := by
    intro txn member
    rw [rejectIf_ok_iff, not_not]
    exact Std.ExtTreeMap.contains_iff_mem.mpr member
  constructor
  · intro isLive exhausted page value version
    rw [appendRawPage, get_bind, check_bind_of_ok (live _ isLive)]
    exact allocatePosition_exhausted exhausted _
  · intro isLive exhausted txn member page value version
    rw [appendTransactionPage, get_bind, check_bind_of_ok (live _ isLive),
      check_bind_of_ok (active txn member)]
    exact allocatePosition_exhausted exhausted _
  · intro isLive exhausted txn member undecided
    have accepted : rejectIf (model.committedTransactions.contains txn)
        (ModelError.transactionAlreadyCommitted txn) = .ok () := by
      rw [rejectIf_ok_iff]
      exact Std.ExtTreeMap.contains_iff_mem.not.mpr undecided
    rw [appendTransactionCommit, get_bind, check_bind_of_ok (live _ isLive),
      check_bind_of_ok (active txn member), check_bind_of_ok accepted]
    exact allocatePosition_exhausted exhausted _
  · intro isLive current exhausted
    rcases Option.ne_none_iff_exists'.mp current with ⟨epoch, isCurrent⟩
    rw [beginTransaction, get_bind, check_bind_of_ok (live _ isLive),
      check_bind_of_ok ((okOr_ok_iff _ _ _).mpr isCurrent), exhausted]
    rfl
  · intro isLive exhausted
    rw [allocateCoordinatorEpoch, get_bind, check_bind_of_ok (live _ isLive),
      sound.transactions.epochNext, exhausted]
    rfl
  · intro repaired exhausted
    have legal : model.requirePhase [.pagesRepaired] "restore_transactions" = .ok () :=
      requirePhase_ok_iff.mpr (by simp [repaired])
    rw [restoreTransactions, get_bind, check_bind_of_ok legal,
      sound.freshEpoch_eq repaired, exhausted]
    rfl

theorem identities_never_reused (logId : LogId) (operations : List RunOperation) :
    (handedOut Response.handedPosition logId operations).Pairwise (· < ·) ∧
      (handedOut Response.handedTransaction logId operations).Pairwise (· < ·) ∧
      (handedOut Response.handedEpoch logId operations).Pairwise (· < ·) ∧
      DurableLog.Ordered WalRecord.position (reached logId operations).walRecords ∧
      (∀ next ∈ (reached logId operations).nextPosition,
        ∀ record ∈ (reached logId operations).walRecords, record.position.get < next) ∧
      (reached logId operations).ReportsExhaustion := by
  have sound := sound_reached logId operations
  refine ⟨?_, ?_, ?_, sound.log.ordered, sound.log.below, sound.reportsExhaustion⟩
  · exact handedOut_increasing (fun _ => rfl) (fun _ effect => position_advances effect)
      logId operations
  · exact handedOut_increasing (fun _ => rfl)
      (fun sound effect => transaction_advances sound effect) logId operations
  · exact handedOut_increasing (fun _ => rfl)
      (fun sound effect => epoch_advances sound effect) logId operations

end Ntsql.Recovery
