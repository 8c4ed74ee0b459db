import Ntsql.Recovery.Invariant.Log

/-! # Transactions along a run

Epochs and identities are issued once, a transaction's pages precede its
commit, and an active transaction lists exactly the pages it has written. -/

namespace Ntsql.Recovery

variable {model final : RecoveryModel}

open RecoveryModel

theorem lt_of_epochAfter {highWater : Option U64} {epoch : U64}
    (next : epochAfter highWater = some epoch) :
      ∀ issued ∈ highWater, issued < epoch := by
  intro issued member
  cases member
  exact lt_of_checkedSucc next

theorem raiseHighWater_of_after {highWater : Option U64} {epoch : U64}
    (next : epochAfter highWater = some epoch) :
      raiseHighWater highWater epoch = some epoch := by
  cases highWater with
  | none => rfl
  | some issued =>
      have above := lt_of_epochAfter next issued rfl
      simp [raiseHighWater, above]

namespace RecoveryModel

theorem Guarded.issued (guarded : model.Guarded)
    (transactions : model.TransactionInvariant) {txn : TransactionId}
    (active : txn ∈ model.activeTransactions) :
      model.Issued txn := by
  rcases guarded.activeIssued txn active with ⟨epoch, isCurrent, bound, below⟩
  refine ⟨⟨epoch, transactions.epochCurrent epoch isCurrent, bound⟩, ?_⟩
  intro current next isNext
  rw [isCurrent] at current
  cases current
  exact below rfl next isNext

theorem not_issued_next {id : TransactionId}
    (current : model.currentEpoch = some id.epoch)
    (next : model.nextSequence = some id.sequence) : ¬model.Issued id := by
  intro issued
  exact (issued.2 current id.sequence next).ne rfl

theorem Issued.newEpoch {txn : TransactionId} {epoch : U64} (issued : model.Issued txn)
    (next : epochAfter model.epochHighWater = some epoch)
    (current : final.currentEpoch = some epoch)
    (highWater : final.epochHighWater = some epoch) : final.Issued txn := by
  rcases issued with ⟨⟨earlier, member, bound⟩, _⟩
  have below : txn.epoch < epoch := bound.trans_lt (lt_of_epochAfter next earlier member)
  refine ⟨⟨epoch, highWater, below.le⟩, ?_⟩
  intro isCurrent
  rw [current] at isCurrent
  cases isCurrent
  exact absurd below (lt_irrefl _)

theorem Issued.crashed {txn : TransactionId} (issued : model.Issued txn)
    (current : final.currentEpoch = none)
    (highWater : final.epochHighWater = model.epochHighWater) : final.Issued txn := by
  refine ⟨?_, fun isCurrent => ?_⟩
  · rw [highWater]
    exact issued.1
  · rw [current] at isCurrent
    cases isCurrent

/-- The published checkpoint never raises the epoch a restoration starts from. -/
theorem freshEpoch_after
    (below : ∀ checkpoint ∈ model.selectedCheckpoint,
      ∀ epoch ∈ checkpoint.transactionSummary.epochHighWater,
        ∃ highWater ∈ model.epochHighWater, epoch ≤ highWater) :
    model.freshEpoch = okOr (epochAfter model.epochHighWater) .epochExhausted := by
  have persisted : model.persistedHighWater = model.epochHighWater := by
    unfold persistedHighWater
    cases selected : model.selectedCheckpoint with
    | none => cases model.epochHighWater <;> rfl
    | some checkpoint =>
        have bounded := below checkpoint selected
        cases raised : checkpoint.transactionSummary.epochHighWater with
        | none => cases model.epochHighWater <;> simp [raised]
        | some epoch =>
            rcases bounded epoch raised with ⟨highWater, isHighWater, bound⟩
            rw [Option.mem_def.mp isHighWater]
            simp only [Option.bind_some, raised, Option.some.injEq]
            split
            · rfl
            · rename_i notAbove
              exact bound.antisymm (not_lt.mp notAbove)
  rw [freshEpoch, persisted]
  cases model.epochHighWater with
  | none => rfl
  | some current => rfl

theorem Sound.freshEpoch_eq (sound : model.Sound)
    (repaired : model.phase = .pagesRepaired) :
    model.freshEpoch = okOr (epochAfter model.epochHighWater) .epochExhausted := by
  apply freshEpoch_after
  rw [sound.phases.selectedSlot (.inr (.inr (.inl repaired)))]
  exact fun checkpoint member => (sound.slot checkpoint member).epochBelow

theorem Sound.epochAfter_of_fresh (sound : model.Sound) {epoch : U64}
    (repaired : model.phase = .pagesRepaired) (fresh : model.freshEpoch = .ok epoch) :
    epochAfter model.epochHighWater = some epoch := by
  rw [sound.freshEpoch_eq repaired] at fresh
  exact (okOr_ok_iff _ _ _).mp fresh

end RecoveryModel

namespace RecoveryModel.TransactionInvariant

theorem new (logId : LogId) : (RecoveryModel.new logId).TransactionInvariant where
  epochCurrent := by simp [RecoveryModel.new]
  epochNext := rfl
  issued := by simp [RecoveryModel.new]
  pagesFirst := by simp [RecoveryModel.new]
  undecided := by simp [RecoveryModel.new]
  listed := by simp [RecoveryModel.new]

theorem quiet (transactions : model.TransactionInvariant)
    (current : ∀ epoch ∈ final.currentEpoch, final.epochHighWater = some epoch)
    (next : final.nextEpoch = epochAfter final.epochHighWater)
    (kept : ∀ record ∈ final.walRecords, ∃ original ∈ model.walRecords,
      original.rebrand record.lineageId = record)
    (issued : ∀ txn, model.Issued txn → final.Issued txn)
    (inactive : final.activeTransactions = ∅) : final.TransactionInvariant where
  epochCurrent := current
  epochNext := next
  issued := by
    intro record member txn isOwner
    rcases kept record member with ⟨original, present, equal⟩
    rw [← equal] at isOwner
    exact issued txn (transactions.issued original present txn isOwner)
  pagesFirst := by
    intro txn page pageMember commit commitMember isPage isCommit
    rcases kept page pageMember with ⟨earlier, earlierMember, pageEqual⟩
    rcases kept commit commitMember with ⟨later, laterMember, commitEqual⟩
    rw [← pageEqual] at isPage ⊢
    rw [← commitEqual] at isCommit ⊢
    exact transactions.pagesFirst txn earlier earlierMember later laterMember
      isPage isCommit
  undecided := by simp [inactive]
  listed := by simp [inactive]

theorem allocate (transactions : model.TransactionInvariant) {epoch : U64}
    (next : model.nextEpoch = some epoch) :
    { model with
      nextEpoch := checkedSucc epoch
      currentEpoch := some epoch
      nextSequence := some 1
      epochHighWater :=
        raiseHighWater model.epochHighWater epoch }.TransactionInvariant := by
  have after : epochAfter model.epochHighWater = some epoch :=
    transactions.epochNext.symm.trans next
  have raised := raiseHighWater_of_after after
  refine { transactions with epochCurrent := ?_, epochNext := ?_, issued := ?_ }
  · intro current member
    cases member
    exact raised
  · change checkedSucc epoch = epochAfter (raiseHighWater model.epochHighWater epoch)
    rw [raised]
    rfl
  · intro record member txn isOwner
    exact (transactions.issued record member txn isOwner).newEpoch after rfl raised

theorem begin (transactions : model.TransactionInvariant) {id : TransactionId}
    (current : model.currentEpoch = some id.epoch)
    (next : model.nextSequence = some id.sequence) :
    { model with
      nextSequence := checkedSucc id.sequence
      activeTransactions :=
        model.activeTransactions.insert id [] }.TransactionInvariant := by
  have unrecorded : ∀ record ∈ model.walRecords, record.transaction ≠ some id := by
    intro record member isOwner
    exact not_issued_next current next (transactions.issued record member id isOwner)
  refine { transactions with issued := ?_, undecided := ?_, listed := ?_ }
  · intro record member txn isOwner
    have issued := transactions.issued record member txn isOwner
    refine ⟨issued.1, fun isCurrent following advances => ?_⟩
    exact (issued.2 isCurrent id.sequence next).trans (lt_of_checkedSucc advances)
  · intro txn active record member isCommit
    rcases Std.ExtTreeMap.mem_insert.mp active with same | earlier
    · cases Std.LawfulEqOrd.eq_of_compare same
      exact unrecorded record member isCommit.2
    · exact transactions.undecided txn earlier record member isCommit
  · intro txn positions found
    by_cases same : id = txn
    · subst same
      rw [Std.ExtTreeMap.getElem?_insert_self] at found
      cases found
      have none : model.walRecords.filter (fun record => record.IsPageOf id) = [] := by
        rw [List.filter_eq_nil_iff]
        intro record member isPage
        exact unrecorded record member (of_decide_eq_true isPage).2
      exact (congrArg (List.map WalRecord.position) none).symm
    · apply transactions.listed txn positions
      simpa [Std.ExtTreeMap.getElem?_insert, same] using found

theorem appendPage (transactions : model.TransactionInvariant) (guarded : model.Guarded)
    {record : WalRecord} {txn : TransactionId} {positions : List WalPosition}
    (isPage : record.IsPageOf txn)
    (active : model.activeTransactions[txn]? = some positions)
    (records : final.walRecords = model.walRecords ++ [record])
    (lists : final.activeTransactions =
      model.activeTransactions.insert txn (positions ++ [record.position]))
    (counters : final.epochHighWater = model.epochHighWater ∧
      final.currentEpoch = model.currentEpoch ∧ final.nextEpoch = model.nextEpoch ∧
      final.nextSequence = model.nextSequence) : final.TransactionInvariant := by
  rcases counters with ⟨highWaters, epochs, nextEpochs, sequences⟩
  have isActive := mem_of_getElem? active
  have issued : ∀ txn, model.Issued txn → final.Issued txn := by
    intro other isIssued
    rw [Issued, highWaters, epochs, sequences]
    exact isIssued
  have remains :
      ∀ other ∈ final.activeTransactions, other ∈ model.activeTransactions := by
    rw [lists]
    intro other member
    rcases Std.ExtTreeMap.mem_insert.mp member with same | earlier
    · cases Std.LawfulEqOrd.eq_of_compare same
      exact isActive
    · exact earlier
  have notCommit : ∀ other, ¬record.IsCommitOf other := by
    intro other isCommit
    have kinds := isPage.1.symm.trans isCommit.1
    cases kinds
  refine ⟨?_, ?_, ?_, ?_, ?_, ?_⟩
  · rw [epochs, highWaters]
    exact transactions.epochCurrent
  · rw [nextEpochs, highWaters]
    exact transactions.epochNext
  · rw [records]
    intro other member owner isOwner
    rcases List.mem_append.mp member with earlier | last
    · exact issued owner (transactions.issued other earlier owner isOwner)
    · rw [List.mem_singleton.mp last, isPage.2] at isOwner
      cases isOwner
      exact issued txn (guarded.issued transactions isActive)
  · rw [records]
    intro owner page pageMember commit commitMember ofPage ofCommit
    rcases List.mem_append.mp commitMember with earlier | last
    · rcases List.mem_append.mp pageMember with earlierPage | lastPage
      · exact transactions.pagesFirst owner page earlierPage commit earlier
          ofPage ofCommit
      · rw [List.mem_singleton.mp lastPage] at ofPage
        have owners := isPage.2.symm.trans ofPage.2
        cases owners
        exact absurd ofCommit (transactions.undecided txn isActive commit earlier)
    · rw [List.mem_singleton.mp last] at ofCommit
      exact absurd ofCommit (notCommit owner)
  · rw [records]
    intro other isActiveOther record' member isCommit
    rcases List.mem_append.mp member with earlier | last
    · exact transactions.undecided other (remains other isActiveOther) record'
        earlier isCommit
    · rw [List.mem_singleton.mp last] at isCommit
      exact notCommit other isCommit
  · rw [records, lists]
    intro other listed found
    rw [List.filter_append, List.map_append]
    by_cases same : txn = other
    · subst same
      rw [Std.ExtTreeMap.getElem?_insert_self] at found
      cases found
      simp [← transactions.listed txn positions active, isPage]
    · have notOwner : ¬record.IsPageOf other :=
        fun ofOther => same (Option.some.inj (isPage.2.symm.trans ofOther.2))
      have earlier : model.activeTransactions[other]? = some listed := by
        simpa [Std.ExtTreeMap.getElem?_insert, same] using found
      simp [← transactions.listed other listed earlier, notOwner]

theorem appendOther (transactions : model.TransactionInvariant) (guarded : model.Guarded)
    {record : WalRecord}
    (above : ∀ earlier ∈ model.walRecords, earlier.position < record.position)
    (notPage : ∀ txn, ¬record.IsPageOf txn)
    (owned : ∀ txn ∈ record.transaction, txn ∈ model.activeTransactions)
    (ended : ∀ txn, record.IsCommitOf txn → txn ∉ final.activeTransactions)
    (records : final.walRecords = model.walRecords ++ [record])
    (remains : ∀ (txn : TransactionId) (positions : List WalPosition),
      final.activeTransactions[txn]? = some positions →
        model.activeTransactions[txn]? = some positions)
    (counters : final.epochHighWater = model.epochHighWater ∧
      final.currentEpoch = model.currentEpoch ∧ final.nextEpoch = model.nextEpoch ∧
      final.nextSequence = model.nextSequence) : final.TransactionInvariant := by
  rcases counters with ⟨highWaters, epochs, nextEpochs, sequences⟩
  have issued : ∀ txn, model.Issued txn → final.Issued txn := by
    intro other isIssued
    rw [Issued, highWaters, epochs, sequences]
    exact isIssued
  refine ⟨?_, ?_, ?_, ?_, ?_, ?_⟩
  · rw [epochs, highWaters]
    exact transactions.epochCurrent
  · rw [nextEpochs, highWaters]
    exact transactions.epochNext
  · rw [records]
    intro other member owner isOwner
    rcases List.mem_append.mp member with earlier | last
    · exact issued owner (transactions.issued other earlier owner isOwner)
    · rw [List.mem_singleton.mp last] at isOwner
      exact issued owner (guarded.issued transactions (owned owner isOwner))
  · rw [records]
    intro owner page pageMember commit commitMember ofPage ofCommit
    rcases List.mem_append.mp pageMember with earlierPage | lastPage
    · rcases List.mem_append.mp commitMember with earlier | last
      · exact transactions.pagesFirst owner page earlierPage commit earlier
          ofPage ofCommit
      · rw [List.mem_singleton.mp last]
        exact above page earlierPage
    · rw [List.mem_singleton.mp lastPage] at ofPage
      exact absurd ofPage (notPage owner)
  · rw [records]
    intro other isActive record' member isCommit
    rcases List.mem_append.mp member with earlier | last
    · rcases Option.isSome_iff_exists.mp
        (Std.ExtTreeMap.isSome_getElem?_iff_mem.mpr isActive) with ⟨positions, found⟩
      exact transactions.undecided other (mem_of_getElem? (remains other positions found))
        record' earlier isCommit
    · rw [List.mem_singleton.mp last] at isCommit
      exact ended other isCommit isActive
  · rw [records]
    intro other positions found
    rw [List.filter_append, List.map_append]
    simp [← transactions.listed other positions (remains other positions found),
      notPage other]

theorem effect (sound : model.Sound) {operation : RunOperation} {response : Response}
    (effect : Effect model operation response final) : final.TransactionInvariant := by
  have transactions := sound.transactions
  have identity : ∀ record ∈ model.walRecords, ∃ original ∈ model.walRecords,
      original.rebrand record.lineageId = record :=
        fun record member => ⟨record, member, rfl⟩
  cases effect with
  | allocateCoordinatorEpoch live next => exact { transactions.allocate next with }
  | beginTransaction live current next fresh =>
      exact { transactions.begin current next with }
  | appendTransactionPage live active next =>
      exact transactions.appendPage sound.guarded ⟨rfl, rfl⟩ active rfl rfl
        ⟨rfl, rfl, rfl, rfl⟩
  | @appendTransactionCommit txn position live active undecided next =>
      refine transactions.appendOther sound.guarded (sound.log.below _ next) ?_
        ?_ ?_ rfl ?_ ⟨rfl, rfl, rfl, rfl⟩
      · intro other isPage
        cases isPage.1
      · intro other isOwner
        cases isOwner
        exact active
      · intro other isCommit
        cases isCommit.2
        intro remains
        exact (Std.ExtTreeMap.mem_erase.mp remains).1 (compare_eq_iff_eq.mpr rfl)
      · intro other positions found
        change (model.activeTransactions.erase txn)[other]? = some positions at found
        by_cases same : txn = other
        · subst same
          simp at found
        · simpa [Std.ExtTreeMap.getElem?_erase, same] using found
  | appendRawPage live next =>
      refine transactions.appendOther sound.guarded (sound.log.below _ next) ?_
        ?_ ?_ rfl ?_ ⟨rfl, rfl, rfl, rfl⟩
      · intro other isPage
        cases isPage.1
      · intro other isOwner
        cases isOwner
      · intro other isCommit
        cases isCommit.2
      · exact fun _ _ found => found
  | flushWal live =>
      unfold afterFlush
      split
      · exact { transactions with }
      · exact transactions
  | writePageStore | publishCheckpoint | select | planReplay | repairPages
  | repairPagesAppliedFault | complete | analyzeRetention =>
      exact { transactions with }
  | crash running | crashPreservingCompleteWalTail running =>
      refine transactions.quiet (by simp [afterCrash]) transactions.epochNext ?_ ?_ rfl
      · exact fun record member =>
          identity record (LogInvariant.mem_afterCrash.mp member).1
      · exact fun txn issued => issued.crashed rfl rfl
  | reopen crashed next valid =>
      have inactive := sound.phases.quiet (by simp [IsLive, crashed])
      refine transactions.quiet transactions.epochCurrent transactions.epochNext
        ?_ ?_ inactive
      · intro record member
        rcases List.mem_map.mp member with ⟨original, present, rfl⟩
        exact ⟨original, present, rfl⟩
      · exact fun txn issued => issued
  | restoreTransactions repaired fresh found =>
      have after := sound.epochAfter_of_fresh repaired fresh
      refine transactions.quiet ?_ rfl identity ?_ rfl
      · intro current member
        exact member
      · exact fun txn issued => issued.newEpoch after rfl rfl
  | reclaim analyzed builds =>
      have highWater : (model.afterReclaim _).epochHighWater = model.epochHighWater :=
        builds.epochHighWater_eq
      have inactive := sound.phases.quiet (by simp [IsLive, analyzed])
      refine transactions.quiet ?_ ?_ ?_ ?_ inactive
      · rw [highWater]
        exact transactions.epochCurrent
      · rw [highWater]
        exact transactions.epochNext
      · exact fun record member => identity record (builds.mem_suffix.mp member).1
      · intro txn issued
        rw [Issued, highWater]
        exact issued

end RecoveryModel.TransactionInvariant

end Ntsql.Recovery
