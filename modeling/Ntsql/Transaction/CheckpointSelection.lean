import Ntsql.Transaction.CheckpointBaseline

/-! # The selected checkpoint

A baseline is compared with an observation field by field, which holds exactly
when the observation is that of the baseline. The anchor is a digest of a
selected baseline that a reclaimed log keeps. -/

namespace Ntsql.Transaction

/-! ## Comparison with an observation -/

def restartCheckpointEntryStateMatches :
    RestartCheckpointBaselineState → RestartCheckpointBaselineStateObservation → Bool
  | .uncommitted, .uncommitted => true
  | .committed expected, .committed actual => expected = actual
  | .uncommitted, .committed _ => false
  | .committed _, .uncommitted => false

def restartCheckpointEntryMatchesObservation (expected : RestartCheckpointBaselineEntry)
    (actual : RestartCheckpointBaselineEntryObservation) : Bool :=
  expected.transaction.epoch.get = actual.epoch &&
  expected.transaction.sequence.get = actual.sequence &&
  expected.firstOwnedPagePosition = actual.firstOwnedPagePosition &&
  expected.lastOwnedPagePosition = actual.lastOwnedPagePosition &&
  expected.ownedPageRecordCount = actual.ownedPageRecordCount &&
  restartCheckpointEntryStateMatches expected.state actual.state

def restartCheckpointPageStateMatchesObservation :
    RestartPageState → RestartCheckpointCompletenessBaselinePageStateObservation → Bool
  | .noRequiredImage, .noRequiredImage => true
  | .storeMissing _, .storeMissing => true
  | .storeCurrent _ _, .storeCurrent => true
  | .storeBehind _ _, .storeBehind => true
  | _, _ => false

def restartCheckpointRequiredImageMatchesObservation :
    Option RestartRequiredPageImage →
      Option RestartCheckpointCompletenessBaselineRequiredImageObservation → Bool
  | none, none => true
  | some (.raw pagePosition), some (.raw actual) => pagePosition = actual
  | some (.committedTransaction transaction pagePosition commitPosition),
    some (.committedTransaction epoch sequence actualPagePosition actualCommitPosition) =>
      transaction.epoch.get = epoch && transaction.sequence.get = sequence &&
        pagePosition = actualPagePosition && commitPosition = actualCommitPosition
  | _, _ => false

def restartCheckpointPageEntryMatchesObservation (expected : RestartPageEntry)
    (actual : RestartCheckpointCompletenessBaselinePageObservation) : Bool :=
  expected.pageNumber.get = actual.pageNumber &&
  restartCheckpointPageStateMatchesObservation expected.state actual.state &&
  restartCheckpointRequiredImageMatchesObservation expected.state.requiredImage
    actual.requiredImage &&
  expected.state.storedPosition = actual.storedPosition

def restartCheckpointReplayCauseMatchesObservation :
    Option RestartReplayStartCause →
      Option RestartCheckpointCompletenessBaselineReplayCauseObservation → Bool
  | none, none => true
  | some (.storeMissing pageNumber), some (.storeMissingPage actual) =>
      pageNumber.get = actual
  | some (.storeBehind pageNumber), some (.storeBehindPage actual) =>
      pageNumber.get = actual
  | some (.uncommittedTransaction transaction),
      some (.uncommittedTransaction epoch sequence) =>
      transaction.epoch.get = epoch && transaction.sequence.get = sequence
  | _, _ => false

def RestartReplayStart.kind :
    RestartReplayStart → RestartCheckpointCompletenessBaselineReplayKindObservation
  | .afterFrontier _ => .afterFrontier
  | .atPosition _ _ => .atPosition

def RestartReplayStart.frontier : RestartReplayStart → Option U64
  | .afterFrontier frontier => frontier
  | .atPosition _ _ => none

def RestartReplayStart.position : RestartReplayStart → Option U64
  | .afterFrontier _ => none
  | .atPosition position _ => some position

def RestartReplayStart.cause : RestartReplayStart → Option RestartReplayStartCause
  | .afterFrontier _ => none
  | .atPosition _ cause => some cause

def restartCheckpointReplayMatchesObservation (expected : RestartReplayStart)
    (actual : RestartCheckpointCompletenessBaselineReplayObservation) : Bool :=
  expected.kind = actual.kind &&
  expected.frontier = actual.frontier &&
  expected.position = actual.position &&
  restartCheckpointReplayCauseMatchesObservation expected.cause actual.cause

def restartCheckpointCompletenessBaselineMatchesOwnedObservation
    (expected : RestartCheckpointCompletenessBaseline)
    (actual : RestartCheckpointCompletenessBaselineObservation) : Bool :=
  actual.transactions.persistentLogId =
    expected.transactionBaseline.persistentLogId.get &&
  actual.transactions.durableFrontier = expected.transactionBaseline.durableFrontier &&
  actual.transactions.transactions.length =
    expected.transactionBaseline.transactions.length &&
  actual.pages.length = expected.pages.length &&
  restartCheckpointReplayMatchesObservation expected.replayStart actual.replay &&
  (expected.transactionBaseline.transactions.zip actual.transactions.transactions).all
    (fun pair => restartCheckpointEntryMatchesObservation pair.1 pair.2) &&
  (expected.pages.zip actual.pages).all
    (fun pair => restartCheckpointPageEntryMatchesObservation pair.1 pair.2)

/-! ## A match is the observation of the baseline -/

theorem restartCheckpointReplayCauseMatchesObservation_iff
    {expected : Option RestartReplayStartCause}
    {actual : Option RestartCheckpointCompletenessBaselineReplayCauseObservation} :
    restartCheckpointReplayCauseMatchesObservation expected actual = true ↔
      expected.map (·.observe) = actual := by
  rcases expected with _ | _ | _ | _ <;> rcases actual with _ | _ | _ | _ <;>
    simp [restartCheckpointReplayCauseMatchesObservation, RestartReplayStartCause.observe]

theorem restartCheckpointReplayMatchesObservation_iff {expected : RestartReplayStart}
    {actual : RestartCheckpointCompletenessBaselineReplayObservation} :
    restartCheckpointReplayMatchesObservation expected actual = true ↔
      expected.observe = actual := by
  cases actual
  simp only [restartCheckpointReplayMatchesObservation, Bool.and_eq_true,
    decide_eq_true_eq, restartCheckpointReplayCauseMatchesObservation_iff]
  cases expected <;>
    simp [RestartReplayStart.observe, RestartReplayStart.kind,
      RestartReplayStart.frontier, RestartReplayStart.position, RestartReplayStart.cause,
      and_assoc]

/-! ## Anchors -/

structure RestartSelectedCheckpointAnchor where
  version : U16
  value : U128
deriving DecidableEq

def RESTART_SELECTED_CHECKPOINT_ANCHOR_VERSION : U16 := 1

def RESTART_SELECTED_CHECKPOINT_ANCHOR_DOMAIN : BitVec 128 :=
  0x6e7473716c2d7273742d63686b2d7631

def RESTART_SELECTED_CHECKPOINT_ANCHOR_MULTIPLIER : BitVec 128 :=
  0xd6e8feb86659fd93a5a3564e27f88647

def RESTART_SELECTED_CHECKPOINT_ANCHOR_INCREMENT : BitVec 128 :=
  0x9e3779b97f4a7c15f39cc0605cedc835

/-- The state of `RestartSelectedCheckpointAnchorHasher`. -/
abbrev AnchorHasher := BitVec 128

namespace AnchorHasher

def field (hasher : AnchorHasher) (tag value : Nat) : AnchorHasher :=
  let mixed := hasher ^^^
    (BitVec.ofNat 128 tag * RESTART_SELECTED_CHECKPOINT_ANCHOR_INCREMENT +
      BitVec.ofNat 128 value)
  let spread := mixed.rotateLeft 37 * RESTART_SELECTED_CHECKPOINT_ANCHOR_MULTIPLIER +
    RESTART_SELECTED_CHECKPOINT_ANCHOR_INCREMENT
  spread ^^^ spread.rotateRight 43

def optionalU64 (hasher : AnchorHasher) (tag : Nat) : Option U64 → AnchorHasher
  | none => hasher.field tag 0
  | some value => (hasher.field tag 1).field (tag + 1) value.val

def transactionEntry (hasher : AnchorHasher) (entry : RestartCheckpointBaselineEntry)
    (index : Nat) : AnchorHasher :=
  let hasher := hasher.field 5 index
  let hasher := hasher.field 6 entry.transaction.epoch.get.val
  let hasher := hasher.field 7 entry.transaction.sequence.get.val
  let hasher := hasher.optionalU64 8 entry.firstOwnedPagePosition
  let hasher := hasher.optionalU64 10 entry.lastOwnedPagePosition
  let hasher := hasher.field 12 entry.ownedPageRecordCount.val
  match entry.state with
  | .uncommitted => hasher.field 13 0
  | .committed commitPosition => (hasher.field 13 1).field 14 commitPosition.val

def requiredImage (hasher : AnchorHasher) : RestartRequiredPageImage → AnchorHasher
  | .raw pagePosition => (hasher.field 19 1).field 22 pagePosition.val
  | .committedTransaction transaction pagePosition commitPosition =>
      let hasher := hasher.field 19 2
      let hasher := hasher.field 23 transaction.epoch.get.val
      let hasher := hasher.field 24 transaction.sequence.get.val
      let hasher := hasher.field 22 pagePosition.val
      hasher.field 25 commitPosition.val

def pageEntry (hasher : AnchorHasher) (entry : RestartPageEntry) (index : Nat) :
    AnchorHasher :=
  let hasher := hasher.field 16 index
  let hasher := hasher.field 17 entry.pageNumber.get.val
  match entry.state with
  | .noRequiredImage => ((hasher.field 18 0).field 19 0).field 20 0
  | .storeMissing required => ((hasher.field 18 1).requiredImage required).field 20 0
  | .storeCurrent required storedPosition =>
      (((hasher.field 18 2).requiredImage required).field 20 1).field 21
        storedPosition.val
  | .storeBehind storedPosition required =>
      (((hasher.field 18 3).requiredImage required).field 20 1).field 21
        storedPosition.val

def replayStart (hasher : AnchorHasher) : RestartReplayStart → AnchorHasher
  | .afterFrontier frontier =>
      (((hasher.field 26 0).optionalU64 27 frontier).field 29 0).field 30 0
  | .atPosition position cause =>
      let hasher := ((hasher.field 26 1).field 27 0).field 29 position.val
      match cause with
      | .storeMissing pageNumber => (hasher.field 30 1).field 31 pageNumber.get.val
      | .storeBehind pageNumber => (hasher.field 30 2).field 31 pageNumber.get.val
      | .uncommittedTransaction transaction =>
          ((hasher.field 30 3).field 31 transaction.epoch.get.val).field 32
            transaction.sequence.get.val

end AnchorHasher

def selectedRestartCheckpointAnchor (baseline : RestartCheckpointCompletenessBaseline) :
    RestartSelectedCheckpointAnchor :=
  let transactions := baseline.transactionBaseline
  let hasher : AnchorHasher := RESTART_SELECTED_CHECKPOINT_ANCHOR_DOMAIN
  let hasher := hasher.field 1 transactions.persistentLogId.get.val
  let hasher := hasher.optionalU64 2 transactions.durableFrontier
  let hasher := hasher.field 4 transactions.transactions.length
  let hasher := transactions.transactions.zipIdx.foldl
    (fun hasher entry => hasher.transactionEntry entry.1 entry.2) hasher
  let hasher := hasher.field 15 baseline.pages.length
  let hasher := baseline.pages.zipIdx.foldl
    (fun hasher entry => hasher.pageEntry entry.1 entry.2) hasher
  let hasher := hasher.replayStart baseline.replayStart
  ⟨RESTART_SELECTED_CHECKPOINT_ANCHOR_VERSION, hasher.toFin⟩

end Ntsql.Transaction
