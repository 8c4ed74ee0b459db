import Ntsql.Foundation.Fallible
import Ntsql.Transaction.Types

/-! # The durability protocols

`commit_durability`, `stage_page_write` and `flush_dirty_page` over arbitrary
ports. Each call of a port is recorded with its answer. -/

namespace Ntsql.Transaction

section Runtime

variable {width : Nat} {World : Type}

def Runtime.answered (runtime : Runtime width World) (world : World)
    (events : List (Event width)) :
    Runtime width World :=
  { runtime with world, history := events ++ runtime.history }

@[simp] theorem Runtime.answered_coordinator (runtime : Runtime width World)
    (world : World) (events : List (Event width)) :
    (runtime.answered world events).coordinator = runtime.coordinator := rfl

@[simp] theorem Runtime.answered_world (runtime : Runtime width World) (world : World)
    (events : List (Event width)) : (runtime.answered world events).world = world := rfl

@[simp] theorem Runtime.answered_history (runtime : Runtime width World) (world : World)
    (events : List (Event width)) :
    (runtime.answered world events).history = events ++ runtime.history := rfl

@[simp] theorem Runtime.answered_answered (runtime : Runtime width World)
    (first second : World) (earlier later : List (Event width)) :
    (runtime.answered first earlier).answered second later =
      runtime.answered second (later ++ earlier) := by
  simp [Runtime.answered]

def callPort {ε ζ α : Type} (call : World → Except ζ α × World)
    (event : Except ζ α → Event width) : EStateM ε (Runtime width World) (Except ζ α) :=
  fun runtime =>
    let reply := call runtime.world
    .ok reply.1 (runtime.answered reply.2 [event reply.1])

end Runtime

section Ports

variable {width : Nat} {World LogError StoreError SourceError ε : Type}
  (ports : Ports width World LogError StoreError SourceError)

/-- `log.lineage()`. -/
def readLogLineage : EStateM ε (Runtime width World) LogLineage := fun runtime =>
  .ok (ports.logLineage runtime.world).1
    (runtime.answered (ports.logLineage runtime.world).2 [])

/-- `store.lineage()`. -/
def readStoreLineage : EStateM ε (Runtime width World) LogLineage := fun runtime =>
  .ok (ports.storeLineage runtime.world).1
    (runtime.answered (ports.storeLineage runtime.world).2 [])

/-- `lineage.same_lineage(log.lineage())`, or fail. -/
def requireLogLineage (lineage : LogLineage) (error : ε) :
    EStateM ε (Runtime width World) Unit := do
  let current ← readLogLineage ports
  check (rejectIf (lineage ≠ current) error)

def appendCommit (record : TransactionCommitRecord) :
    EStateM ε (Runtime width World) (Except LogError LogSequenceNumber) :=
  callPort (ports.appendCommit record) fun answer =>
    .appendedCommit record.transactionId answer.toOption

def flushThrough (position : LogSequenceNumber) :
    EStateM ε (Runtime width World) (Except LogError Unit) :=
  callPort (ports.flushThrough position) fun answer =>
    .flushedThrough position answer.isOk

def appendPage (owner : Option TransactionId) (page : UnloggedPage width) :
    EStateM ε (Runtime width World) (Except LogError LogSequenceNumber) :=
  callPort (ports.appendPage owner page) fun answer =>
    .appendedPage owner page answer.toOption

def lookupDurableCommit (id : TransactionId) :
    EStateM ε (Runtime width World)
      (Except SourceError (LogLineage × DurableCommitLookup)) :=
  callPort (ports.lookupDurableCommit id) fun answer => .lookedUpCommit id answer.toOption

/-- The owner is recorded only; the port sees the page and the permit. -/
def writePage (owner : Option TransactionId) (dirty : DirtyPage width)
    (permit : PageWritePermit) :
    EStateM ε (Runtime width World) (Except StoreError Unit) :=
  callPort (ports.writePage dirty permit) fun answer =>
    .wrotePage owner dirty permit answer.isOk

/-- Append a commit record and flush through its exact position. -/
def commitDurability (record : TransactionCommitRecord) :
    EStateM (CommitError LogError) (Runtime width World) LogSequenceNumber := do
  let expectedLineage ← readLogLineage ports
  match ← appendCommit ports record with
  | .error source => throw (.append source)
  | .ok position =>
      check (rejectIf (position.lineage ≠ expectedLineage)
        (.foreignAppendPosition position))
      requireLogLineage ports expectedLineage (.foreignAppendPosition position)
      match ← flushThrough ports position with
      | .error source => throw (.flush position source)
      | .ok () => pure position

/-- `IndeterminatePageLogAppend::from_unlogged`. -/
def IndeterminatePageLogAppend.fromUnlogged (page : UnloggedPage width)
    (observedPosition : Option LogSequenceNumber) : IndeterminatePageLogAppend width :=
  ⟨page.address, page.version, page.image, observedPosition⟩

/-- `DirtyPage::new` refuses a position of another lineage. -/
def DirtyPage.new (page : UnloggedPage width) (position : LogSequenceNumber) :
    Option (DirtyPage width) :=
  if same : page.address.lineage = position.lineage then
    some ⟨page.address, page.version, page.image, position, same⟩
  else
    none

/-- Append a page image and stage it as dirty. The coordinator's append bridge
supplies the owner; a raw page has none. -/
def stagePageWrite (owner : Option TransactionId) (page : UnloggedPage width) :
    EStateM (StagePageWriteError LogError width) (Runtime width World)
      (DirtyPage width) := do
  requireLogLineage ports page.address.lineage (.rejected page)
  let expectedLineage ← readLogLineage ports
  match ← appendPage ports owner page with
  | .error source => throw (.append (.fromUnlogged page none) source)
  | .ok position =>
      let evidence := IndeterminatePageLogAppend.fromUnlogged page (some position)
      check (rejectIf (position.lineage ≠ expectedLineage)
        (.invalidEvidence evidence .foreignPosition))
      requireLogLineage ports expectedLineage
        (.invalidEvidence evidence .logLineageChanged)
      check (okOr (DirtyPage.new page position)
        (.invalidEvidence evidence .foreignPosition))

/-- `CleanPage::from_dirty`. -/
def CleanPage.fromDirty (dirty : DirtyPage width) : CleanPage width :=
  ⟨dirty.address, dirty.version, dirty.image, dirty.requiredPosition⟩

/-- `IndeterminatePageWrite::from_dirty`. -/
def IndeterminatePageWrite.fromDirty (dirty : DirtyPage width) :
    IndeterminatePageWrite width :=
  ⟨dirty.address, dirty.version, dirty.image, dirty.requiredPosition⟩

/-- Flush the exact required position before the store is asked to write. -/
def flushDirtyPage (owner : Option TransactionId) (dirty : DirtyPage width) :
    EStateM (FlushDirtyPageError LogError StoreError width) (Runtime width World)
      (CleanPage width) := do
  requireLogLineage ports dirty.address.lineage (.rejected dirty .foreignLog)
  let storeLineage ← readStoreLineage ports
  check (rejectIf (dirty.address.lineage ≠ storeLineage) (.rejected dirty .foreignStore))
  match ← flushThrough ports dirty.requiredPosition with
  | .error source => throw (.logFlush dirty source)
  | .ok () =>
      match ← writePage ports owner dirty ⟨dirty.requiredPosition⟩ with
      | .error source => throw (.storeWrite (.fromDirty dirty) source)
      | .ok () => pure (.fromDirty dirty)

end Ports

/-! ## What each protocol does -/

section Effects

variable {width : Nat} {World LogError StoreError SourceError : Type}
  (ports : Ports width World LogError StoreError SourceError)

/-- Events that neither write a page nor say anything of a transaction's status
or of the staged pages. -/
def Event.Neutral : Event width → Prop
  | .appendedCommit _ _ => True
  | .flushedThrough _ _ => True
  | .lookedUpCommit _ _ => True
  | _ => False

inductive CommitDurabilityEffect (runtime : Runtime width World) (id : TransactionId) :
    EStateM.Result (CommitError LogError) (Runtime width World) LogSequenceNumber →
      Prop where
  | failed (error : CommitError LogError) (world : World) (events : List (Event width))
      (neutral : ∀ event ∈ events, event.Neutral) :
      CommitDurabilityEffect runtime id (.error error (runtime.answered world events))
  | durable (position : LogSequenceNumber) (world : World) :
      CommitDurabilityEffect runtime id (.ok position (runtime.answered world
        [.flushedThrough position true, .appendedCommit id (some position)]))

inductive StagePageWriteEffect (runtime : Runtime width World)
    (owner : Option TransactionId) (page : UnloggedPage width) :
    EStateM.Result (StagePageWriteError LogError width) (Runtime width World)
      (DirtyPage width) →
      Prop where
  | rejected (world : World) :
      StagePageWriteEffect runtime owner page
        (.error (.rejected page) (runtime.answered world []))
  | appendFailed (lost : IndeterminatePageLogAppend width) (source : LogError)
      (world : World) :
      StagePageWriteEffect runtime owner page
        (.error (.append lost source)
          (runtime.answered world [.appendedPage owner page none]))
  | unproved (lost : IndeterminatePageLogAppend width)
      (reason : StagePageWriteEvidenceErrorReason) (position : LogSequenceNumber)
      (world : World) :
      StagePageWriteEffect runtime owner page (.error (.invalidEvidence lost reason)
        (runtime.answered world [.appendedPage owner page (some position)]))
  | staged (position : LogSequenceNumber) (same : page.address.lineage = position.lineage)
      (world : World) :
      StagePageWriteEffect runtime owner page
        (.ok ⟨page.address, page.version, page.image, position, same⟩
          (runtime.answered world [.appendedPage owner page (some position)]))

inductive FlushDirtyPageEffect (runtime : Runtime width World)
    (owner : Option TransactionId) (dirty : DirtyPage width) :
    EStateM.Result (FlushDirtyPageError LogError StoreError width) (Runtime width World)
      (CleanPage width) → Prop where
  | rejected (reason : FlushDirtyPageRejectionReason) (world : World) :
      FlushDirtyPageEffect runtime owner dirty
        (.error (.rejected dirty reason) (runtime.answered world []))
  | logFailed (source : LogError) (world : World) :
      FlushDirtyPageEffect runtime owner dirty (.error (.logFlush dirty source)
        (runtime.answered world [.flushedThrough dirty.requiredPosition false]))
  | storeFailed (source : StoreError) (world : World) :
      FlushDirtyPageEffect runtime owner dirty
        (.error (.storeWrite (.fromDirty dirty) source)
          (runtime.answered world [.wrotePage owner dirty ⟨dirty.requiredPosition⟩ false,
          .flushedThrough dirty.requiredPosition true]))
  | clean (world : World) :
      FlushDirtyPageEffect runtime owner dirty (.ok (.fromDirty dirty)
        (runtime.answered world [.wrotePage owner dirty ⟨dirty.requiredPosition⟩ true,
          .flushedThrough dirty.requiredPosition true]))

theorem callPort_bind {ε ζ α β : Type} (runtime : Runtime width World)
    (call : World → Except ζ α × World) (event : Except ζ α → Event width)
    (next : Except ζ α → EStateM ε (Runtime width World) β) :
    (callPort call event >>= next) runtime =
      next (call runtime.world).1
        (runtime.answered (call runtime.world).2 [event (call runtime.world).1]) := rfl

theorem readLogLineage_bind {ε β : Type} (runtime : Runtime width World)
    (next : LogLineage → EStateM ε (Runtime width World) β) :
    (readLogLineage ports >>= next) runtime =
      next (ports.logLineage runtime.world).1
        (runtime.answered (ports.logLineage runtime.world).2 []) := rfl

theorem readStoreLineage_bind {ε β : Type} (runtime : Runtime width World)
    (next : LogLineage → EStateM ε (Runtime width World) β) :
    (readStoreLineage ports >>= next) runtime =
      next (ports.storeLineage runtime.world).1
        (runtime.answered (ports.storeLineage runtime.world).2 []) := rfl

theorem requireLogLineage_bind {ε β : Type} (runtime : Runtime width World)
    (lineage : LogLineage) (error : ε) (next : Unit → EStateM ε (Runtime width World) β) :
    (requireLogLineage ports lineage error >>= next) runtime =
      if lineage ≠ (ports.logLineage runtime.world).1 then
        .error error (runtime.answered (ports.logLineage runtime.world).2 [])
      else
        next () (runtime.answered (ports.logLineage runtime.world).2 []) := by
  rw [requireLogLineage, bind_assoc, readLogLineage_bind, Operation.check_rejectIf_bind]

theorem commitDurability_effect (record : TransactionCommitRecord)
    (runtime : Runtime width World) :
    CommitDurabilityEffect runtime record.transactionId
      (commitDurability ports record runtime) := by
  rw [commitDurability, readLogLineage_bind, appendCommit, callPort_bind]
  generalize (ports.logLineage runtime.world).2 = started
  generalize ports.appendCommit record (runtime.answered started []).world = reply
  rcases reply with ⟨source | position, appended⟩
  · exact .failed _ _ [_] (by simp [Event.Neutral])
  · simp only [Runtime.answered_answered, Operation.check_rejectIf_bind,
      requireLogLineage_bind]
    split
    · exact .failed _ _ [_] (by simp [Event.Neutral])
    split
    · exact .failed _ _ [_] (by simp [Event.Neutral])
    rw [flushThrough, callPort_bind]
    generalize ports.flushThrough position _ = reply
    rcases reply with ⟨source | flushed, world⟩
    · exact .failed _ _ [_, _] (by simp [Event.Neutral])
    · exact .durable position world

theorem stagePageWrite_effect (owner : Option TransactionId) (page : UnloggedPage width)
    (runtime : Runtime width World) :
    StagePageWriteEffect runtime owner page
      (stagePageWrite ports owner page runtime) := by
  rw [stagePageWrite, requireLogLineage_bind]
  split
  · exact .rejected _
  simp only [readLogLineage_bind, Runtime.answered_answered, appendPage, callPort_bind]
  generalize ports.appendPage owner page _ = reply
  rcases reply with ⟨source | position, appended⟩
  · exact .appendFailed _ source appended
  · simp only [Operation.check_rejectIf_bind, requireLogLineage_bind,
      Runtime.answered_answered]
    split
    · exact .unproved _ _ position appended
    split
    · exact .unproved _ _ position _
    rw [DirtyPage.new]
    split
    · exact .staged position _ _
    · exact .unproved _ _ position _

theorem flushDirtyPage_effect (owner : Option TransactionId) (dirty : DirtyPage width)
    (runtime : Runtime width World) :
    FlushDirtyPageEffect runtime owner dirty
      (flushDirtyPage ports owner dirty runtime) := by
  rw [flushDirtyPage, requireLogLineage_bind]
  split
  · exact .rejected _ _
  simp only [readStoreLineage_bind, Runtime.answered_answered,
    Operation.check_rejectIf_bind]
  split
  · exact .rejected _ _
  simp only [flushThrough, callPort_bind, Runtime.answered_answered]
  generalize ports.flushThrough dirty.requiredPosition _ = reply
  rcases reply with ⟨source | flushed, world⟩
  · exact .logFailed source world
  · simp only [writePage, callPort_bind, Runtime.answered_answered]
    generalize ports.writePage dirty ⟨dirty.requiredPosition⟩ _ = reply
    rcases reply with ⟨source | written, world⟩
    · exact .storeFailed source world
    · exact .clean world

end Effects

end Ntsql.Transaction
