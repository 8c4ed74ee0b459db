import Ntsql.Foundation.History
import Ntsql.Transaction.Effect

/-! # What a history of the coordinator permits

The status of a transaction and the staged pages are read off the history
alone. The coordinator's registry agrees with both, and each registry write and
each page write is permitted by what happened before it. -/

namespace Ntsql.Transaction

open History

section Permits

variable {width : Nat}

/-- The steps of a transaction's lifecycle. -/
inductive Moves :
    Option TransactionLifecycleStatus → TransactionLifecycleStatus → Prop where
  | issue : Moves none .active
  | losePageAppend : Moves (some .active) .pageAppendIndeterminate
  | attempt : Moves (some .active) .commitAttempted
  | commit : Moves (some .commitAttempted) .committed
  | fail : Moves (some .commitAttempted) .indeterminate
  | find : Moves (some .indeterminate) .committed
  | miss : Moves (some .indeterminate) .noDurableCommitRecord

def Event.movedTo (id : TransactionId) : Event width → Option TransactionLifecycleStatus
  | .moved other status => if other = id then some status else none
  | _ => none

def latestStatus (id : TransactionId) (history : List (Event width)) :
    Option TransactionLifecycleStatus :=
  history.findSome? (Event.movedTo id)

/-- The append port was asked to append the page for the transaction. -/
def Event.AppendsPage (id : TransactionId) (number : PageNumber) : Event width → Prop
  | .appendedPage owner page _ => owner = some id ∧ page.address.number = number
  | _ => False

/-- A staged flush of the transaction's page succeeded. -/
def Event.DischargesPage (id : TransactionId) (number : PageNumber) : Event width → Prop
  | .dischargedPage other discharged => other = id ∧ discharged = number
  | _ => False

/-- A commit record at `position` was appended and flushed through, or found in
the durable log. -/
def ProvedCommitted (id : TransactionId) (position : LogSequenceNumber)
    (history : List (Event width)) : Prop :=
  (∃ past, .flushedThrough position true :: .appendedCommit id (some position) :: past <:+
    history) ∨
    .lookedUpCommit id (some (position.lineage, .found position)) ∈ history

/-- The page was appended for the transaction at the position it now requires. -/
def StagedBy (id : TransactionId) (dirty : DirtyPage width)
    (history : List (Event width)) : Prop :=
  .appendedPage (some id) ⟨dirty.address, dirty.version, dirty.image⟩
    (some dirty.requiredPosition) ∈ history

/-- What must have happened before an owned page is written. -/
structure WrittenAhead (past : List (Event width)) (id : TransactionId)
    (dirty : DirtyPage width) (permit : PageWritePermit) : Prop where
  permit : permit.durablePosition = dirty.requiredPosition
  flushed : ∃ earlier, past = .flushedThrough dirty.requiredPosition true :: earlier
  staged : StagedBy id dirty past
  status : latestStatus id past = some .committed
  committed : ∃ position, ProvedCommitted id position past ∧
    position.lineage = dirty.requiredPosition.lineage ∧
    dirty.requiredPosition.get < position.get

def Permits (past : List (Event width)) : Event width → Prop
  | .moved id status => Moves (latestStatus id past) status
  | .wrotePage owner dirty permit _ => ∃ id, owner = some id ∧
      WrittenAhead past id dirty permit
  | _ => True

theorem latestStatus_cons (id : TransactionId) (event : Event width)
    (past : List (Event width)) :
    latestStatus id (event :: past) = (event.movedTo id).or (latestStatus id past) := by
  rw [latestStatus, List.findSome?_cons]
  cases event.movedTo id <;> rfl

theorem latestStatus_moved (id other : TransactionId)
    (status : TransactionLifecycleStatus) (past : List (Event width)) :
    latestStatus other (.moved id status :: past) =
      if id = other then some status else latestStatus other past := by
  rw [latestStatus_cons, Event.movedTo]
  split <;> rfl

@[simp] theorem latestStatus_moved_self (id : TransactionId)
    (status : TransactionLifecycleStatus) (past : List (Event width)) :
      latestStatus id (.moved id status :: past) = some status := by
  rw [latestStatus_moved, if_pos rfl]

theorem Event.Neutral.movedTo {event : Event width} (neutral : event.Neutral)
    (id : TransactionId) : event.movedTo id = none := by
  cases event <;> first | rfl | exact neutral.elim

theorem Event.Neutral.permits {event : Event width} (neutral : event.Neutral)
    (past : List (Event width)) : Permits past event := by
  cases event <;> trivial

theorem Event.Neutral.since_iff {event : Event width} (neutral : event.Neutral)
    (id : TransactionId) (number : PageNumber) (past : List (Event width)) :
    Since (Event.AppendsPage id number) (Event.DischargesPage id number) (event :: past) ↔
      Since (Event.AppendsPage id number) (Event.DischargesPage id number) past := by
  cases event <;> simp_all [Event.Neutral, Since, Event.AppendsPage, Event.DischargesPage]

theorem ProvedCommitted.mono {id : TransactionId} {position : LogSequenceNumber}
    {earlier later : List (Event width)} (proved : ProvedCommitted id position earlier)
    (grown : earlier <:+ later) : ProvedCommitted id position later := by
  rcases proved with ⟨past, among⟩ | found
  · exact .inl ⟨past, among.trans grown⟩
  · exact .inr (grown.subset found)

theorem StagedBy.mono {id : TransactionId} {dirty : DirtyPage width}
    {earlier later : List (Event width)} (staged : StagedBy id dirty earlier)
    (grown : earlier <:+ later) : StagedBy id dirty later :=
  grown.subset staged

theorem latestStatus_committed_mono {id : TransactionId}
    {earlier later : List (Event width)}
    (committed : latestStatus id earlier = some .committed) (grown : earlier <:+ later)
    (justified : Justified Permits later) : latestStatus id later = some .committed := by
  rcases grown with ⟨events, rfl⟩
  induction events with
  | nil => exact committed
  | cons event events induction =>
      have before := induction justified.2
      have permitted := justified.1
      rw [List.cons_append, latestStatus_cons]
      cases event with
      | moved other status =>
          simp only [Event.movedTo]
          split
          · rename_i same
            rw [Permits, same] at permitted
            have moves : Moves (some .committed) status := before ▸ permitted
            cases moves
          · exact before
      | _ => exact before

def Event.issued : Event width → Option TransactionId
  | .moved id .active => some id
  | _ => none

theorem Event.issued_eq_some {event : Event width} {id : TransactionId} :
    event.issued = some id ↔ event = .moved id .active := by
  constructor
  · intro issued
    rw [Event.issued.eq_def] at issued
    split at issued
    · rw [Option.some.inj issued]
    · cases issued
  · intro moved
    rw [moved, Event.issued]

theorem latestStatus_isSome_of_moved {id : TransactionId}
    {status : TransactionLifecycleStatus}
    {history : List (Event width)} (moved : .moved id status ∈ history) :
    latestStatus id history ≠ none := by
  intro never
  have unmoved := List.findSome?_eq_none_iff.mp never _ moved
  simp [Event.movedTo] at unmoved

theorem nodup_issued {history : List (Event width)}
    (justified : Justified Permits history) :
    (history.filterMap Event.issued).Nodup := by
  apply nodup_filterMap _ justified
  intro past event id permitted issued other among again
  rw [Event.issued_eq_some.mp issued, Permits] at permitted
  rw [Event.issued_eq_some.mp again] at among
  have moved := latestStatus_isSome_of_moved among
  cases status : latestStatus id past with
  | none => exact moved status
  | some current =>
      rw [status] at permitted
      cases permitted

end Permits

/-! ## The registry agrees with the history -/

section Tracked

variable {width : Nat} {World : Type}

structure Tracked (runtime : Runtime width World) : Prop where
  justified : Justified Permits runtime.history
  registry : ∀ id, runtime.coordinator.status id = latestStatus id runtime.history
  staged : ∀ id number, (id, number) ∈ runtime.coordinator.stagedPages ↔
    Since (Event.AppendsPage id number) (Event.DischargesPage id number) runtime.history

variable {runtime : Runtime width World}

theorem Runtime.suffix_answered (runtime : Runtime width World) (world : World)
    (events : List (Event width)) :
    runtime.history <:+ (runtime.answered world events).history :=
  List.suffix_append _ _

theorem Runtime.suffix_moved (runtime : Runtime width World) (id : TransactionId)
    (status : TransactionLifecycleStatus) :
    runtime.history <:+ (runtime.moved id status).history :=
  List.suffix_cons _ _

theorem Tracked.neutral (tracked : Tracked runtime) (world : World)
    {events : List (Event width)} (neutral : ∀ event ∈ events, event.Neutral) :
      Tracked (runtime.answered world events) := by
  induction events with
  | nil => exact ⟨tracked.justified, tracked.registry, tracked.staged⟩
  | cons event events induction =>
      rw [List.forall_mem_cons] at neutral
      have before := induction neutral.2
      refine ⟨⟨neutral.1.permits _, before.justified⟩, fun id => ?_, fun id number => ?_⟩
      · exact (before.registry id).trans
          (by rw [Runtime.answered_history, Runtime.answered_history, List.cons_append,
            latestStatus_cons, neutral.1.movedTo]; rfl)
      · exact (before.staged id number).trans (neutral.1.since_iff id number _).symm

theorem Tracked.observed (tracked : Tracked runtime) (world : World) {event : Event width}
    (neutral : event.Neutral) : Tracked (runtime.answered world [event]) :=
  tracked.neutral world (by simpa using neutral)

theorem Tracked.moved (tracked : Tracked runtime) {id : TransactionId}
    {status : TransactionLifecycleStatus}
    (moves : Moves (runtime.coordinator.status id) status) :
      Tracked (runtime.moved id status) where
  justified := ⟨by rw [Permits, ← tracked.registry]; exact moves, tracked.justified⟩
  registry := by
    intro other
    rw [Runtime.moved, TransactionCoordinator.status_setStatus, latestStatus_moved,
      tracked.registry]
  staged := by
    intro other number
    simpa [Runtime.moved, Since, Event.AppendsPage, Event.DischargesPage] using
      tracked.staged other number

theorem Tracked.appended (tracked : Tracked runtime) (id : TransactionId)
    (page : UnloggedPage width) (answer : Option LogSequenceNumber) (world : World) :
    Tracked (runtime.appended id page answer world) where
  justified := ⟨trivial, tracked.justified⟩
  registry := tracked.registry
  staged := by
    intro other number
    have before := tracked.staged other number
    simp only [Runtime.appended, Runtime.answered_coordinator, Runtime.withCoordinator,
      TransactionCoordinator.insertStaged, Finset.mem_insert, Prod.mk.injEq, before,
      Runtime.answered_history, List.cons_append, List.nil_append, Since,
      Event.AppendsPage, Event.DischargesPage, not_false_eq_true, true_and,
      Option.some.injEq]
    rw [@eq_comm _ other, @eq_comm _ number]

theorem Tracked.wrote (tracked : Tracked runtime) {page : TransactionDirtyPage width}
    {committed : CommittedTransaction} (clears : Clears committed page)
    (proved : ProvedCommitted committed.transactionId committed.logPosition
      runtime.history)
    (status : latestStatus committed.transactionId runtime.history = some .committed)
    (staged : StagedBy page.transactionId page.dirty runtime.history) (succeeded : Bool)
    (world : World) : Tracked (runtime.wrote page succeeded world) := by
  have flushed : Tracked (runtime.answered world
      [.flushedThrough page.dirty.requiredPosition true]) :=
    tracked.observed world trivial
  rw [clears.owner] at proved status
  have ahead :
      WrittenAhead (.flushedThrough page.dirty.requiredPosition true :: runtime.history)
      page.transactionId page.dirty ⟨page.dirty.requiredPosition⟩ := {
    permit := rfl
    flushed := ⟨_, rfl⟩
    staged := staged.mono (List.suffix_cons _ _)
    status := by rw [latestStatus_cons]; exact status
    committed :=
      ⟨committed.logPosition, proved.mono (List.suffix_cons _ _), clears.lineage,
        clears.after⟩ }
  exact {
    justified := ⟨⟨_, rfl, ahead⟩, flushed.justified⟩
    registry := flushed.registry
    staged := by
      intro id number
      simpa [Runtime.wrote, Since, Event.AppendsPage, Event.DischargesPage] using
        flushed.staged id number }

theorem Tracked.withNext (tracked : Tracked runtime) (next : Option NonZeroU64) :
    Tracked (runtime.withCoordinator fun coordinator =>
      { coordinator with nextTransactionId := next }) :=
  ⟨tracked.justified, tracked.registry, tracked.staged⟩

/-- The runtime once a staged flush succeeded. -/
def Runtime.discharged (runtime : Runtime width World) (id : TransactionId)
    (number : PageNumber) : Runtime width World :=
  runtime.answered runtime.world [.dischargedPage id number]

theorem Tracked.discharged (tracked : Tracked runtime) (id : TransactionId)
    (number : PageNumber) :
    Tracked ((runtime.withCoordinator (·.removeStaged id number)).discharged id number)
      where
  justified := ⟨trivial, tracked.justified⟩
  registry := tracked.registry
  staged := by
    intro other otherNumber
    have before := tracked.staged other otherNumber
    simp only [Runtime.discharged, Runtime.answered_coordinator, Runtime.withCoordinator,
      TransactionCoordinator.removeStaged, Finset.mem_erase, ne_eq, Prod.mk.injEq, before,
      Runtime.answered_history, List.cons_append, List.nil_append, Since,
      Event.AppendsPage, Event.DischargesPage, false_or]
    rw [@eq_comm _ other, @eq_comm _ otherNumber]

end Tracked

end Ntsql.Transaction
