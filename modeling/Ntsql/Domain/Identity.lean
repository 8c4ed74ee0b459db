import Ntsql.Foundation.ByteField

/-! # Identities shared by the log, the page store and the coordinator

A log lineage owns positions and page addresses; a position is meaningful only
for the lineage that assigned it. Zero is excluded by the types that exclude it
in the source. -/

namespace Ntsql

structure NonZeroU64 where
  get : U64
  nonzero : get ≠ 0
deriving DecidableEq

structure NonZeroU128 where
  get : U128
  nonzero : get ≠ 0
deriving DecidableEq

namespace NonZeroU64

def new (value : U64) : Option NonZeroU64 :=
  if nonzero : value ≠ 0 then some ⟨value, nonzero⟩ else none

/-- `NonZeroU64::MIN`. -/
def min : NonZeroU64 := ⟨1, u64_one_ne_zero⟩

/-- `NonZeroU64::MAX`. -/
def max : NonZeroU64 := ⟨⟨u64Max, u64Max_lt⟩, by decide⟩

/-- `value.get().checked_add(1).and_then(NonZeroU64::new)`. -/
def checkedNext (value : U64) : Option NonZeroU64 := (checkedSucc value).bind new

theorem ext {left right : NonZeroU64} (equal : left.get = right.get) : left = right := by
  cases left
  cases right
  simpa using equal

@[simp] theorem new_get (value : NonZeroU64) : new value.get = some value := by
  simp [new, value.nonzero]

theorem new_eq_some {value : U64} {wrapped : NonZeroU64} :
    new value = some wrapped ↔ wrapped.get = value := by
  constructor
  · intro equal
    by_cases nonzero : value ≠ 0
    · rw [new, dif_pos nonzero, Option.some.injEq] at equal
      exact congrArg get equal.symm
    · simp [new, nonzero] at equal
  · intro equal
    rw [← equal, new_get]

theorem checkedNext_eq_some {value : U64} {next : NonZeroU64} :
    checkedNext value = some next ↔ next.get.val = value.val + 1 := by
  simp only [checkedNext, Option.bind_eq_some_iff, checkedSucc_eq_some, new_eq_some]
  constructor
  · intro stepped
    rcases stepped with ⟨raw, advanced, rfl⟩
    exact advanced
  · intro advanced
    exact ⟨next.get, advanced, rfl⟩

theorem checkedNext_eq_none {value : U64} : checkedNext value = none ↔
    value.val = u64Max := by
  rw [← checkedSucc_eq_none, checkedNext, Option.bind_eq_none_iff]
  constructor
  · intro exhausted
    cases next : checkedSucc value with
    | none => rfl
    | some raw =>
        have nonzero : raw ≠ 0 := by
          intro zero
          have advanced := checkedSucc_eq_some.mp next
          simp [zero] at advanced
        have refused := exhausted raw next
        simp [new, nonzero] at refused
  · intro exhausted raw next
    simp [exhausted] at next

end NonZeroU64

namespace NonZeroU128

def new (value : U128) : Option NonZeroU128 :=
  if nonzero : value ≠ 0 then some ⟨value, nonzero⟩ else none

/-- `NonZeroU128::MIN`. -/
def min : NonZeroU128 := ⟨1, u128_one_ne_zero⟩

@[simp] theorem new_get (value : NonZeroU128) : new value.get = some value := by
  simp [new, value.nonzero]

theorem new_eq_some {value : U128} {wrapped : NonZeroU128} :
    new value = some wrapped ↔ wrapped.get = value := by
  constructor
  · intro equal
    by_cases nonzero : value ≠ 0
    · rw [new, dif_pos nonzero, Option.some.injEq] at equal
      exact congrArg get equal.symm
    · simp [new, nonzero] at equal
  · intro equal
    rw [← equal, new_get]

end NonZeroU128

/-- Nonzero identity for reconstructing one persistent lineage. -/
abbrev PersistentLogId := NonZeroU128

/-- Identity of one commit-log lineage. Ephemeral lineages compare by the
runtime object they were created with. -/
inductive LogLineage where
  | ephemeral (object : Nat)
  | persistent (id : PersistentLogId)
deriving DecidableEq

def LogLineage.persistentId : LogLineage → Option PersistentLogId
  | .ephemeral _ => none
  | .persistent id => some id

/-- A position a commit log assigned, bound to its lineage. -/
structure LogSequenceNumber where
  lineage : LogLineage
  get : U64
deriving DecidableEq

def LogLineage.position (lineage : LogLineage) (value : U64) : LogSequenceNumber :=
  ⟨lineage, value⟩

@[simp] theorem LogLineage.position_get (lineage : LogLineage) (value : U64) :
    (lineage.position value).get = value := rfl

@[simp] theorem LogLineage.position_lineage (lineage : LogLineage) (value : U64) :
    (lineage.position value).lineage = lineage := rfl

theorem LogSequenceNumber.eq_position {position : LogSequenceNumber}
    {lineage : LogLineage}
    (own : position.lineage = lineage) : position = lineage.position position.get := by
  cases position
  simp [LogLineage.position, ← own]

abbrev PageNumber := NonZeroU64

structure PageVersion where
  get : U64
deriving DecidableEq

/-- A page number scoped to one log lineage. -/
structure PageAddress where
  lineage : LogLineage
  number : PageNumber
deriving DecidableEq

/-- The coordinator epoch and the sequence within it. -/
structure TransactionId where
  epoch : NonZeroU64
  sequence : NonZeroU64
deriving DecidableEq

theorem NonZeroU64.get_injective : Function.Injective NonZeroU64.get :=
  fun _ _ => NonZeroU64.ext

theorem TransactionId.key_injective :
    Function.Injective fun id : TransactionId =>
      toLex (id.epoch.get, id.sequence.get) := by
  intro left right equal
  cases left
  cases right
  simpa [NonZeroU64.get_injective.eq_iff] using equal

/-- Epoch first, then sequence. -/
instance : LinearOrder TransactionId := LinearOrder.lift' _ TransactionId.key_injective

/-- A page image that has not yet received a log position. -/
structure UnloggedPage (width : Nat) where
  address : PageAddress
  version : PageVersion
  image : Bytes width
deriving DecidableEq

/-- A page image that must not be stored before its position is durable. -/
structure DirtyPage (width : Nat) where
  address : PageAddress
  version : PageVersion
  image : Bytes width
  requiredPosition : LogSequenceNumber
  sameLineage : address.lineage = requiredPosition.lineage
deriving DecidableEq

/-! ## Database files -/

inductive DatabaseFileRole where
  | wal
  | pageStore
  | restartCheckpoint
deriving DecidableEq

structure DatabaseFileHeaderIdentity where
  databaseId : NonZeroU128
  role : DatabaseFileRole
  fileId : NonZeroU128
deriving DecidableEq

end Ntsql
