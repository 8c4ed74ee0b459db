import Ntsql.Foundation.MachineInteger

/-! # Identities and positions

The numeric identities of the recovery model. Zero is excluded by the types
that exclude it in the source. -/

namespace Ntsql.Recovery

/-- Persistent log identity, assigned once at database creation. -/
structure LogId where
  get : U128
  nonzero : get ≠ 0

theorem LogId.get_injective : Function.Injective LogId.get := by
  intro left right equal
  cases left
  cases right
  simpa using equal

instance : DecidableEq LogId := LogId.get_injective.decidableEq

/-- Ephemeral runtime lineage identity, incremented by each `reopen`. -/
structure LineageId where
  get : U64
deriving DecidableEq

def LineageId.checkedNext (lineage : LineageId) : Option LineageId :=
  (checkedSucc lineage.get).map LineageId.mk

structure WalPosition where
  get : U64
  nonzero : get ≠ 0

def WalPosition.new (value : U64) : Option WalPosition :=
  if nonzero : value ≠ 0 then some ⟨value, nonzero⟩ else none

theorem WalPosition.get_injective : Function.Injective WalPosition.get := by
  intro left right equal
  cases left
  cases right
  simpa using equal

instance : DecidableEq WalPosition := WalPosition.get_injective.decidableEq

instance : LinearOrder WalPosition :=
  LinearOrder.lift' WalPosition.get WalPosition.get_injective

theorem WalPosition.new_eq_some {value : U64} {position : WalPosition} :
    WalPosition.new value = some position ↔ position.get = value := by
  unfold WalPosition.new
  split
  · constructor
    · intro equal
      cases equal
      rfl
    · intro equal
      simp [← equal]
  · rename_i zero
    simp only [ne_eq, not_not] at zero
    simp only [reduceCtorEq, false_iff]
    intro equal
    exact position.nonzero (equal.trans zero)

/-- Transaction identity: a coordinator epoch and a sequence within it. -/
structure TransactionId where
  epoch : U64
  sequence : U64
  epoch_nonzero : epoch ≠ 0
  sequence_nonzero : sequence ≠ 0

def TransactionId.new (epoch sequence : U64) : Option TransactionId :=
  if nonzero : epoch ≠ 0 ∧ sequence ≠ 0 then
    some ⟨epoch, sequence, nonzero.1, nonzero.2⟩
  else
    none

theorem TransactionId.new_eq_some {epoch sequence : U64} {id : TransactionId} :
    TransactionId.new epoch sequence = some id ↔
      id.epoch = epoch ∧ id.sequence = sequence := by
  unfold TransactionId.new
  split
  · constructor
    · intro equal
      cases equal
      exact ⟨rfl, rfl⟩
    · rintro ⟨rfl, rfl⟩
      rfl
  · rename_i zero
    simp only [reduceCtorEq, false_iff]
    rintro ⟨rfl, rfl⟩
    exact zero ⟨id.epoch_nonzero, id.sequence_nonzero⟩

theorem TransactionId.fields_eq_iff {left right : TransactionId} :
    left.epoch = right.epoch ∧ left.sequence = right.sequence ↔ left = right := by
  cases left
  cases right
  simp

theorem TransactionId.key_injective :
    Function.Injective fun id : TransactionId => toLex (id.epoch, id.sequence) := by
  intro left right equal
  cases left
  cases right
  simpa using equal

instance : DecidableEq TransactionId := fun left right =>
  decidable_of_iff (left.epoch = right.epoch ∧ left.sequence = right.sequence)
    TransactionId.fields_eq_iff

/-- Epoch first, then sequence. -/
instance : LinearOrder TransactionId := LinearOrder.lift' _ TransactionId.key_injective

structure PageId where
  get : U64
  nonzero : get ≠ 0

def PageId.new (value : U64) : Option PageId :=
  if nonzero : value ≠ 0 then some ⟨value, nonzero⟩ else none

theorem PageId.get_injective : Function.Injective PageId.get := by
  intro left right equal
  cases left
  cases right
  simpa using equal

instance : DecidableEq PageId := PageId.get_injective.decidableEq

instance : LinearOrder PageId := LinearOrder.lift' PageId.get PageId.get_injective

/-- Physical WAL generation, incremented once by each reclamation. -/
structure Generation where
  get : U64
deriving DecidableEq

def Generation.zero : Generation := ⟨0⟩

def Generation.isZero (generation : Generation) : Bool := generation.get = 0

def Generation.checkedNext (generation : Generation) : Option Generation :=
  (checkedSucc generation.get).map Generation.mk

theorem Generation.checkedNext_nonzero {generation next : Generation}
    (advances : generation.checkedNext = some next) : next.isZero = false := by
  rcases Option.map_eq_some_iff.mp advances with ⟨value, succeeds, rfl⟩
  have above := lt_of_checkedSucc succeeds
  simp only [Generation.isZero, decide_eq_false_iff_not]
  intro zero
  rw [zero] at above
  exact absurd above (Nat.not_lt_zero _)

/-- Page version carried by a WAL page record, assigned by the caller. -/
structure PageVersion where
  get : U64
deriving DecidableEq

/-- The ordered maps of the source iterate in key order. -/
abbrev BTreeMap (Key Value : Type) [LinearOrder Key] :=
  Std.ExtTreeMap Key Value

instance pageIdTransOrd : Std.TransOrd PageId := inferInstance

instance transactionIdTransOrd : Std.TransOrd TransactionId := inferInstance

instance : Std.LawfulEqOrd PageId where
  eq_of_compare := compare_eq_iff_eq.mp

instance : Std.LawfulEqOrd TransactionId where
  eq_of_compare := compare_eq_iff_eq.mp

end Ntsql.Recovery
