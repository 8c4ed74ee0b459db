import Mathlib

/-! # Machine integers

Fixed-width unsigned integers with the checked operations programs use on
counters. Arithmetic never wraps here: every increment is checked. -/

namespace Ntsql

abbrev U16 := Fin (2 ^ 16)

abbrev U64 := Fin (2 ^ 64)

abbrev U128 := Fin (2 ^ 128)

/-! The widths are positive and small literals are not zero. Named, so that every
definition uses the same proofs. -/

instance neZeroU16 : NeZero (2 ^ 16) := ⟨by decide⟩

instance neZeroU32 : NeZero (2 ^ 32) := ⟨by decide⟩

instance neZeroU64 : NeZero (2 ^ 64) := ⟨by decide⟩

instance neZeroU128 : NeZero (2 ^ 128) := ⟨by decide⟩

/-! What holds of an optional integer is decided on the one it holds, not on all
integers of its width. -/

instance decidableForallMemFin {bound : Nat} {holds : Fin bound → Prop}
    [DecidablePred holds]
    (value : Option (Fin bound)) : Decidable (∀ held ∈ value, holds held) :=
  Option.decidableForallMem value

instance decidableExistsMemFin {bound : Nat} {holds : Fin bound → Prop}
    [DecidablePred holds]
    (value : Option (Fin bound)) : Decidable (∃ held ∈ value, holds held) :=
  Option.decidableExistsMem value

theorem u64_one_ne_zero : (1 : U64) ≠ 0 := by decide

theorem u64_two_ne_zero : (2 : U64) ≠ 0 := by decide

theorem u128_one_ne_zero : (1 : U128) ≠ 0 := by decide

/-- The greatest `u64`, which is also the greatest 64-bit `usize`. -/
def u64Max : Nat := 2 ^ 64 - 1

theorem u64Max_lt : u64Max < 2 ^ 64 := by decide

/-- `value.checked_add(1)`. -/
def checkedSucc (value : U64) : Option U64 :=
  if fits : value.val + 1 < 2 ^ 64 then some ⟨value.val + 1, fits⟩ else none

/-- `value.checked_sub(1)`. -/
def checkedPred (value : U64) : Option U64 :=
  if 0 < value.val then
    some ⟨value.val - 1, Nat.lt_of_le_of_lt (Nat.sub_le _ _) value.isLt⟩
  else
    none

/-- `u64::try_from(count)`. -/
def tryU64 (count : Nat) : Option U64 :=
  if fits : count < 2 ^ 64 then some ⟨count, fits⟩ else none

/-- `count.checked_add(1)` on a 64-bit `usize`. -/
def checkedCount (count : Nat) : Option Nat :=
  if count + 1 ≤ u64Max then some (count + 1) else none

/-- `left.checked_add(right)` on 64-bit `usize` counts. -/
def checkedTotal (left right : Nat) : Option Nat :=
  if left + right ≤ u64Max then some (left + right) else none

theorem checkedSucc_eq_some {value next : U64} :
    checkedSucc value = some next ↔ next.val = value.val + 1 := by
  unfold checkedSucc
  split
  · simp [Fin.ext_iff, eq_comm]
  · have bound := next.isLt
    simp
    omega

theorem checkedSucc_eq_none {value : U64} :
    checkedSucc value = none ↔ value.val = u64Max := by
  have bound := value.isLt
  simp only [checkedSucc, u64Max, dite_eq_right_iff, reduceCtorEq, imp_false]
  omega

theorem checkedPred_eq_some {value previous : U64} :
    checkedPred value = some previous ↔ value.val = previous.val + 1 := by
  unfold checkedPred
  split
  · simp [Fin.ext_iff]
    omega
  · simp
    omega

theorem lt_of_checkedSucc {value next : U64} (advances : checkedSucc value = some next) :
    value < next := by
  have equal := checkedSucc_eq_some.mp advances
  exact Fin.lt_def.mpr (by omega)

theorem tryU64_eq_some {count : Nat} {value : U64} : tryU64 count = some value ↔
    value.val = count := by
  unfold tryU64
  split
  · simp [Fin.ext_iff, eq_comm]
  · have bound := value.isLt
    simp
    omega

theorem checkedCount_eq_some {count next : Nat} :
    checkedCount count = some next ↔ count < u64Max ∧ next = count + 1 := by
  unfold checkedCount
  split <;> simp <;> omega

theorem checkedTotal_eq_some {left right total : Nat} :
    checkedTotal left right = some total ↔
      left + right ≤ u64Max ∧ total = left + right := by
  unfold checkedTotal
  split <;> simp <;> omega

end Ntsql
