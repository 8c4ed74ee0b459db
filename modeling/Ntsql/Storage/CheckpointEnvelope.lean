import Ntsql.Foundation.CheckedSlice
import Ntsql.Storage.Frame

/-! # Checkpoint envelopes

An encoded checkpoint ends with a footer: a magic and the checksum of every byte
before it. A decoder compares the length it computes from the declared counts
with the declared length and with the bytes it has, and then checks the footer. -/

namespace Ntsql.Storage.Checkpoint

open Bytes Checked

variable {ε : Type} {usizeMax : Nat} {bytes : List UInt8}

/-- The contents with the footer that protects them. -/
def withFooter (footerMagic contents : List UInt8) : List UInt8 :=
  let encoded := contents ++ footerMagic
  encoded ++ bigEndian 8 (checksumV1 encoded).val

theorem length_withFooter {footerMagic : List UInt8} (eight : footerMagic.length = 8)
    (contents : List UInt8) :
      (withFooter footerMagic contents).length = contents.length + 16 := by
  simp [withFooter, eight]

theorem eq_withFooter_iff {footerMagic contents : List UInt8}
    (eight : footerMagic.length = 8) (length : bytes.length = contents.length + 16) :
    bytes = withFooter footerMagic contents ↔
      field bytes 0 contents.length = contents ∧
        field bytes contents.length 8 = footerMagic ∧
          field bytes (contents.length + 8) 8 =
            bigEndian 8 (checksumV1 (field bytes 0 (contents.length + 8))).val := by
  have cut : bytes = field bytes 0 (contents.length + 8) ++ field bytes
      (contents.length + 8) 8 := by
    have whole := field_add bytes 0 (contents.length + 8) 8
    rw [Nat.zero_add] at whole
    rw [← whole, field, List.drop_zero, List.take_of_length_le (by omega)]
  have front := field_add bytes 0 contents.length 8
  rw [Nat.zero_add] at front
  constructor
  · intro sealed
    rw [withFooter] at sealed
    have parts := List.append_inj (cut.symm.trans sealed) (by
      rw [length_field (by omega), List.length_append, eight])
    have inner := List.append_inj (front.symm.trans parts.1) (length_field (by omega))
    exact ⟨inner.1, inner.2, by rw [parts.2, parts.1]⟩
  · rintro ⟨first, magic, checksum⟩
    rw [first, magic] at front
    rw [front] at checksum
    rw [withFooter, cut, front, checksum]

/-! ## Decoding -/

/-- `copy_magic`. -/
def copyMagic (usizeMax : Nat) (bytes : List UInt8) (offset : Nat) :
    Checked ε (List UInt8) := do
  let stop ← add usizeMax offset 8
  slice bytes offset stop

theorem copyMagic_eq {offset : Nat} (fits : offset + 8 ≤ bytes.length)
    (held : bytes.length ≤ usizeMax) :
    (copyMagic usizeMax bytes offset : Checked ε (List UInt8)) = pure
      (field bytes offset 8) := by
  rw [copyMagic, add_eq (fits.trans held), pure_bind,
    slice_eq (Nat.le_add_right _ _) fits, Nat.add_sub_cancel_left]

structure EnvelopeErrors (ε : Type) where
  declaredLengthMismatch (declared : U64) (expected : Nat) : ε
  totalLengthOutOfRange (totalLength : Nat) : ε
  truncated (expectedLength actualLength : Nat) : ε
  trailingBytes (expectedLength actualLength : Nat) : ε
  footerMagicMismatch (actual : List UInt8) : ε
  checksumMismatch (expected actual : U64) : ε

/-- The footer of the declared length, and what it protects. -/
def checkFooter (errors : EnvelopeErrors ε) (usizeMax : Nat)
    (footerMagic bytes : List UInt8) (expectedLength : Nat) : Checked ε Unit := do
  let footerOffset ← sub expectedLength 16
  let magic ← copyMagic usizeMax bytes footerOffset
  refuseIf (magic ≠ footerMagic) (errors.footerMagicMismatch magic)
  let checksumOffset ← sub expectedLength 8
  let actualChecksum ← readUint usizeMax 64 8 bytes checksumOffset
  let expectedChecksum := checksumV1 (← slice bytes 0 checksumOffset)
  refuseIf (actualChecksum ≠ expectedChecksum)
    (errors.checksumMismatch expectedChecksum actualChecksum)

def checkEnvelope (errors : EnvelopeErrors ε) (usizeMax : Nat)
    (footerMagic bytes : List UInt8)
    (expectedLength : Nat) (declaredLength : U64) : Checked ε Unit := do
  refuseIf (declaredLength.val ≠ expectedLength)
    (errors.declaredLengthMismatch declaredLength expectedLength)
  refuseIf (usizeMax < expectedLength) (errors.totalLengthOutOfRange expectedLength)
  refuseIf (bytes.length < expectedLength) (errors.truncated expectedLength bytes.length)
  refuseIf (expectedLength < bytes.length)
    (errors.trailingBytes expectedLength bytes.length)
  checkFooter errors usizeMax footerMagic bytes expectedLength

section Envelope

variable {length : Nat} {footerMagic : List UInt8} {errors : EnvelopeErrors ε}

theorem checkFooter_eq (exact : bytes.length = length + 16)
    (held : bytes.length ≤ usizeMax) :
    checkFooter errors usizeMax footerMagic bytes (length + 16) = (do
      refuseIf (field bytes length 8 ≠ footerMagic)
        (errors.footerMagicMismatch (field bytes length 8))
      refuseIf
        (uintOf 64 (field bytes (length + 8) 8) ≠ checksumV1 (field bytes 0 (length + 8)))
        (errors.checksumMismatch (checksumV1 (field bytes 0 (length + 8)))
          (uintOf 64 (field bytes (length + 8) 8)))) := by
  have offset : length + 16 - 8 = length + 8 := by omega
  rw [checkFooter, sub_eq (by omega), pure_bind, Nat.add_sub_cancel,
    copyMagic_eq (by omega) held, pure_bind, sub_eq (by omega), pure_bind, offset,
    readUint_eq (by omega) held, pure_bind, slice_eq (Nat.zero_le _) (by omega),
    pure_bind, Nat.sub_zero]

theorem checkEnvelope_yields_iff (held : bytes.length ≤ usizeMax) (declaredLength : U64)
    (value : Unit) :
    Yields (checkEnvelope errors usizeMax footerMagic bytes (length + 16) declaredLength)
      value ↔
      declaredLength.val = length + 16 ∧ bytes.length = length + 16 ∧
        field bytes length 8 = footerMagic ∧
          field bytes (length + 8) 8 =
            bigEndian 8 (checksumV1 (field bytes 0 (length + 8))).val := by
  by_cases exact : bytes.length = length + 16
  · have matching : 64 = 8 * 8 := rfl
    have inside : length + 8 + 8 ≤ bytes.length := by omega
    have checksum :=
      field_eq_bigEndian_iff matching inside (checksumV1 (field bytes 0 (length + 8)))
    rw [checkEnvelope, checkFooter_eq exact held]
    simp only [yields_bind_iff, yields_refuseIf_iff, exact, checksum, not_lt,
      Decidable.not_not, le_refl, true_and, exists_const]
    constructor
    · rintro ⟨declared, _, magic, valid⟩
      exact ⟨declared, magic, valid⟩
    · rintro ⟨declared, magic, valid⟩
      exact ⟨declared, by omega, magic, valid⟩
  · simp only [checkEnvelope, yields_bind_iff, yields_refuseIf_iff]
    constructor
    · rintro ⟨_, _, _, _, _, enough, _, noMore, _⟩
      omega
    · rintro ⟨_, same, _⟩
      exact absurd same exact

theorem checkEnvelope_total (held : bytes.length ≤ usizeMax) (declaredLength : U64) :
    Total (checkEnvelope errors usizeMax footerMagic bytes (length + 16)
      declaredLength) := by
  rw [checkEnvelope]
  apply total_bind (total_refuseIf _ _)
  intro _ _
  apply total_bind (total_refuseIf _ _)
  intro _ _
  apply total_bind (total_refuseIf _ _)
  intro _ enough
  apply total_bind (total_refuseIf _ _)
  intro _ noMore
  rw [yields_refuseIf_iff] at enough noMore
  rw [checkFooter_eq (by omega) held]
  apply total_bind (total_refuseIf _ _)
  intro _ _
  exact total_refuseIf _ _

end Envelope

end Ntsql.Storage.Checkpoint
