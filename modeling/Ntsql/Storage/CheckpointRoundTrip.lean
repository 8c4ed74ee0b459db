import Ntsql.Storage.CheckpointCodec
import Ntsql.Storage.CompletenessCodec

/-! # Checkpoints read back

Both checkpoint codecs are exact: encoding and decoding are inverse to each
other, and decoding answers on every byte string. -/

namespace Ntsql.Storage

namespace Checkpoint

open Checked Transaction

/-- Encodings and accepted byte strings correspond one to one, and every byte
string is accepted or refused without leaving it or overflowing. -/
structure ExactCodec {ε ζ α : Type} (usizeMax : Nat) (encodedLength : α → Nat)
    (encode : α → Except ε (List UInt8)) (decode : List UInt8 → Checked ζ α) : Prop where
  encodes_iff : ∀ value, (∃ bytes, encode value = .ok bytes) ↔
    encodedLength value ≤ usizeMax ∧ encodedLength value ≤ u64Max
  decode_encode : ∀ value bytes, encode value = .ok bytes → Yields (decode bytes) value
  encode_decode : ∀ (blob : Blob usizeMax) value,
    Yields (decode blob.bytes) value → encode value = .ok blob.bytes
  accepted_unique : ∀ (left right : Blob usizeMax) value,
    Yields (decode left.bytes) value → Yields (decode right.bytes) value → left = right
  decode_total : ∀ blob : Blob usizeMax, Total (decode blob.bytes)

theorem ExactCodec.of_yields_iff {ε ζ α : Type} {usizeMax : Nat} {encodedLength : α → Nat}
    {encode : α → Except ε (List UInt8)} {decode : List UInt8 → Checked ζ α}
    (encodes_iff : ∀ value, (∃ bytes, encode value = .ok bytes) ↔
      encodedLength value ≤ usizeMax ∧ encodedLength value ≤ u64Max)
    (length_le : ∀ value bytes, encode value = .ok bytes → bytes.length ≤ usizeMax)
    (yields_iff : ∀ bytes : List UInt8, bytes.length ≤ usizeMax → ∀ value,
      Yields (decode bytes) value ↔ encode value = .ok bytes)
    (total : ∀ bytes : List UInt8, bytes.length ≤ usizeMax → Total (decode bytes)) :
    ExactCodec usizeMax encodedLength encode decode := by
  have encode_decode : ∀ (blob : Blob usizeMax) value,
      Yields (decode blob.bytes) value → encode value = .ok blob.bytes := by
    intro blob value decoded
    exact (yields_iff blob.bytes blob.length_le value).mp decoded
  constructor
  · exact encodes_iff
  · intro value bytes encoded
    exact (yields_iff bytes (length_le value bytes encoded) value).mpr encoded
  · exact encode_decode
  · intro left right value leftDecoded rightDecoded
    have same := (encode_decode left value leftDecoded).symm.trans
      (encode_decode right value rightDecoded)
    cases left
    cases right
    cases same
    rfl
  · intro blob
    exact total blob.bytes blob.length_le

end Checkpoint

namespace RestartCheckpoint

open Checkpoint Transaction

def encodedLength (observation : RestartCheckpointBaselineObservation) : Nat :=
  observation.transactions.length * 64 + 64 + 16

theorem length_of_encodeFields {usizeMax : Nat}
    {observation : RestartCheckpointBaselineObservation} {bytes : List UInt8}
    (encoded : encodeFields usizeMax observation = .ok bytes) :
      bytes.length ≤ usizeMax := by
  rcases encodeFields_ok_iff.mp encoded with
    ⟨count, total, counted, length, fits, written⟩
  rcases eq_encoded_iff.mp written with ⟨same, _⟩
  omega

theorem encodeFields_succeeds_iff (usizeMax : Nat)
    (observation : RestartCheckpointBaselineObservation) :
    (∃ bytes, encodeFields usizeMax observation = .ok bytes) ↔
      encodedLength observation ≤ usizeMax ∧ encodedLength observation ≤ u64Max := by
  simp only [encodeFields_ok_iff, encodedLength, u64Max]
  constructor
  · rintro ⟨_, count, total, counted, length, fits, _⟩
    have bound := total.isLt
    omega
  · rintro ⟨fits, representable⟩
    exact ⟨_, ⟨observation.transactions.length, by omega⟩,
      ⟨observation.transactions.length * 64 + 64 + 16, by omega⟩, rfl, rfl, fits, rfl⟩

theorem exact (usizeMax : Nat) :
    ExactCodec usizeMax encodedLength (encodeFields usizeMax)
      (decodeRestartCheckpointBaseline usizeMax) :=
  .of_yields_iff (encodeFields_succeeds_iff usizeMax) (fun _ _ => length_of_encodeFields)
    (fun _ => decode_yields_iff) fun _ => decode_total

end RestartCheckpoint

namespace RestartCheckpointCompleteness

open Checkpoint Transaction

def encodedLength
    (observation : RestartCheckpointCompletenessBaselineObservation) : Nat :=
  observation.transactions.transactions.length * 64 + observation.pages.length *
    64 + 128 + 16

theorem length_of_encodeFields {usizeMax : Nat}
    {observation : RestartCheckpointCompletenessBaselineObservation} {bytes : List UInt8}
    (encoded : encodeFields usizeMax observation = .ok bytes) :
      bytes.length ≤ usizeMax := by
  rcases encodeFields_ok_iff.mp encoded with
    ⟨count, pages, total, counted, paged, length, fits, written⟩
  rcases (eq_encoded_iff rfl).mp written with ⟨same, _⟩
  omega

theorem encodeFields_succeeds_iff (usizeMax : Nat)
    (observation : RestartCheckpointCompletenessBaselineObservation) :
    (∃ bytes, encodeFields usizeMax observation = .ok bytes) ↔
      encodedLength observation ≤ usizeMax ∧ encodedLength observation ≤ u64Max := by
  simp only [encodeFields_ok_iff, encodedLength, u64Max]
  constructor
  · rintro ⟨_, count, pages, total, counted, paged, length, fits, _⟩
    have bound := total.isLt
    omega
  · rintro ⟨fits, representable⟩
    exact ⟨_, ⟨observation.transactions.transactions.length, by omega⟩,
      ⟨observation.pages.length, by omega⟩,
      ⟨observation.transactions.transactions.length * 64 + observation.pages.length *
        64 + 128 + 16, by omega⟩, rfl, rfl, rfl, fits, rfl⟩

theorem exact (usizeMax : Nat) :
    ExactCodec usizeMax encodedLength (encodeFields usizeMax)
      (decodeRestartCheckpointCompletenessBaseline usizeMax) :=
  .of_yields_iff (encodeFields_succeeds_iff usizeMax) (fun _ _ => length_of_encodeFields)
    (fun _ => decode_yields_iff) fun _ => decode_total

end RestartCheckpointCompleteness

namespace Checkpoint

open Checked Transaction

end Checkpoint

end Ntsql.Storage
