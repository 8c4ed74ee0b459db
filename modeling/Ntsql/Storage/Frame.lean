import Ntsql.Domain.Identity
import Ntsql.Foundation.Fallible

/-! # Frames shared by the log and the page store

Both files are a header followed by frames of 56 bytes: a magic, a kind, a
version, two integers and eight payload bytes, protected by a checksum. Page
images are cut into chunks of eight bytes, the last one padded with zeros. -/

namespace Ntsql.Storage

open Bytes

def CHECKSUM_SEED : UInt64 := 0x4e545351_4c434b31

def CHECKSUM_MULTIPLIER : UInt64 := 0x4e545351_4c57414d

def CHECKSUM_XOR : UInt64 := 0x43484543_4b53554d

def rotateLeft (value : UInt64) (count : UInt64) : UInt64 :=
  (value <<< count) ||| (value >>> (64 - count))

def checksumV1 (bytes : List UInt8) : U64 :=
  let folded := bytes.foldl (fun (state : UInt64 × UInt64) byte =>
    let mixed := (state.1 ^^^ byte.toUInt64) * CHECKSUM_MULTIPLIER
    (rotateLeft mixed 7 ^^^ CHECKSUM_XOR, state.2 + 1)) (CHECKSUM_SEED, 0)
  ⟨(folded.1 ^^^ folded.2).toNat, (folded.1 ^^^ folded.2).toNat_lt⟩

/-- A malformed file, with the byte offset that reported it. -/
structure FormatError (Reason : Type) where
  offset : Nat
  reason : Reason
deriving DecidableEq

def formatError {α Reason : Type} (offset : Nat) (reason : Reason) :
    Except (FormatError Reason) α :=
  .error ⟨offset, reason⟩

inductive FrameErrorReason where
  | frameMagic
  | frameKind (actual : U16)
  | frameVersion (actual : U16)
  | frameFlags (actual : Fin (2 ^ 32))
  | frameLength (actual : U16)
  | frameReserved
  | frameChecksum (expected actual : U64)
deriving DecidableEq

structure DecodedFrame (Kind : Type) where
  kind : Kind
  payload0 : U64
  payload1 : U64
  payload2 : U64
  payload2Bytes : Bytes 8
deriving DecidableEq

def uncheckedFrame (magic : Bytes 4) (code version : U16) (payload0 payload1 : U64)
    (payload2Bytes : Bytes 8) : Bytes 56 :=
  let frame := Bytes.zero 56
  let frame := frame.copyFromSlice 0 magic.toList
  let frame := frame.writeU16 4 code
  let frame := frame.writeU16 6 version
  let frame := frame.writeU32 8 0
  let frame := frame.writeU16 12 56
  let frame := frame.writeU16 14 0
  let frame := frame.writeU64 16 payload0
  let frame := frame.writeU64 24 payload1
  frame.copyFromSlice 32 payload2Bytes.toList

def frameBytes (magic : Bytes 4) (code version : U16) (payload0 payload1 : U64)
    (payload2Bytes : Bytes 8) : Bytes 56 :=
  let frame := uncheckedFrame magic code version payload0 payload1 payload2Bytes
  frame.writeU64 48 (checksumV1 (frame.slice 0 48))

/-- The checks every frame must pass, in order. -/
def parseFrameBytes {Kind : Type} (magic : Bytes 4) (fromU16 : U16 → Option Kind)
    (version : U16) (frame : Bytes 56) (offset : Nat) :
    Except (FormatError FrameErrorReason) (DecodedFrame Kind) := do
  rejectIf (frame.slice 0 4 ≠ magic.toList) ⟨offset, .frameMagic⟩
  let kind ← okOr (fromU16 (frame.readU16 4)) ⟨offset + 4, .frameKind (frame.readU16 4)⟩
  rejectIf (frame.readU16 6 ≠ version) ⟨offset + 6, .frameVersion (frame.readU16 6)⟩
  rejectIf (frame.readU32 8 ≠ 0) ⟨offset + 8, .frameFlags (frame.readU32 8)⟩
  rejectIf (frame.readU16 12 ≠ 56) ⟨offset + 12, .frameLength (frame.readU16 12)⟩
  rejectIf (frame.readU16 14 ≠ 0 ∨ anyNonzero (frame.slice 40 8))
    ⟨offset + 14, .frameReserved⟩
  let actual := frame.readU64 48
  let expected := checksumV1 (frame.slice 0 48)
  rejectIf (actual ≠ expected) ⟨offset + 48, .frameChecksum expected actual⟩
  return {
    kind
    payload0 := frame.readU64 16
    payload1 := frame.readU64 24
    payload2 := frame.readU64 32
    payload2Bytes := Bytes.ofList 8 (frame.slice 32 8) }

section Fields

variable (magic : Bytes 4) (code version : U16) (payload0 payload1 : U64)
  (payload2Bytes : Bytes 8)

attribute [local simp] frameBytes uncheckedFrame readU16 readU32 readU64 writeU16
  writeU32 writeU64 slice_copyFromSlice_of_disjoint uintOf_bigEndian slice_zero

theorem frameBytes_magic :
    (frameBytes magic code version payload0 payload1 payload2Bytes).slice 0 4 =
      magic.toList := by
  simp

theorem frameBytes_code :
    (frameBytes magic code version payload0 payload1 payload2Bytes).readU16 4 = code := by
  simp

theorem frameBytes_version :
    (frameBytes magic code version payload0 payload1 payload2Bytes).readU16 6 =
      version := by
  simp

theorem frameBytes_flags :
    (frameBytes magic code version payload0 payload1 payload2Bytes).readU32 8 = 0 := by
  simp
  rfl

theorem frameBytes_length :
    (frameBytes magic code version payload0 payload1 payload2Bytes).readU16 12 = 56 := by
  simp
  rfl

theorem frameBytes_reserved :
    (frameBytes magic code version payload0 payload1 payload2Bytes).readU16 14 = 0 ∧
      anyNonzero
        ((frameBytes magic code version payload0 payload1 payload2Bytes).slice 40 8) =
        false := by
  constructor
  · simp
    rfl
  · simp [anyNonzero]

theorem frameBytes_checksum :
    (frameBytes magic code version payload0 payload1 payload2Bytes).readU64 48 =
      checksumV1
        ((frameBytes magic code version payload0 payload1 payload2Bytes).slice 0 48) := by
  simp

theorem frameBytes_payload0 :
    (frameBytes magic code version payload0 payload1 payload2Bytes).readU64 16 =
      payload0 := by
  simp

theorem frameBytes_payload1 :
    (frameBytes magic code version payload0 payload1 payload2Bytes).readU64 24 =
      payload1 := by
  simp

theorem frameBytes_payload2 :
    (frameBytes magic code version payload0 payload1 payload2Bytes).slice 32 8 =
      payload2Bytes.toList := by
  simp

end Fields

theorem parseFrameBytes_frameBytes {Kind : Type} {magic : Bytes 4}
    {fromU16 : U16 → Option Kind} {code version : U16} {kind : Kind}
    (known : fromU16 code = some kind) (payload0 payload1 : U64) (payload2Bytes : Bytes 8)
    (offset : Nat) :
    parseFrameBytes magic fromU16 version
        (frameBytes magic code version payload0 payload1 payload2Bytes) offset =
      .ok {
        kind, payload0, payload1
        payload2 := uintOf 64 payload2Bytes.toList
        payload2Bytes } := by
  have bytes : Bytes.ofList 8 payload2Bytes.toList = payload2Bytes :=
    ofList_toList payload2Bytes
  have integer (frame : Bytes 56) : frame.readU64 32 = uintOf 64 (frame.slice 32 8) := rfl
  simp only [parseFrameBytes, frameBytes_magic, frameBytes_code, known,
    frameBytes_version, frameBytes_flags, frameBytes_length, frameBytes_reserved,
    frameBytes_payload0, frameBytes_payload1, frameBytes_payload2, integer, bytes,
    ← frameBytes_checksum]
  simp [rejectIf, okOr, Except.ok_bind]

end Ntsql.Storage
