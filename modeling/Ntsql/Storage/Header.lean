import Ntsql.Storage.Layout

/-! # File headers

The checks every header starts with, and the identity of the database file that
newer headers carry. -/

namespace Ntsql.Storage

open Bytes

/-! ## Database child identity -/

inductive DatabaseChildIdentityDecodeErrorReason where
  | magic
  | version (actual : U16)
  | length (actual : U16)
  | role (actual : UInt8)
  | reserved (actual : UInt8)
  | databaseIdZero
  | fileIdZero
deriving DecidableEq

namespace ChildIdentity

/-- `NTSQCFI1`. -/
def MAGIC : Bytes 8 := #v[0x4e, 0x54, 0x53, 0x51, 0x43, 0x46, 0x49, 0x31]

def encodeRole : DatabaseFileRole → UInt8
  | .wal => 1
  | .pageStore => 2
  | .restartCheckpoint => 3

def decodeRole (role : UInt8) :
    Except (FormatError DatabaseChildIdentityDecodeErrorReason) DatabaseFileRole :=
  if role = 1 then .ok .wal
  else if role = 2 then .ok .pageStore
  else if role = 3 then .ok .restartCheckpoint
  else formatError 12 (.role role)

end ChildIdentity

open ChildIdentity in
def encodeDatabaseChildIdentity (identity : DatabaseFileHeaderIdentity) : Bytes 48 :=
  let encoded := Bytes.zero 48
  let encoded := encoded.copyFromSlice 0 MAGIC.toList
  let encoded := encoded.writeU16 8 1
  let encoded := encoded.writeU16 10 48
  let encoded := encoded.copyFromSlice 12 [encodeRole identity.role]
  let encoded := encoded.writeU128 16 identity.databaseId.get
  encoded.writeU128 32 identity.fileId.get

/-- The first reserved byte that is not zero. -/
def checkReservedBytes (encoded : Bytes 48) :
    Except (FormatError DatabaseChildIdentityDecodeErrorReason) Unit :=
  forM [13, 14, 15] fun offset =>
    rejectIf (encoded.byteAt offset ≠ 0) ⟨offset, .reserved (encoded.byteAt offset)⟩

open ChildIdentity in
def decodeDatabaseChildIdentity (encoded : Bytes 48) :
    Except (FormatError DatabaseChildIdentityDecodeErrorReason)
      DatabaseFileHeaderIdentity := do
  rejectIf (encoded.slice 0 8 ≠ MAGIC.toList) ⟨0, .magic⟩
  rejectIf (encoded.readU16 8 ≠ 1) ⟨8, .version (encoded.readU16 8)⟩
  rejectIf (encoded.readU16 10 ≠ 48) ⟨10, .length (encoded.readU16 10)⟩
  let role ← decodeRole (encoded.byteAt 12)
  checkReservedBytes encoded
  let databaseId ← okOr (NonZeroU128.new (encoded.readU128 16)) ⟨16, .databaseIdZero⟩
  let fileId ← okOr (NonZeroU128.new (encoded.readU128 32)) ⟨32, .fileIdZero⟩
  return ⟨databaseId, role, fileId⟩

theorem decodeRole_encodeRole (role : DatabaseFileRole) :
    ChildIdentity.decodeRole (ChildIdentity.encodeRole role) = .ok role := by
  cases role <;> rfl

section Fields

variable (identity : DatabaseFileHeaderIdentity)

attribute [local simp] encodeDatabaseChildIdentity readU16 readU128 writeU16
  writeU128 byteAt slice_copyFromSlice_of_disjoint uintOf_bigEndian slice_zero

theorem encodeDatabaseChildIdentity_magic :
    (encodeDatabaseChildIdentity identity).slice 0 8 = ChildIdentity.MAGIC.toList := by
  simp

theorem encodeDatabaseChildIdentity_version :
    (encodeDatabaseChildIdentity identity).readU16 8 = 1 := by
  simp
  rfl

theorem encodeDatabaseChildIdentity_length :
    (encodeDatabaseChildIdentity identity).readU16 10 = 48 := by
  simp
  rfl

theorem encodeDatabaseChildIdentity_role :
    (encodeDatabaseChildIdentity identity).byteAt 12 =
      ChildIdentity.encodeRole identity.role := by
  simp

theorem encodeDatabaseChildIdentity_reserved :
    checkReservedBytes (encodeDatabaseChildIdentity identity) = .ok () := by
  rw [checkReservedBytes, Except.forM_ok_iff]
  simp [rejectIf]

theorem encodeDatabaseChildIdentity_databaseId :
    (encodeDatabaseChildIdentity identity).readU128 16 = identity.databaseId.get := by
  simp

theorem encodeDatabaseChildIdentity_fileId :
    (encodeDatabaseChildIdentity identity).readU128 32 = identity.fileId.get := by
  simp

end Fields

theorem decode_encodeDatabaseChildIdentity (identity : DatabaseFileHeaderIdentity) :
    decodeDatabaseChildIdentity (encodeDatabaseChildIdentity identity) =
      .ok identity := by
  simp only [decodeDatabaseChildIdentity, encodeDatabaseChildIdentity_magic,
    encodeDatabaseChildIdentity_version, encodeDatabaseChildIdentity_length,
    encodeDatabaseChildIdentity_role, encodeDatabaseChildIdentity_reserved,
    encodeDatabaseChildIdentity_databaseId, encodeDatabaseChildIdentity_fileId,
    decodeRole_encodeRole, NonZeroU128.new_get]
  rfl

/-! ## Common header fields -/

/-- What can be wrong with the fields all headers share. -/
inductive HeaderErrorReason where
  | headerTooShort (actual : Nat)
  | headerMagic
  | headerVersion (actual : U16)
  | headerLength (actual : U16)
  | headerFlags (actual : Fin (2 ^ 32))
  | headerPageWidthZero
  | headerPageWidthMismatch (expected actual : U64)
  | headerReserved
  | headerDatabaseChildIdentity (reason : DatabaseChildIdentityDecodeErrorReason)
  | headerChecksum (expected actual : U64)
  | lineageIdZero
deriving DecidableEq

section Checks

variable {length : Nat}

/-- Magic, version, length, flags and persistent identity. -/
def parseHeaderStart (magic : Bytes 8) (version headerLength : U16)
    (header : Bytes length) :
    Except (FormatError HeaderErrorReason) PersistentLogId := do
  rejectIf (header.slice 0 8 ≠ magic.toList) ⟨0, .headerMagic⟩
  rejectIf (header.readU16 8 ≠ version) ⟨8, .headerVersion (header.readU16 8)⟩
  rejectIf (header.readU16 10 ≠ headerLength) ⟨10, .headerLength (header.readU16 10)⟩
  rejectIf (header.readU32 12 ≠ 0) ⟨12, .headerFlags (header.readU32 12)⟩
  okOr (NonZeroU128.new (header.readU128 16)) ⟨16, .lineageIdZero⟩

def checkPageWidth (header : Bytes length) (layout : PageLayout) :
    Except (FormatError HeaderErrorReason) Unit := do
  let pageWidth := header.readU64 32
  rejectIf (pageWidth = 0) ⟨32, .headerPageWidthZero⟩
  rejectIf (pageWidth ≠ layout.width)
    ⟨32, .headerPageWidthMismatch layout.width pageWidth⟩

/-- `header[start..stop]` must be zero. -/
def checkReserved (header : Bytes length) (start stop : Nat) :
    Except (FormatError HeaderErrorReason) Unit :=
  rejectIf (anyNonzero (header.slice start (stop - start))) ⟨start, .headerReserved⟩

/-- The checksum at `offset` protects the bytes before it. -/
def checkHeaderChecksum (header : Bytes length) (offset : Nat) :
    Except (FormatError HeaderErrorReason) Unit := do
  let actual := header.readU64 offset
  let expected := checksumV1 (header.slice 0 offset)
  rejectIf (actual ≠ expected) ⟨offset, .headerChecksum expected actual⟩

/-- The identity extension at `offset`. -/
def parseChildIdentity (header : Bytes length) (offset : Nat) :
    Except (FormatError HeaderErrorReason) DatabaseFileHeaderIdentity :=
  match decodeDatabaseChildIdentity (Bytes.ofList 48 (header.slice offset 48)) with
  | .ok identity => .ok identity
  | .error error =>
      formatError (offset + error.offset) (.headerDatabaseChildIdentity error.reason)

/-! A header that carries the fields a check asks for passes it. -/

section Accepted

variable {header : Bytes length}

theorem parseHeaderStart_ok {magic : Bytes 8} {version headerLength : U16}
    {persistentId : PersistentLogId} (hasMagic : header.slice 0 8 = magic.toList)
    (hasVersion : header.readU16 8 = version)
    (hasLength : header.readU16 10 = headerLength) (hasFlags : header.readU32 12 = 0)
    (hasId : header.readU128 16 = persistentId.get) :
    parseHeaderStart magic version headerLength header = .ok persistentId := by
  simp only [parseHeaderStart, hasMagic, hasVersion, hasLength, hasFlags, hasId,
    NonZeroU128.new_get]
  simp [rejectIf, okOr, Except.ok_bind]

theorem checkPageWidth_ok {layout : PageLayout} (positive : layout.width ≠ 0)
    (carries : header.readU64 32 = layout.width) :
      checkPageWidth header layout = .ok () := by
  simp [checkPageWidth, carries, rejectIf, positive, Except.ok_bind]

theorem checkReserved_ok {start stop : Nat}
    (zeros : header.slice start (stop - start) = List.replicate (stop - start) 0) :
    checkReserved header start stop = .ok () := by
  simp [checkReserved, zeros, rejectIf]

theorem checkHeaderChecksum_ok {offset : Nat}
    (carries : header.readU64 offset = checksumV1 (header.slice 0 offset)) :
    checkHeaderChecksum header offset = .ok () := by
  simp [checkHeaderChecksum, carries, rejectIf]

theorem parseChildIdentity_ok {offset : Nat} {identity : DatabaseFileHeaderIdentity}
    (carries : header.slice offset 48 = (encodeDatabaseChildIdentity identity).toList) :
    parseChildIdentity header offset = .ok identity := by
  rw [parseChildIdentity, carries, ofList_toList, decode_encodeDatabaseChildIdentity]

end Accepted

end Checks

end Ntsql.Storage
