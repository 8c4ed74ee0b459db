import Ntsql.Database.Manifest
import Ntsql.Storage.Header

/-! # Manifest codecs

Both manifest formats are one fixed frame: a header, the identities, versions
and features of a composition, a lifecycle state, a footer and a checksum. They
share the first 128 bytes; the second adds a certificate. -/

namespace Ntsql.Storage

open Bytes Database Transaction

inductive DatabaseManifestDecodeError where
  | truncated (expectedLength actualLength : Nat)
  | trailingBytes (expectedLength actualLength : Nat)
  | headerMagicMismatch (actual : Bytes 8)
  | unsupportedVersion (actual : U16)
  | frameLengthMismatch (actual : U16)
  | headerFlagsUnsupported (actual : Fin (2 ^ 32))
  | footerMagicMismatch (actual : Bytes 8)
  | checksumMismatch (expected actual : U64)
  | reservedByteNonZero (offset : Nat) (actual : UInt8)
  | databaseIdZero
  | lifecycleGenerationZero
  | lifecycleStateUnsupported (actual : UInt8)
  | persistentLogIdZero
  | fileIdZero (role : DatabaseFileRole)
  | compositionIdentity (source : DatabaseCompositionIdentityError)
  | storageFormatVersionZero (role : DatabaseFileRole)
  | requiredFeatures (source : DatabaseRequiredFeaturesError)
  | certificateAreaNonZero (offset : Nat) (actual : UInt8)
  | frontierPresenceUnsupported (actual : UInt8)
  | frontierNotCanonicallyZero (actual : U64)
  | certificateSourceGenerationZero
  | cleanCertificate (source : DatabaseCleanCloseCertificateError)
  | cleanManifest (source : DatabaseLifecycleGenerationTransitionError)
deriving DecidableEq

/-- The lifecycle state that the first format cannot represent. -/
structure DatabaseManifestV1UnsupportedLifecycleState where
  actual : DatabaseManifestLifecycleState
deriving DecidableEq

structure ManifestFormat (width : Nat) where
  headerMagic : Bytes 8
  version : U16
  frameLength : U16
  footerMagic : Bytes 8
  /-- The bytes after the features that are zero in every state. -/
  reserved : List Nat
  states : List UInt8

/-- The part of a manifest that both formats lay out alike. -/
structure ManifestBody where
  compositionIdentity : DatabaseCompositionIdentity
  storageFormats : DatabaseStorageFormatRequirements
  requiredFeatures : DatabaseRequiredFeatures

def manifestBody (manifest : DatabaseManifest) : ManifestBody where
  compositionIdentity := manifest.compositionIdentity
  storageFormats := manifest.storageFormats
  requiredFeatures := manifest.requiredFeatures

def LIFECYCLE_STATE_RECOVERY_REQUIRED : UInt8 := 1

def LIFECYCLE_STATE_CLEAN : UInt8 := 2

/-! ## Both formats -/

section Frame

variable {width : Nat} (format : ManifestFormat width)

def writeManifestHeader (composition : DatabaseCompositionIdentity) : Bytes width :=
  let encoded := Bytes.zero width
  let encoded := encoded.copyFromSlice 0 format.headerMagic.toList
  let encoded := encoded.writeU16 8 format.version
  let encoded := encoded.writeU16 10 format.frameLength
  let encoded := encoded.writeU128 16 composition.databaseId.get
  encoded.writeU64 32 composition.lifecycleGeneration.get

def writeManifestIdentities (encoded : Bytes width) (body : ManifestBody) : Bytes width :=
  let composition := body.compositionIdentity.storageIdentity
  let encoded := encoded.writeU128 48 composition.persistentLogId.get
  let encoded := encoded.writeU128 64 (composition.fileId .wal).get
  let encoded := encoded.writeU128 80 (composition.fileId .pageStore).get
  let encoded := encoded.writeU128 96 (composition.fileId .restartCheckpoint).get
  let encoded := encoded.writeU16 112 (body.storageFormats.version .wal).get
  let encoded := encoded.writeU16 114 (body.storageFormats.version .pageStore).get
  let encoded := encoded.writeU16 116 (body.storageFormats.version .restartCheckpoint).get
  encoded.writeU64 120 body.requiredFeatures.bits

def writeRecoveryRequired (encoded : Bytes width) : Bytes width :=
  encoded.copyFromSlice 40 [LIFECYCLE_STATE_RECOVERY_REQUIRED]

/-- The footer, and the checksum of everything before it. -/
def sealManifest (encoded : Bytes width) : Bytes width :=
  let encoded := encoded.copyFromSlice (width - 16) format.footerMagic.toList
  encoded.writeU64 (width - 8) (checksumV1 (encoded.slice 0 (width - 8)))

/-- A frame whose lifecycle state `writeState` writes. -/
def encodeManifest (writeState : Bytes width → Bytes width) (body : ManifestBody) :
    Bytes width :=
  let encoded := writeState (writeManifestHeader format body.compositionIdentity)
  sealManifest format (writeManifestIdentities encoded body)

def exactFrame (width : Nat) (encoded : List UInt8) :
    Except DatabaseManifestDecodeError (Bytes width) := do
  rejectIf (encoded.length < width) (.truncated width encoded.length)
  rejectIf (encoded.length > width) (.trailingBytes width encoded.length)
  return Bytes.ofList width encoded

/-- The first nonzero byte among `offsets`. -/
def checkZeroBytes (reason : Nat → UInt8 → DatabaseManifestDecodeError)
    (encoded : Bytes width)
    (offsets : List Nat) : Except DatabaseManifestDecodeError Unit :=
  forM offsets fun offset =>
    rejectIf (encoded.byteAt offset ≠ 0) (reason offset (encoded.byteAt offset))

def decodeFileId (encoded : Bytes width) (role : DatabaseFileRole) (offset : Nat) :
    Except DatabaseManifestDecodeError DatabaseFileId :=
  okOr (NonZeroU128.new (encoded.readU128 offset)) (.fileIdZero role)

def decodeStorageFormatVersion (encoded : Bytes width) (role : DatabaseFileRole)
    (offset : Nat) :
    Except DatabaseManifestDecodeError DatabaseStorageFormatVersion :=
  okOr (NonZeroU16.new (encoded.readU16 offset)) (.storageFormatVersionZero role)

def checkManifestFrame (encoded : Bytes width) :
    Except DatabaseManifestDecodeError Unit := do
  rejectIf (encoded.slice 0 8 ≠ format.headerMagic.toList)
    (.headerMagicMismatch (Bytes.ofList 8 (encoded.slice 0 8)))
  rejectIf (encoded.readU16 8 ≠ format.version) (.unsupportedVersion (encoded.readU16 8))
  rejectIf (encoded.readU16 10 ≠ format.frameLength)
    (.frameLengthMismatch (encoded.readU16 10))
  rejectIf (encoded.readU32 12 ≠ 0) (.headerFlagsUnsupported (encoded.readU32 12))
  rejectIf (encoded.slice (width - 16) 8 ≠ format.footerMagic.toList)
    (.footerMagicMismatch (Bytes.ofList 8 (encoded.slice (width - 16) 8)))
  rejectIf (encoded.readU64 (width - 8) ≠ checksumV1 (encoded.slice 0 (width - 8)))
    (.checksumMismatch (checksumV1 (encoded.slice 0 (width - 8)))
      (encoded.readU64 (width - 8)))
  checkZeroBytes .reservedByteNonZero encoded
    (List.range' 41 7 ++ List.range' 118 2 ++ format.reserved)

def decodeCompositionIdentity (encoded : Bytes width) :
    Except DatabaseManifestDecodeError DatabaseCompositionIdentity := do
  let databaseId ← okOr (NonZeroU128.new (encoded.readU128 16)) .databaseIdZero
  let lifecycleGeneration ← okOr (NonZeroU64.new (encoded.readU64 32))
    .lifecycleGenerationZero
  rejectIf (encoded.byteAt 40 ∉ format.states)
    (.lifecycleStateUnsupported (encoded.byteAt 40))
  let persistentLogId ← okOr (NonZeroU128.new (encoded.readU128 48)) .persistentLogIdZero
  let walFileId ← decodeFileId encoded .wal 64
  let pageStoreFileId ← decodeFileId encoded .pageStore 80
  let restartCheckpointFileId ← decodeFileId encoded .restartCheckpoint 96
  (DatabaseCompositionIdentity.new databaseId lifecycleGeneration persistentLogId
    [⟨.wal, walFileId⟩, ⟨.pageStore, pageStoreFileId⟩,
      ⟨.restartCheckpoint, restartCheckpointFileId⟩]).mapError .compositionIdentity

def decodeManifestBody (encoded : Bytes width) :
    Except DatabaseManifestDecodeError ManifestBody := do
  checkManifestFrame format encoded
  let compositionIdentity ← decodeCompositionIdentity format encoded
  let wal ← decodeStorageFormatVersion encoded .wal 112
  let pageStore ← decodeStorageFormatVersion encoded .pageStore 114
  let restartCheckpoint ← decodeStorageFormatVersion encoded .restartCheckpoint 116
  let requiredFeatures
    ← (DatabaseRequiredFeatures.fromBits (encoded.readU64 120)).mapError .requiredFeatures
  return {
    compositionIdentity, storageFormats := ⟨wal, pageStore, restartCheckpoint⟩,
      requiredFeatures }

end Frame

/-! ## The first format -/

/-- `NTSQDBM1` and `NTSQDBE1`. -/
def manifestV1 : ManifestFormat 160 where
  headerMagic := #v[0x4e, 0x54, 0x53, 0x51, 0x44, 0x42, 0x4d, 0x31]
  version := 1
  frameLength := 160
  footerMagic := #v[0x4e, 0x54, 0x53, 0x51, 0x44, 0x42, 0x45, 0x31]
  reserved := List.range' 128 16
  states := [LIFECYCLE_STATE_RECOVERY_REQUIRED]

def encodeDatabaseManifest (manifest : DatabaseManifest) :
    Except DatabaseManifestV1UnsupportedLifecycleState (Bytes 160) :=
  match manifest.lifecycleState with
  | .clean certificate => .error ⟨.clean certificate⟩
  | .recoveryRequired =>
      .ok (encodeManifest manifestV1 writeRecoveryRequired (manifestBody manifest))

def decodeDatabaseManifest (encoded : List UInt8) :
    Except DatabaseManifestDecodeError DatabaseManifest := do
  let frame ← exactFrame 160 encoded
  let body ← decodeManifestBody manifestV1 frame
  return .recoveryRequired body.compositionIdentity body.storageFormats
    body.requiredFeatures

/-! ## The second format -/

/-- `NTSQDBM2` and `NTSQDBE2`. -/
def manifestV2 : ManifestFormat 256 where
  headerMagic := #v[0x4e, 0x54, 0x53, 0x51, 0x44, 0x42, 0x4d, 0x32]
  version := 2
  frameLength := 256
  footerMagic := #v[0x4e, 0x54, 0x53, 0x51, 0x44, 0x42, 0x45, 0x32]
  reserved := []
  states := [LIFECYCLE_STATE_RECOVERY_REQUIRED, LIFECYCLE_STATE_CLEAN]

def writeFrontier (encoded : Bytes 256) : Option NonZeroU64 → Bytes 256
  | some value => (encoded.copyFromSlice 136 [1]).writeU64 144 value.get
  | none => encoded.copyFromSlice 136 [0]

def writeCertificate (encoded : Bytes 256) (certificate : DatabaseCleanCloseCertificate) :
    Bytes 256 :=
  let encoded := encoded.writeU64 128 certificate.sourceGeneration.get
  let encoded := writeFrontier encoded certificate.durableWalFrontier
  let encoded := encoded.writeU64 152 certificate.allocatedTransactionEpochHighWater.get
  let encoded := encoded.writeU16 160 certificate.checkpointAnchorVersion.get
  let encoded := encoded.writeU128 168 certificate.checkpointAnchorValue
  let encoded := encoded.writeU64 184 certificate.transactionEntryCount
  encoded.writeU64 192 certificate.pageEntryCount

def writeLifecycleState (state : DatabaseManifestLifecycleState) (encoded : Bytes 256) :
    Bytes 256 :=
  match state with
  | .recoveryRequired => writeRecoveryRequired encoded
  | .clean certificate =>
      writeCertificate (encoded.copyFromSlice 40 [LIFECYCLE_STATE_CLEAN]) certificate

def encodeDatabaseManifestV2 (manifest : DatabaseManifest) : Bytes 256 :=
  encodeManifest manifestV2 (writeLifecycleState manifest.lifecycleState)
    (manifestBody manifest)

def decodeFrontier (encoded : Bytes 256) :
    Except DatabaseManifestDecodeError (Option U64) :=
  if encoded.byteAt 136 = 0 then do
    rejectIf (encoded.readU64 144 ≠ 0) (.frontierNotCanonicallyZero (encoded.readU64 144))
    return none
  else if encoded.byteAt 136 = 1 then .ok (some (encoded.readU64 144))
  else .error (.frontierPresenceUnsupported (encoded.byteAt 136))

def decodeCertificate (encoded : Bytes 256) :
    Except DatabaseManifestDecodeError DatabaseCleanCloseCertificate := do
  checkZeroBytes .reservedByteNonZero encoded
    (List.range' 137 7 ++ List.range' 162 6 ++ List.range' 200 40)
  let sourceGeneration ← okOr (NonZeroU64.new (encoded.readU64 128))
    .certificateSourceGenerationZero
  let durableWalFrontier ← decodeFrontier encoded
  (DatabaseCleanCloseCertificate.new sourceGeneration durableWalFrontier
    (encoded.readU64 152) (encoded.readU16 160) (encoded.readU128 168)
    (encoded.readU64 184) (encoded.readU64 192)).mapError .cleanCertificate

def decodeLifecycleState (body : ManifestBody) (encoded : Bytes 256) :
    Except DatabaseManifestDecodeError DatabaseManifest :=
  if encoded.byteAt 40 = LIFECYCLE_STATE_RECOVERY_REQUIRED then do
    checkZeroBytes .certificateAreaNonZero encoded (List.range' 128 112)
    return .recoveryRequired body.compositionIdentity body.storageFormats
      body.requiredFeatures
  else do
    let certificate ← decodeCertificate encoded
    (DatabaseManifest.clean body.compositionIdentity body.storageFormats
      body.requiredFeatures certificate).mapError .cleanManifest

def decodeDatabaseManifestV2 (encoded : List UInt8) :
    Except DatabaseManifestDecodeError DatabaseManifest := do
  let frame ← exactFrame 256 encoded
  let body ← decodeManifestBody manifestV2 frame
  decodeLifecycleState body frame

end Ntsql.Storage
