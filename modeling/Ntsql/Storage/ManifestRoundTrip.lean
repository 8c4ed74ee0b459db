import Ntsql.Storage.ManifestCodec
import Ntsql.Storage.ParsedImages

/-! # Manifests read back

Both manifest codecs, and the codec of child identities, accept the encodings
and nothing else. A frame carries a manifest when its fields do; what is
encoded carries it, what is decoded carried it, and one frame at most does. -/

namespace Ntsql.Storage

open Bytes Checked Database Transaction

/-! ## What both formats carry -/

section Frame

variable {width : Nat}

/-- The fields of `encoded` that both formats share are those of `body`. -/
structure CarriesBody (format : ManifestFormat width) (encoded : Bytes width)
    (body : ManifestBody) : Prop where
  headerMagic : encoded.slice 0 8 = format.headerMagic.toList
  version : encoded.readU16 8 = format.version
  frameLength : encoded.readU16 10 = format.frameLength
  flags : encoded.readU32 12 = 0
  footerMagic : encoded.slice (width - 16) 8 = format.footerMagic.toList
  checksum : Sealed encoded (width - 8)
  reservedA : encoded.slice 41 7 = List.replicate 7 0
  reservedB : encoded.slice 118 2 = List.replicate 2 0
  reserved : ∀ offset ∈ format.reserved, encoded.byteAt offset = 0
  databaseId : encoded.readU128 16 = body.compositionIdentity.databaseId.get
  lifecycleGeneration :
    encoded.readU64 32 = body.compositionIdentity.lifecycleGeneration.get
  state : encoded.byteAt 40 ∈ format.states
  persistentLogId : encoded.readU128 48 = body.compositionIdentity.persistentLogId.get
  walFileId : encoded.readU128 64 = body.compositionIdentity.walFileId.get
  pageStoreFileId : encoded.readU128 80 = body.compositionIdentity.pageStoreFileId.get
  restartCheckpointFileId :
    encoded.readU128 96 = body.compositionIdentity.restartCheckpointFileId.get
  wal : encoded.readU16 112 = body.storageFormats.wal.get
  pageStore : encoded.readU16 114 = body.storageFormats.pageStore.get
  restartCheckpoint : encoded.readU16 116 = body.storageFormats.restartCheckpoint.get
  requiredFeatures : encoded.readU64 120 = body.requiredFeatures.bits

theorem checkZeroBytes_ok_iff {reason : Nat → UInt8 → DatabaseManifestDecodeError}
    {encoded : Bytes width} {offsets : List Nat} {value : Unit} :
    checkZeroBytes reason encoded offsets = .ok value ↔
      ∀ offset ∈ offsets, encoded.byteAt offset = 0 := by
  refine Except.forM_ok_iff.trans ?_
  simp only [rejectIf_ok_iff, Decidable.not_not]

theorem decodeManifestBody_ok_iff {format : ManifestFormat width} {encoded : Bytes width}
    {body : ManifestBody} (fits : 144 ≤ width) :
    decodeManifestBody format encoded = .ok body ↔ CarriesBody format encoded body := by
  simp only [decodeManifestBody, checkManifestFrame, decodeCompositionIdentity,
    decodeFileId, decodeStorageFormatVersion, Except.bind_ok_iff, rejectIf_ok_iff,
    okOr_ok_iff, Except.mapError_ok_iff, Except.pure_ok_iff, Decidable.not_not,
    checkZeroBytes_ok_iff, NonZeroU128.new_eq_some, NonZeroU64.new_eq_some,
    NonZeroU16.new_eq_some_iff, compositionIdentity_new_ok_iff, fromBits_ok_iff,
    List.forall_mem_append]
  constructor
  · rintro ⟨_,
      ⟨_, headerMagic, _, version, _, frameLength, _, flags, _, footerMagic, _, checksum,
      ⟨reservedA, reservedB⟩, reserved⟩, composition, ⟨database, hasDatabase, generation,
      hasGeneration, _, state, log, hasLog, walFile, hasWalFile, storeFile, hasStoreFile,
      checkpointFile, hasCheckpointFile, rfl, rfl, rfl, rfl, rfl, rfl⟩, wal,
        hasWal, pageStore,
      hasPageStore, restartCheckpoint, hasRestartCheckpoint, features, hasFeatures, rfl⟩
    constructor
    case reservedA => exact (slice_eq_replicate_iff (by omega)).mpr reservedA
    case reservedB => exact (slice_eq_replicate_iff (by omega)).mpr reservedB
    case databaseId => exact hasDatabase.symm
    case lifecycleGeneration => exact hasGeneration.symm
    case persistentLogId => exact hasLog.symm
    case walFileId => exact hasWalFile.symm
    case pageStoreFileId => exact hasStoreFile.symm
    case restartCheckpointFileId => exact hasCheckpointFile.symm
    case wal => exact hasWal.symm
    case pageStore => exact hasPageStore.symm
    case restartCheckpoint => exact hasRestartCheckpoint.symm
    case requiredFeatures => exact hasFeatures.symm
    all_goals assumption
  · intro carries
    exact ⟨(), ⟨(), carries.headerMagic, (), carries.version, (), carries.frameLength, (),
      carries.flags, (), carries.footerMagic, (), carries.checksum,
      ⟨(slice_eq_replicate_iff (by omega)).mp carries.reservedA,
        (slice_eq_replicate_iff (by omega)).mp carries.reservedB⟩, carries.reserved⟩,
      body.compositionIdentity,
      ⟨_, carries.databaseId.symm, _, carries.lifecycleGeneration.symm, (), carries.state,
        _, carries.persistentLogId.symm, _, carries.walFileId.symm, _,
        carries.pageStoreFileId.symm, _, carries.restartCheckpointFileId.symm,
        rfl, rfl, rfl, rfl, rfl, rfl⟩,
      _, carries.wal.symm, _, carries.pageStore.symm, _,
        carries.restartCheckpoint.symm, _,
      carries.requiredFeatures.symm, rfl⟩

theorem CarriesBody.front_unique {format : ManifestFormat width}
    {left right : Bytes width} {body : ManifestBody} (fits : 144 ≤ width)
    (carries : CarriesBody format left body) (other : CarriesBody format right body)
    (state : left.byteAt 40 = right.byteAt 40) :
    left.slice 0 128 = right.slice 0 128 := by
  have within {last : Nat} (front : last ≤ 144) : last ≤ width := front.trans fits
  apply slice_eq_of_agree [8, 2, 2, 4, 16, 8, 1, 7, 16, 16, 16, 16, 2, 2, 2, 2, 8]
  simp only [Agree, Nat.reduceAdd, Nat.zero_add, field_toList, and_true]
  refine ⟨?_, ?_, ?_, ?_, ?_, ?_, ?_, ?_, ?_, ?_, ?_, ?_, ?_, ?_, ?_, ?_, ?_⟩
  · rw [carries.headerMagic, other.headerMagic]
  · apply slice_eq_of_uintOf_eq (rfl : 16 = 8 * 2) (within (by decide))
    exact carries.version.trans other.version.symm
  · apply slice_eq_of_uintOf_eq (rfl : 16 = 8 * 2) (within (by decide))
    exact carries.frameLength.trans other.frameLength.symm
  · apply slice_eq_of_uintOf_eq (rfl : 32 = 8 * 4) (within (by decide))
    exact carries.flags.trans other.flags.symm
  · apply slice_eq_of_uintOf_eq (rfl : 128 = 8 * 16) (within (by decide))
    exact carries.databaseId.trans other.databaseId.symm
  · apply slice_eq_of_uintOf_eq (rfl : 64 = 8 * 8) (within (by decide))
    exact carries.lifecycleGeneration.trans other.lifecycleGeneration.symm
  · rw [slice_one (within (by decide)), slice_one (within (by decide)), state]
  · rw [carries.reservedA, other.reservedA]
  · apply slice_eq_of_uintOf_eq (rfl : 128 = 8 * 16) (within (by decide))
    exact carries.persistentLogId.trans other.persistentLogId.symm
  · apply slice_eq_of_uintOf_eq (rfl : 128 = 8 * 16) (within (by decide))
    exact carries.walFileId.trans other.walFileId.symm
  · apply slice_eq_of_uintOf_eq (rfl : 128 = 8 * 16) (within (by decide))
    exact carries.pageStoreFileId.trans other.pageStoreFileId.symm
  · apply slice_eq_of_uintOf_eq (rfl : 128 = 8 * 16) (within (by decide))
    exact carries.restartCheckpointFileId.trans other.restartCheckpointFileId.symm
  · apply slice_eq_of_uintOf_eq (rfl : 16 = 8 * 2) (within (by decide))
    exact carries.wal.trans other.wal.symm
  · apply slice_eq_of_uintOf_eq (rfl : 16 = 8 * 2) (within (by decide))
    exact carries.pageStore.trans other.pageStore.symm
  · apply slice_eq_of_uintOf_eq (rfl : 16 = 8 * 2) (within (by decide))
    exact carries.restartCheckpoint.trans other.restartCheckpoint.symm
  · rw [carries.reservedB, other.reservedB]
  · apply slice_eq_of_uintOf_eq (rfl : 64 = 8 * 8) (within (by decide))
    exact carries.requiredFeatures.trans other.requiredFeatures.symm

theorem CarriesBody.unique {format : ManifestFormat width} {left right : Bytes width}
    {body : ManifestBody} (fits : 144 ≤ width) (carries : CarriesBody format left body)
    (other : CarriesBody format right body) (state : left.byteAt 40 = right.byteAt 40)
    (area : left.slice 128 (width - 144) = right.slice 128 (width - 144)) :
      left = right := by
  have covers : [128, width - 144, 8].sum = width - 8 := by
    simp only [List.sum_cons, List.sum_nil]
    omega
  have footer : 128 + (width - 144) = width - 16 := by omega
  apply carries.checksum.eq_of_agree other.checksum _ covers (by omega)
  simp only [Agree, Nat.zero_add, field_toList, and_true, footer]
  refine ⟨carries.front_unique fits other state, area, ?_⟩
  rw [carries.footerMagic, other.footerMagic]

/-- A state writes the byte of its code and the area after the features. -/
structure WritesState (writeState : Bytes width → Bytes width) : Prop where
  keeps : ∀ (encoded : Bytes width) {offset length : Nat},
    offset + length ≤ 40 ∨ 41 ≤ offset → offset + length ≤ 128 →
      (writeState encoded).slice offset length = encoded.slice offset length

section Written

variable (format : ManifestFormat width) (writeState : Bytes width → Bytes width)
  (body : ManifestBody)

theorem slice_encodeManifest_state {offset length : Nat}
    (inside : offset + length ≤ width - 16) (fits : 144 ≤ width)
    (outside : offset + length ≤ 48 ∨ 128 ≤ offset) :
    (encodeManifest format writeState body).slice offset length =
      (writeState (writeManifestHeader format body.compositionIdentity)).slice offset
        length := by
  simp (disch := first | simp <;> omega | fail) only [encodeManifest, sealManifest,
    writeManifestIdentities, writeU16, writeU64, writeU128,
    slice_copyFromSlice_of_disjoint]

variable {writeState}

theorem slice_encodeManifest_header (writes : WritesState writeState)
    {offset length : Nat} (fits : 144 ≤ width) (front : offset + length ≤ 48)
    (outside : offset + length ≤ 40 ∨ 41 ≤ offset) :
    (encodeManifest format writeState body).slice offset length =
      (writeManifestHeader format body.compositionIdentity).slice offset length := by
  rw [slice_encodeManifest_state format writeState body (by omega) fits (.inl front),
    writes.keeps _ outside (by omega)]

section Fields

attribute [local simp] writeManifestHeader encodeManifest sealManifest
  writeManifestIdentities
  writeU16 writeU64 writeU128 slice_copyFromSlice_of_disjoint slice_zero

variable {format}

theorem writeManifestHeader_magic {composition : DatabaseCompositionIdentity}
    (fits : 144 ≤ width) :
    (writeManifestHeader format composition).slice 0 8 = format.headerMagic.toList := by
  simp (disch := first | simp <;> omega | fail)

theorem writeManifestHeader_version {composition : DatabaseCompositionIdentity}
    (fits : 144 ≤ width) :
    (writeManifestHeader format composition).slice 8 2 =
      bigEndian 2 format.version.val := by
  simp (disch := first | simp <;> omega | fail)

theorem writeManifestHeader_length {composition : DatabaseCompositionIdentity}
    (fits : 144 ≤ width) :
    (writeManifestHeader format composition).slice 10 2 =
      bigEndian 2 format.frameLength.val := by
  simp (disch := first | simp <;> omega | fail)

theorem writeManifestHeader_flags {composition : DatabaseCompositionIdentity}
    (fits : 144 ≤ width) :
    (writeManifestHeader format composition).slice 12 4 = bigEndian 4 0 := by
  rw [bigEndian_zero]
  simp (disch := first | simp <;> omega | fail)

theorem writeManifestHeader_databaseId {composition : DatabaseCompositionIdentity}
    (fits : 144 ≤ width) : (writeManifestHeader format composition).slice 16 16 =
      bigEndian 16 composition.databaseId.get.val := by
  simp (disch := first | simp <;> omega | fail)

theorem writeManifestHeader_lifecycleGeneration
    {composition : DatabaseCompositionIdentity}
    (fits : 144 ≤ width) : (writeManifestHeader format composition).slice 32 8 =
      bigEndian 8 composition.lifecycleGeneration.get.val := by
  simp (disch := first | simp <;> omega | fail)

theorem writeManifestHeader_reserved {composition : DatabaseCompositionIdentity}
    (fits : 144 ≤ width) :
    (writeManifestHeader format composition).slice 41 7 = List.replicate 7 0 := by
  simp (disch := first | simp <;> omega | fail)

variable (format writeState)

theorem encodeManifest_footer (fits : 144 ≤ width) :
    (encodeManifest format writeState body).slice (width - 16) 8 =
      format.footerMagic.toList := by
  rw [encodeManifest, sealManifest, writeU64,
    slice_copyFromSlice_of_disjoint (.inl (by omega)),
    slice_copyFromSlice_self (by omega) Vector.length_toList]

theorem encodeManifest_sealed (fits : 144 ≤ width) :
    Sealed (encodeManifest format writeState body) (width - 8) := by
  simp only [Sealed, encodeManifest, sealManifest]
  generalize Bytes.copyFromSlice _ (width - 16) _ = encoded
  rw [writeU64, readU64, slice_copyFromSlice_self (by omega) (length_bigEndian ..),
    slice_copyFromSlice_of_disjoint (.inl (by omega))]
  exact uintOf_bigEndian (rfl : 64 = 8 * 8) _

theorem encodeManifest_identities (fits : 144 ≤ width) :
    (encodeManifest format writeState body).slice 48 16 =
        bigEndian 16 body.compositionIdentity.persistentLogId.get.val ∧
      (encodeManifest format writeState body).slice 64 16 =
        bigEndian 16 body.compositionIdentity.walFileId.get.val ∧
      (encodeManifest format writeState body).slice 80 16 =
        bigEndian 16 body.compositionIdentity.pageStoreFileId.get.val ∧
      (encodeManifest format writeState body).slice 96 16 =
        bigEndian 16 body.compositionIdentity.restartCheckpointFileId.get.val := by
  refine ⟨?_, ?_, ?_, ?_⟩
  · simp (disch := first | simp <;> omega | fail)
    rfl
  · simp (disch := first | simp <;> omega | fail)
    rfl
  · simp (disch := first | simp <;> omega | fail)
    rfl
  · simp (disch := first | simp <;> omega | fail)
    rfl

theorem encodeManifest_versions (fits : 144 ≤ width) :
    (encodeManifest format writeState body).slice 112 2 =
        bigEndian 2 body.storageFormats.wal.get.val ∧
      (encodeManifest format writeState body).slice 114 2 =
        bigEndian 2 body.storageFormats.pageStore.get.val ∧
      (encodeManifest format writeState body).slice 116 2 =
        bigEndian 2 body.storageFormats.restartCheckpoint.get.val := by
  refine ⟨?_, ?_, ?_⟩
  · simp (disch := first | simp <;> omega | fail)
    rfl
  · simp (disch := first | simp <;> omega | fail)
    rfl
  · simp (disch := first | simp <;> omega | fail)
    rfl

theorem encodeManifest_features (fits : 144 ≤ width) :
    (encodeManifest format writeState body).slice 120 8 =
      bigEndian 8 body.requiredFeatures.bits.val := by
  simp (disch := first | simp <;> omega | fail)

theorem encodeManifest_reserved (writes : WritesState writeState) (fits : 144 ≤ width) :
    (encodeManifest format writeState body).slice 118 2 = List.replicate 2 0 := by
  have placed : (encodeManifest format writeState body).slice 118 2 =
      (writeState (writeManifestHeader format body.compositionIdentity)).slice 118 2 := by
    simp (disch := first | simp <;> omega | fail) only [encodeManifest, sealManifest,
      writeManifestIdentities, writeU16, writeU64, writeU128,
      slice_copyFromSlice_of_disjoint]
  rw [placed, writes.keeps _ (.inr (by decide)) (by decide)]
  simp (disch := first | simp <;> omega | fail)

end Fields

theorem encodeManifest_carries (writes : WritesState writeState) (fits : 144 ≤ width)
    (state : (encodeManifest format writeState body).byteAt 40 ∈ format.states)
    (reserved : ∀ offset ∈ format.reserved,
      (encodeManifest format writeState body).byteAt offset = 0) :
    CarriesBody format (encodeManifest format writeState body) body := by
  have header {offset length : Nat} (front : offset + length ≤ 48)
      (outside : offset + length ≤ 40 ∨ 41 ≤ offset) :=
    slice_encodeManifest_header format body writes fits front outside
  rcases encodeManifest_identities format writeState body fits with
    ⟨log, walFile, storeFile, checkpointFile⟩
  rcases encodeManifest_versions format writeState body fits with
    ⟨wal, pageStore, restartCheckpoint⟩
  constructor
  case headerMagic =>
    rw [header (by decide) (by decide), writeManifestHeader_magic fits]
  case version =>
    rw [readU16, header (by decide) (by decide), writeManifestHeader_version fits]
    exact uintOf_bigEndian (rfl : 16 = 8 * 2) _
  case frameLength =>
    rw [readU16, header (by decide) (by decide), writeManifestHeader_length fits]
    exact uintOf_bigEndian (rfl : 16 = 8 * 2) _
  case flags =>
    rw [readU32, header (by decide) (by decide), writeManifestHeader_flags fits]
    exact uintOf_bigEndian (rfl : 32 = 8 * 4) 0
  case footerMagic => exact encodeManifest_footer format writeState body fits
  case checksum => exact encodeManifest_sealed format writeState body fits
  case reservedA =>
    rw [header (by decide) (by decide), writeManifestHeader_reserved fits]
  case reservedB => exact encodeManifest_reserved format writeState body writes fits
  case reserved => exact reserved
  case databaseId =>
    rw [readU128, header (by decide) (by decide), writeManifestHeader_databaseId fits]
    exact uintOf_bigEndian (rfl : 128 = 8 * 16) _
  case lifecycleGeneration =>
    rw [readU64, header (by decide) (by decide),
      writeManifestHeader_lifecycleGeneration fits]
    exact uintOf_bigEndian (rfl : 64 = 8 * 8) _
  case state => exact state
  case persistentLogId =>
    rw [readU128, log]
    exact uintOf_bigEndian (rfl : 128 = 8 * 16) _
  case walFileId =>
    rw [readU128, walFile]
    exact uintOf_bigEndian (rfl : 128 = 8 * 16) _
  case pageStoreFileId =>
    rw [readU128, storeFile]
    exact uintOf_bigEndian (rfl : 128 = 8 * 16) _
  case restartCheckpointFileId =>
    rw [readU128, checkpointFile]
    exact uintOf_bigEndian (rfl : 128 = 8 * 16) _
  case wal =>
    rw [readU16, wal]
    exact uintOf_bigEndian (rfl : 16 = 8 * 2) _
  case pageStore =>
    rw [readU16, pageStore]
    exact uintOf_bigEndian (rfl : 16 = 8 * 2) _
  case restartCheckpoint =>
    rw [readU16, restartCheckpoint]
    exact uintOf_bigEndian (rfl : 16 = 8 * 2) _
  case requiredFeatures =>
    rw [readU64, encodeManifest_features format writeState body fits]
    exact uintOf_bigEndian (rfl : 64 = 8 * 8) _

end Written

end Frame

/-! ## The first format -/

theorem exactFrame_ok_iff {width : Nat} {encoded : List UInt8} {frame : Bytes width} :
    exactFrame width encoded = .ok frame ↔ encoded = frame.toList := by
  simp only [exactFrame, Except.bind_ok_iff, rejectIf_ok_iff, Except.pure_ok_iff]
  constructor
  · rintro ⟨_, longEnough, _, shortEnough, rfl⟩
    exact (toList_ofList (by omega)).symm
  · rintro rfl
    rw [toList_length, ofList_toList]
    exact ⟨(), Nat.lt_irrefl _, (), Nat.lt_irrefl _, rfl⟩

theorem writeRecoveryRequired_state {width : Nat} (fits : 144 ≤ width)
    (encoded : Bytes width) :
    (writeRecoveryRequired encoded).byteAt 40 = LIFECYCLE_STATE_RECOVERY_REQUIRED :=
  byteAt_copyFromSlice_self (by omega)

theorem writesState_recoveryRequired {width : Nat} :
    WritesState (writeRecoveryRequired : Bytes width → Bytes width) where
  keeps _ _ _ outside _ := slice_copyFromSlice_of_disjoint outside

theorem encodeManifestV1_area (body : ManifestBody) :
    (encodeManifest manifestV1 writeRecoveryRequired body).slice 128 16 =
      List.replicate 16 0 := by
  rw [slice_encodeManifest_state _ _ _ (by decide) (by decide) (.inr (by decide)),
    writeRecoveryRequired, slice_copyFromSlice_of_disjoint (.inr (by decide))]
  simp [writeManifestHeader, writeU16, writeU64, writeU128,
    slice_copyFromSlice_of_disjoint, slice_zero]

theorem encodeManifestV1_state (body : ManifestBody) :
    (encodeManifest manifestV1 writeRecoveryRequired body).byteAt 40 =
      LIFECYCLE_STATE_RECOVERY_REQUIRED := by
  rw [Bytes.byteAt,
    slice_encodeManifest_state _ _ _ (by decide) (by decide) (.inl (by decide))]
  exact writeRecoveryRequired_state (by decide) _

theorem encodeManifestV1_carries (body : ManifestBody) :
    CarriesBody manifestV1 (encodeManifest manifestV1 writeRecoveryRequired body)
      body := by
  apply encodeManifest_carries _ _ writesState_recoveryRequired (by decide)
  · rw [encodeManifestV1_state]
    exact List.mem_singleton_self _
  · exact (slice_eq_replicate_iff (by decide)).mp (encodeManifestV1_area body)

theorem carriesV1_iff {frame : Bytes 160} {body : ManifestBody} :
    CarriesBody manifestV1 frame body ↔
      frame = encodeManifest manifestV1 writeRecoveryRequired body := by
  constructor
  · intro carries
    apply carries.unique (by decide) (encodeManifestV1_carries body)
    · rw [encodeManifestV1_state]
      exact List.mem_singleton.mp carries.state
    · have reserved := (slice_eq_replicate_iff (by decide)).mpr carries.reserved
      rw [reserved, encodeManifestV1_area]
  · rintro rfl
    exact encodeManifestV1_carries body

/-- Decoding is the inverse of encoding wherever encoding is defined. -/
theorem decodeDatabaseManifest_ok_iff {encoded : List UInt8}
    {manifest : DatabaseManifest} :
    decodeDatabaseManifest encoded = .ok manifest ↔
      ∃ frame, encodeDatabaseManifest manifest = .ok frame ∧ encoded = frame.toList := by
  simp only [decodeDatabaseManifest, Except.bind_ok_iff, exactFrame_ok_iff,
    decodeManifestBody_ok_iff (show 144 ≤ 160 by decide), carriesV1_iff,
    Except.pure_ok_iff]
  rcases manifest with ⟨composition, state, formats, features, certified⟩
  constructor
  · rintro ⟨_, rfl, body, rfl, same⟩
    cases same
    exact ⟨_, rfl, rfl⟩
  · rintro ⟨frame, built, rfl⟩
    cases state with
    | clean certificate => cases built
    | recoveryRequired =>
        rw [encodeDatabaseManifest, Except.ok.injEq] at built
        exact ⟨_, rfl, _, built.symm, rfl⟩

/-! ## The second format -/

/-- The certificate area holds the fields of `certificate`. -/
structure CarriesCertificate (encoded : Bytes 256)
    (certificate : DatabaseCleanCloseCertificate) : Prop where
  sourceGeneration : encoded.readU64 128 = certificate.sourceGeneration.get
  presence : encoded.byteAt 136 = if certificate.durableWalFrontier.isSome then 1 else 0
  reservedD : encoded.slice 137 7 = List.replicate 7 0
  frontier :
    encoded.readU64 144 = (certificate.durableWalFrontier.map NonZeroU64.get).getD 0
  epochHighWater :
    encoded.readU64 152 = certificate.allocatedTransactionEpochHighWater.get
  anchorVersion : encoded.readU16 160 = certificate.checkpointAnchorVersion.get
  reservedE : encoded.slice 162 6 = List.replicate 6 0
  anchorValue : encoded.readU128 168 = certificate.checkpointAnchorValue
  transactionEntryCount : encoded.readU64 184 = certificate.transactionEntryCount
  pageEntryCount : encoded.readU64 192 = certificate.pageEntryCount
  reservedF : encoded.slice 200 40 = List.replicate 40 0

/-- The lifecycle state that a frame of the second format holds. -/
def CarriesState (encoded : Bytes 256) : DatabaseManifestLifecycleState → Prop
  | .recoveryRequired => encoded.byteAt 40 = LIFECYCLE_STATE_RECOVERY_REQUIRED ∧
      encoded.slice 128 112 = List.replicate 112 0
  | .clean certificate => encoded.byteAt 40 = LIFECYCLE_STATE_CLEAN ∧
      CarriesCertificate encoded certificate

theorem decodeFrontier_iff {encoded : Bytes 256} {frontier : Option NonZeroU64} :
    (∃ raw, decodeFrontier encoded = .ok raw ∧ nonzeroFrontier raw = .ok frontier) ↔
      encoded.byteAt 136 = (if frontier.isSome then 1 else 0) ∧
        encoded.readU64 144 = (frontier.map NonZeroU64.get).getD 0 := by
  unfold decodeFrontier
  constructor
  · rintro ⟨raw, decoded, nonzero⟩
    split_ifs at decoded with absent present
    · simp only [Except.bind_ok_iff, rejectIf_ok_iff, Decidable.not_not,
        Except.pure_ok_iff] at decoded
      rcases decoded with ⟨_, zero, rfl⟩
      cases nonzero
      exact ⟨absent, zero⟩
    · cases decoded
      simp only [nonzeroFrontier, Except.bind_ok_iff, okOr_ok_iff, NonZeroU64.new_eq_some,
        Except.pure_ok_iff] at nonzero
      rcases nonzero with ⟨value, same, rfl⟩
      exact ⟨present, same.symm⟩
  · rintro ⟨presence, value⟩
    cases frontier with
    | none =>
        refine ⟨none, ?_, rfl⟩
        rw [if_pos (show encoded.byteAt 136 = 0 from presence), value]
        rfl
    | some position =>
        have present : encoded.byteAt 136 = 1 := presence
        refine ⟨some position.get, ?_, ?_⟩
        · rw [if_neg (by rw [present]; decide), if_pos present, value]
          rfl
        · simp only [nonzeroFrontier, NonZeroU64.new_get]
          rfl

theorem decodeCertificate_ok_iff {encoded : Bytes 256}
    {certificate : DatabaseCleanCloseCertificate} :
    decodeCertificate encoded = .ok certificate ↔
      CarriesCertificate encoded certificate := by
  simp only [decodeCertificate, DatabaseCleanCloseCertificate.new, Except.bind_ok_iff,
    Except.mapError_ok_iff, okOr_ok_iff, checkZeroBytes_ok_iff, List.forall_mem_append,
    NonZeroU64.new_eq_some, NonZeroU16.new_eq_some_iff, Except.pure_ok_iff]
  constructor
  · rintro ⟨_, ⟨⟨reservedD, reservedE⟩, reservedF⟩, source, hasSource, raw,
      hasRaw, frontier, nonzero, epoch, hasEpoch, version, hasVersion, rfl⟩
    rcases decodeFrontier_iff.mp ⟨raw, hasRaw, nonzero⟩ with ⟨presence, value⟩
    exact {
      sourceGeneration := hasSource.symm
      presence := presence
      reservedD := (slice_eq_replicate_iff (by decide)).mpr reservedD
      frontier := value
      epochHighWater := hasEpoch.symm
      anchorVersion := hasVersion.symm
      reservedE := (slice_eq_replicate_iff (by decide)).mpr reservedE
      anchorValue := rfl
      transactionEntryCount := rfl
      pageEntryCount := rfl
      reservedF := (slice_eq_replicate_iff (by decide)).mpr reservedF }
  · intro carries
    rcases decodeFrontier_iff.mpr ⟨carries.presence, carries.frontier⟩ with
      ⟨raw, hasRaw, nonzero⟩
    refine ⟨(), ⟨⟨(slice_eq_replicate_iff (by decide)).mp carries.reservedD,
      (slice_eq_replicate_iff (by decide)).mp carries.reservedE⟩,
      (slice_eq_replicate_iff (by decide)).mp carries.reservedF⟩, _,
      carries.sourceGeneration.symm, raw, hasRaw, _, nonzero, _,
        carries.epochHighWater.symm, _,
      carries.anchorVersion.symm, ?_⟩
    rw [carries.anchorValue, carries.transactionEntryCount, carries.pageEntryCount]

theorem decodeLifecycleState_ok_iff {encoded : Bytes 256} {body : ManifestBody}
    {manifest : DatabaseManifest} (known : encoded.byteAt 40 ∈ manifestV2.states) :
    decodeLifecycleState body encoded = .ok manifest ↔
      manifestBody manifest = body ∧ CarriesState encoded manifest.lifecycleState := by
  rcases body with ⟨composition, formats, features⟩
  rcases manifest with
    ⟨manifestComposition, state, manifestFormats, manifestFeatures, certified⟩
  rw [decodeLifecycleState]
  split_ifs with recovery
  · simp only [Except.bind_ok_iff, checkZeroBytes_ok_iff, Except.pure_ok_iff,
      ← slice_eq_replicate_iff (show 128 + 112 ≤ 256 by decide)]
    constructor
    · rintro ⟨_, zero, same⟩
      cases same
      exact ⟨rfl, recovery, zero⟩
    · rintro ⟨same, carries⟩
      cases same
      cases state with
      | recoveryRequired => exact ⟨(), carries.2, rfl⟩
      | clean certificate => cases recovery.symm.trans carries.1
  · simp only [Except.bind_ok_iff, Except.mapError_ok_iff, clean_ok_iff,
      decodeCertificate_ok_iff]
    have clean : encoded.byteAt 40 = LIFECYCLE_STATE_CLEAN := by
      rcases List.mem_cons.mp known with same | other
      · exact absurd same recovery
      · exact List.mem_singleton.mp other
    constructor
    · rintro ⟨certificate, carries, rfl, rfl, rfl, rfl⟩
      exact ⟨rfl, clean, carries⟩
    · rintro ⟨same, carries⟩
      cases same
      cases state with
      | recoveryRequired => exact absurd carries.1 recovery
      | clean certificate => exact ⟨certificate, carries.2, rfl, rfl, rfl, rfl⟩

theorem CarriesCertificate.area_unique {left right : Bytes 256}
    {certificate : DatabaseCleanCloseCertificate}
    (carries : CarriesCertificate left certificate)
    (other : CarriesCertificate right certificate) :
      left.slice 128 112 = right.slice 128 112 := by
  apply slice_eq_of_agree [8, 1, 7, 8, 8, 2, 6, 16, 8, 8, 40]
  simp only [Agree, Nat.reduceAdd, field_toList, and_true]
  refine ⟨?_, ?_, ?_, ?_, ?_, ?_, ?_, ?_, ?_, ?_, ?_⟩
  · apply slice_eq_of_uintOf_eq (rfl : 64 = 8 * 8) (by decide)
    exact carries.sourceGeneration.trans other.sourceGeneration.symm
  · rw [slice_one (by decide), slice_one (by decide), carries.presence, other.presence]
  · rw [carries.reservedD, other.reservedD]
  · apply slice_eq_of_uintOf_eq (rfl : 64 = 8 * 8) (by decide)
    exact carries.frontier.trans other.frontier.symm
  · apply slice_eq_of_uintOf_eq (rfl : 64 = 8 * 8) (by decide)
    exact carries.epochHighWater.trans other.epochHighWater.symm
  · apply slice_eq_of_uintOf_eq (rfl : 16 = 8 * 2) (by decide)
    exact carries.anchorVersion.trans other.anchorVersion.symm
  · rw [carries.reservedE, other.reservedE]
  · apply slice_eq_of_uintOf_eq (rfl : 128 = 8 * 16) (by decide)
    exact carries.anchorValue.trans other.anchorValue.symm
  · apply slice_eq_of_uintOf_eq (rfl : 64 = 8 * 8) (by decide)
    exact carries.transactionEntryCount.trans other.transactionEntryCount.symm
  · apply slice_eq_of_uintOf_eq (rfl : 64 = 8 * 8) (by decide)
    exact carries.pageEntryCount.trans other.pageEntryCount.symm
  · rw [carries.reservedF, other.reservedF]

theorem CarriesState.unique {left right : Bytes 256}
    {state : DatabaseManifestLifecycleState} (carries : CarriesState left state)
    (other : CarriesState right state) :
    left.byteAt 40 = right.byteAt 40 ∧ left.slice 128 112 = right.slice 128 112 := by
  cases state with
  | recoveryRequired =>
      exact ⟨carries.1.trans other.1.symm, carries.2.trans other.2.symm⟩
  | clean certificate =>
      exact ⟨carries.1.trans other.1.symm, carries.2.area_unique other.2⟩

theorem slice_writeFrontier_of_disjoint {encoded : Bytes 256}
    {frontier : Option NonZeroU64} {offset length : Nat}
    (presence : offset + length ≤ 136 ∨ 137 ≤ offset)
    (value : offset + length ≤ 144 ∨ 152 ≤ offset) :
    (writeFrontier encoded frontier).slice offset length =
      encoded.slice offset length := by
  cases frontier with
  | none => exact slice_copyFromSlice_of_disjoint presence
  | some position =>
      rw [writeFrontier, writeU64, slice_copyFromSlice_of_disjoint (by simpa using value),
        slice_copyFromSlice_of_disjoint presence]

theorem writeFrontier_carries {encoded : Bytes 256} (frontier : Option NonZeroU64)
    (blank : encoded.slice 144 8 = List.replicate 8 0) :
    (writeFrontier encoded frontier).byteAt 136 = (if frontier.isSome then 1 else 0) ∧
      (writeFrontier encoded frontier).slice 144 8 =
        bigEndian 8 ((frontier.map NonZeroU64.get).getD 0).val := by
  cases frontier with
  | none =>
      constructor
      · exact byteAt_copyFromSlice_self (by decide)
      · rw [writeFrontier, slice_copyFromSlice_of_disjoint (.inr (by decide)), blank]
        rfl
  | some position =>
      constructor
      · rw [writeFrontier, Bytes.byteAt, writeU64,
          slice_copyFromSlice_of_disjoint (.inl (by decide))]
        exact byteAt_copyFromSlice_self (by decide)
      · rw [writeFrontier, writeU64,
          slice_copyFromSlice_self (by decide) (length_bigEndian ..)]
        rfl

theorem writesState_lifecycleState (state : DatabaseManifestLifecycleState) :
    WritesState (writeLifecycleState state) where
  keeps encoded offset length outside front := by
    cases state with
    | recoveryRequired => exact slice_copyFromSlice_of_disjoint outside
    | clean certificate =>
        have disjoint {start : Nat} {source : List UInt8} (behind : 128 ≤ start) :
            offset + length ≤ start ∨ start + source.length ≤ offset :=
              .inl (front.trans behind)
        rw [writeLifecycleState, writeCertificate, writeU64,
          slice_copyFromSlice_of_disjoint (disjoint (by decide)), writeU64,
          slice_copyFromSlice_of_disjoint (disjoint (by decide)), writeU128,
          slice_copyFromSlice_of_disjoint (disjoint (by decide)), writeU16,
          slice_copyFromSlice_of_disjoint (disjoint (by decide)), writeU64,
          slice_copyFromSlice_of_disjoint (disjoint (by decide)),
          slice_writeFrontier_of_disjoint (.inl (by omega)) (.inl (by omega)), writeU64,
          slice_copyFromSlice_of_disjoint (disjoint (by decide)),
          slice_copyFromSlice_of_disjoint outside]

theorem writeManifestHeader_area (composition : DatabaseCompositionIdentity)
    {offset length : Nat} (behind : 128 ≤ offset) (inside : offset + length ≤ 256) :
    (writeManifestHeader manifestV2 composition).slice offset length =
      List.replicate length 0 := by
  rw [← slice_zero inside]
  simp (disch := first | simp <;> omega | fail) only [writeManifestHeader, writeU16,
    writeU64, writeU128, slice_copyFromSlice_of_disjoint]

section Area

variable {encoded : Bytes 256} (certificate : DatabaseCleanCloseCertificate)

attribute [local simp] readU16 readU64 readU128 writeU16 writeU64 writeU128
  uintOf_bigEndian slice_copyFromSlice_of_disjoint slice_writeFrontier_of_disjoint

theorem writeCertificate_carries
    (blank : ∀ offset length, 128 ≤ offset → offset + length ≤ 256 →
      encoded.slice offset length = List.replicate length 0) :
    CarriesCertificate (writeCertificate encoded certificate) certificate := by
  have unwritten : (encoded.writeU64 128 certificate.sourceGeneration.get).slice 144 8 =
      List.replicate 8 0 := by
    rw [writeU64, slice_copyFromSlice_of_disjoint (.inr (by simp)),
      blank _ _ (by decide) (by decide)]
  rcases writeFrontier_carries certificate.durableWalFrontier unwritten with
    ⟨presence, frontier⟩
  rw [writeU64] at presence frontier
  constructor
  case sourceGeneration => simp [writeCertificate]
  case presence => simpa [writeCertificate, Bytes.byteAt] using presence
  case reservedD => simp [writeCertificate, blank]
  case frontier => simp [writeCertificate, frontier]
  case epochHighWater => simp [writeCertificate]
  case anchorVersion => simp [writeCertificate]
  case reservedE => simp [writeCertificate, blank]
  case anchorValue => simp [writeCertificate]
  case transactionEntryCount => simp [writeCertificate]
  case pageEntryCount => simp [writeCertificate]
  case reservedF => simp [writeCertificate, blank]

end Area

theorem writeLifecycleState_carries (composition : DatabaseCompositionIdentity)
    (state : DatabaseManifestLifecycleState) :
    CarriesState (writeLifecycleState state (writeManifestHeader manifestV2 composition))
      state := by
  cases state with
  | recoveryRequired =>
      constructor
      · exact writeRecoveryRequired_state (by decide) _
      · rw [writeLifecycleState, writeRecoveryRequired,
          slice_copyFromSlice_of_disjoint (.inr (by decide)),
          writeManifestHeader_area _ (by decide) (by decide)]
  | clean certificate =>
      constructor
      · simp [writeLifecycleState, writeCertificate, Bytes.byteAt, writeU16, writeU64,
          writeU128, slice_copyFromSlice_of_disjoint, slice_writeFrontier_of_disjoint]
      · apply writeCertificate_carries
        intro offset length behind inside
        rw [slice_copyFromSlice_of_disjoint (.inr (by simp; omega)),
          writeManifestHeader_area _ behind inside]

/-- What a frame holds is decided by the code of its state and by the area. -/
theorem CarriesState.congr {left right : Bytes 256}
    {state : DatabaseManifestLifecycleState} (code : left.slice 40 1 = right.slice 40 1)
    (area : ∀ offset length, 128 ≤ offset → offset + length ≤ 240 →
      left.slice offset length = right.slice offset length)
    (carries : CarriesState left state) : CarriesState right state := by
  have sameCode : left.byteAt 40 = right.byteAt 40 := congrArg (·.headD 0) code
  cases state with
  | recoveryRequired =>
      constructor
      · rw [← sameCode, carries.1]
      · rw [← area 128 112 (by decide) (by decide), carries.2]
  | clean certificate =>
      rcases carries with ⟨clean, fields⟩
      have samePresence : left.byteAt 136 = right.byteAt 136 :=
        congrArg (·.headD 0) (area 136 1 (by decide) (by decide))
      constructor
      · rw [← sameCode, clean]
      · constructor
        case sourceGeneration =>
          rw [readU64, ← area 128 8 (by decide) (by decide)]
          exact fields.sourceGeneration
        case presence =>
          rw [← samePresence]
          exact fields.presence
        case reservedD =>
          rw [← area 137 7 (by decide) (by decide)]
          exact fields.reservedD
        case frontier =>
          rw [readU64, ← area 144 8 (by decide) (by decide)]
          exact fields.frontier
        case epochHighWater =>
          rw [readU64, ← area 152 8 (by decide) (by decide)]
          exact fields.epochHighWater
        case anchorVersion =>
          rw [readU16, ← area 160 2 (by decide) (by decide)]
          exact fields.anchorVersion
        case reservedE =>
          rw [← area 162 6 (by decide) (by decide)]
          exact fields.reservedE
        case anchorValue =>
          rw [readU128, ← area 168 16 (by decide) (by decide)]
          exact fields.anchorValue
        case transactionEntryCount =>
          rw [readU64, ← area 184 8 (by decide) (by decide)]
          exact fields.transactionEntryCount
        case pageEntryCount =>
          rw [readU64, ← area 192 8 (by decide) (by decide)]
          exact fields.pageEntryCount
        case reservedF =>
          rw [← area 200 40 (by decide) (by decide)]
          exact fields.reservedF

theorem CarriesState.known {encoded : Bytes 256} {state : DatabaseManifestLifecycleState}
    (carries : CarriesState encoded state) : encoded.byteAt 40 ∈ manifestV2.states := by
  cases state with
  | recoveryRequired =>
      rw [carries.1]
      exact List.mem_cons_self
  | clean certificate =>
      rw [carries.1]
      exact List.mem_cons_of_mem _ (List.mem_singleton_self _)

theorem encodeDatabaseManifestV2_carries (manifest : DatabaseManifest) :
    CarriesBody manifestV2 (encodeDatabaseManifestV2 manifest) (manifestBody manifest) ∧
      CarriesState (encodeDatabaseManifestV2 manifest) manifest.lifecycleState := by
  have placed {offset length : Nat} (inside : offset + length ≤ 240)
      (outside : offset + length ≤ 48 ∨ 128 ≤ offset) :=
    slice_encodeManifest_state manifestV2 (writeLifecycleState manifest.lifecycleState)
      (manifestBody manifest) inside (by decide) outside
  have written :=
    writeLifecycleState_carries manifest.compositionIdentity manifest.lifecycleState
  have state := written.congr (placed (by decide) (.inl (by decide))).symm
    fun offset length behind inside => (placed inside (.inr behind)).symm
  constructor
  · exact encodeManifest_carries _ _ (writesState_lifecycleState _) (by decide)
      state.known nofun
  · exact state

theorem decodeDatabaseManifestV2_ok_iff {encoded : List UInt8}
    {manifest : DatabaseManifest} :
    decodeDatabaseManifestV2 encoded = .ok manifest ↔
      encoded = (encodeDatabaseManifestV2 manifest).toList := by
  simp only [decodeDatabaseManifestV2, Except.bind_ok_iff, exactFrame_ok_iff,
    decodeManifestBody_ok_iff (show 144 ≤ 256 by decide)]
  rcases encodeDatabaseManifestV2_carries manifest with ⟨body, state⟩
  generalize encodeDatabaseManifestV2 manifest = image at *
  constructor
  · rintro ⟨frame, rfl, decodedBody, carries, decoded⟩
    rcases (decodeLifecycleState_ok_iff carries.state).mp decoded with ⟨rfl, holds⟩
    rcases holds.unique state with ⟨code, area⟩
    rw [carries.unique (by decide) body code area]
  · rintro rfl
    exact ⟨image, rfl, _, body, (decodeLifecycleState_ok_iff body.state).mpr ⟨rfl, state⟩⟩

/-! ## All three codecs -/

/-- Encodings and accepted byte strings correspond one to one. -/
structure InverseCodec {ε ζ α β : Type} (encode : α → Except ε β)
    (decode : β → Except ζ α) : Prop where
  decode_encode : ∀ value bytes, encode value = .ok bytes → decode bytes = .ok value
  encode_decode : ∀ bytes value, decode bytes = .ok value → encode value = .ok bytes
  encode_injective :
    ∀ left right bytes, encode left = .ok bytes → encode right = .ok bytes →
    left = right
  decode_injective :
    ∀ left right value, decode left = .ok value → decode right = .ok value →
    left = right

theorem InverseCodec.of_iff {ε ζ α β : Type} {encode : α → Except ε β}
    {decode : β → Except ζ α}
    (inverse : ∀ bytes value, decode bytes = .ok value ↔ encode value = .ok bytes) :
    InverseCodec encode decode where
  decode_encode value bytes := (inverse bytes value).mpr
  encode_decode bytes value := (inverse bytes value).mp
  encode_injective left right bytes leftEncoded rightEncoded := by
    have leftDecoded := (inverse bytes left).mpr leftEncoded
    rw [(inverse bytes right).mpr rightEncoded] at leftDecoded
    exact (Except.ok.inj leftDecoded).symm
  decode_injective left right value leftDecoded rightDecoded := by
    have leftEncoded := (inverse left value).mp leftDecoded
    rw [(inverse right value).mp rightDecoded] at leftEncoded
    exact (Except.ok.inj leftEncoded).symm

/-- What the first format encodes, as the bytes of its frame. -/
def databaseManifestBytes (manifest : DatabaseManifest) :
    Except DatabaseManifestV1UnsupportedLifecycleState (List UInt8) :=
  (encodeDatabaseManifest manifest).map Vector.toList

theorem databaseManifestBytes_ok_iff {manifest : DatabaseManifest} {bytes : List UInt8} :
    databaseManifestBytes manifest = .ok bytes ↔
      ∃ frame, encodeDatabaseManifest manifest = .ok frame ∧ bytes = frame.toList := by
  rw [databaseManifestBytes]
  cases encodeDatabaseManifest manifest <;> simp [Except.map, eq_comm]

theorem databaseManifestBytes_succeeds_iff (manifest : DatabaseManifest) :
    (∃ bytes, databaseManifestBytes manifest = .ok bytes) ↔
      manifest.lifecycleState = .recoveryRequired := by
  simp only [databaseManifestBytes_ok_iff, encodeDatabaseManifest]
  cases manifest.lifecycleState <;> simp

/-- Both manifest codecs and the child identity codec are inverse to their
decoders; the second format encodes every manifest, the first one those that
require recovery. -/
theorem manifest_codecs_are_exact :
    InverseCodec
      (fun manifest => (.ok (encodeDatabaseManifestV2 manifest).toList : Except Empty _))
        decodeDatabaseManifestV2 ∧
      InverseCodec databaseManifestBytes decodeDatabaseManifest ∧
      (∀ manifest, (∃ bytes, databaseManifestBytes manifest = .ok bytes) ↔
        manifest.lifecycleState = .recoveryRequired) ∧
      InverseCodec
        (fun identity => (.ok (encodeDatabaseChildIdentity identity) : Except Empty _))
        decodeDatabaseChildIdentity := by
  refine ⟨.of_iff ?_, .of_iff ?_, databaseManifestBytes_succeeds_iff, .of_iff ?_⟩
  · intro bytes manifest
    rw [decodeDatabaseManifestV2_ok_iff, Except.ok.injEq, eq_comm]
  · intro bytes manifest
    rw [decodeDatabaseManifest_ok_iff, databaseManifestBytes_ok_iff]
  · intro bytes identity
    rw [Except.ok.injEq]
    constructor
    · intro decoded
      exact (decodeDatabaseChildIdentity_image decoded).symm
    · rintro rfl
      exact decode_encodeDatabaseChildIdentity identity

end Ntsql.Storage
