import Ntsql.Transaction.WalReclamation

/-! # Database manifests

The identity of one database composition, and the lifecycle state its manifest
records. A successor names the same storage at the next generation. -/

namespace Ntsql.Database

open Transaction

/-! ## Generations -/

abbrev DatabaseId := NonZeroU128

abbrev DatabaseFileId := NonZeroU128

abbrev DatabaseLifecycleGeneration := NonZeroU64

inductive DatabaseLifecycleGenerationTransitionError where
  | exhausted (current : DatabaseLifecycleGeneration)
  | notStrictlyIncreasing (current proposed : DatabaseLifecycleGeneration)
  | skipped (expected proposed : DatabaseLifecycleGeneration)
deriving DecidableEq

def DatabaseLifecycleGeneration.requireSuccessor
    (generation proposed : DatabaseLifecycleGeneration) :
    Except DatabaseLifecycleGenerationTransitionError Unit := do
  let expected ← okOr (NonZeroU64.checkedNext generation.get) (.exhausted generation)
  rejectIf (proposed.get ≤ generation.get) (.notStrictlyIncreasing generation proposed)
  rejectIf (proposed.get ≠ expected.get) (.skipped expected proposed)

theorem requireSuccessor_ok_iff {generation proposed : DatabaseLifecycleGeneration}
    {value : Unit} :
    DatabaseLifecycleGeneration.requireSuccessor generation proposed = .ok value ↔
      proposed.get.val = generation.get.val + 1 := by
  simp only [DatabaseLifecycleGeneration.requireSuccessor, Except.bind_ok_iff,
    okOr_ok_iff, rejectIf_ok_iff, Decidable.not_not, NonZeroU64.checkedNext_eq_some,
    not_le]
  constructor
  · rintro ⟨expected, next, _, _, equal⟩
    rw [equal, next]
  · intro next
    refine ⟨proposed, next, ⟨⟩, ?_, rfl⟩
    rw [Fin.lt_def, next]
    exact Nat.lt_succ_self _

/-! ## Compositions -/

/-- The identities that the files of one database carry; its files differ. -/
structure DatabaseStorageIdentity where
  databaseId : DatabaseId
  persistentLogId : PersistentLogId
  walFileId : DatabaseFileId
  pageStoreFileId : DatabaseFileId
  restartCheckpointFileId : DatabaseFileId
  distinct : [walFileId, pageStoreFileId, restartCheckpointFileId].Nodup
deriving DecidableEq

def DatabaseStorageIdentity.fileId (identity : DatabaseStorageIdentity) :
    DatabaseFileRole → DatabaseFileId
  | .wal => identity.walFileId
  | .pageStore => identity.pageStoreFileId
  | .restartCheckpoint => identity.restartCheckpointFileId

structure DatabaseCompositionIdentity extends DatabaseStorageIdentity where
  lifecycleGeneration : DatabaseLifecycleGeneration
deriving DecidableEq

structure DatabaseFileIdentity where
  role : DatabaseFileRole
  fileId : DatabaseFileId
deriving DecidableEq

inductive DatabaseCompositionIdentityError where
  | duplicateRole (role : DatabaseFileRole) (firstFileId duplicateFileId : DatabaseFileId)
  | missingRole (role : DatabaseFileRole)
  | duplicateFileIdentity (fileId : DatabaseFileId)
      (firstRole secondRole : DatabaseFileRole)
deriving DecidableEq

/-- A role is named once. -/
def fillSlot (slots : DatabaseFileRole → Option DatabaseFileId)
    (file : DatabaseFileIdentity) :
    Except DatabaseCompositionIdentityError (DatabaseFileRole → Option DatabaseFileId) :=
  match slots file.role with
  | some firstFileId => .error (.duplicateRole file.role firstFileId file.fileId)
  | none => .ok (Function.update slots file.role (some file.fileId))

def distinctFiles (walFileId pageStoreFileId restartCheckpointFileId : DatabaseFileId) :
    Except DatabaseCompositionIdentityError
      { files : DatabaseFileId × DatabaseFileId × DatabaseFileId //
        [files.1, files.2.1, files.2.2].Nodup } :=
  if first : walFileId = pageStoreFileId then
    .error (.duplicateFileIdentity walFileId .wal .pageStore)
  else if second : walFileId = restartCheckpointFileId then
    .error (.duplicateFileIdentity walFileId .wal .restartCheckpoint)
  else if third : pageStoreFileId = restartCheckpointFileId then
    .error (.duplicateFileIdentity pageStoreFileId .pageStore .restartCheckpoint)
  else
    .ok ⟨(walFileId, pageStoreFileId, restartCheckpointFileId),
      by simp [first, second, third]⟩

def validateDatabaseFiles (files : List DatabaseFileIdentity) :
    Except DatabaseCompositionIdentityError
      { files : DatabaseFileId × DatabaseFileId × DatabaseFileId //
        [files.1, files.2.1, files.2.2].Nodup } := do
  let slots ← files.foldlM fillSlot fun _ => none
  let walFileId ← okOr (slots .wal) (.missingRole .wal)
  let pageStoreFileId ← okOr (slots .pageStore) (.missingRole .pageStore)
  let restartCheckpointFileId ← okOr (slots .restartCheckpoint)
    (.missingRole .restartCheckpoint)
  distinctFiles walFileId pageStoreFileId restartCheckpointFileId

def DatabaseCompositionIdentity.new (databaseId : DatabaseId)
    (lifecycleGeneration : DatabaseLifecycleGeneration)
    (persistentLogId : PersistentLogId) (files : List DatabaseFileIdentity) :
    Except DatabaseCompositionIdentityError DatabaseCompositionIdentity := do
  let files ← validateDatabaseFiles files
  return {
    databaseId, persistentLogId, lifecycleGeneration
    walFileId := files.val.1
    pageStoreFileId := files.val.2.1
    restartCheckpointFileId := files.val.2.2
    distinct := files.property }

def DatabaseCompositionIdentity.storageIdentity (identity : DatabaseCompositionIdentity) :
    DatabaseStorageIdentity := identity.toDatabaseStorageIdentity

/-! ## Manifests -/

abbrev DatabaseStorageFormatVersion := NonZeroU16

structure DatabaseStorageFormatRequirements where
  wal : DatabaseStorageFormatVersion
  pageStore : DatabaseStorageFormatVersion
  restartCheckpoint : DatabaseStorageFormatVersion
deriving DecidableEq

def DatabaseStorageFormatRequirements.version
    (formats : DatabaseStorageFormatRequirements) :
    DatabaseFileRole → DatabaseStorageFormatVersion
  | .wal => formats.wal
  | .pageStore => formats.pageStore
  | .restartCheckpoint => formats.restartCheckpoint

namespace DatabaseRequiredFeatures

def KNOWN_BITS : U64 := 0

/-- `bits & !Self::KNOWN_BITS`. -/
def unknown (bits : U64) : Nat := bits.val &&& (u64Max ^^^ KNOWN_BITS.val)

end DatabaseRequiredFeatures

structure DatabaseRequiredFeatures where
  bits : U64
  known : DatabaseRequiredFeatures.unknown bits = 0
deriving DecidableEq

structure DatabaseRequiredFeaturesError where
  actual : U64
  unknown : Nat
deriving DecidableEq

def DatabaseRequiredFeatures.fromBits (bits : U64) :
    Except DatabaseRequiredFeaturesError DatabaseRequiredFeatures :=
  if known : DatabaseRequiredFeatures.unknown bits = 0 then .ok ⟨bits, known⟩
  else .error ⟨bits, DatabaseRequiredFeatures.unknown bits⟩

structure DatabaseCleanCloseCertificate where
  sourceGeneration : DatabaseLifecycleGeneration
  durableWalFrontier : Option NonZeroU64
  allocatedTransactionEpochHighWater : NonZeroU64
  checkpointAnchorVersion : NonZeroU16
  checkpointAnchorValue : U128
  transactionEntryCount : U64
  pageEntryCount : U64
deriving DecidableEq

inductive DatabaseCleanCloseCertificateError where
  | durableWalFrontierZero
  | allocatedTransactionEpochHighWaterZero
  | checkpointAnchorVersionZero
deriving DecidableEq

/-- An absent frontier stays absent; a present one must be nonzero. -/
def nonzeroFrontier :
    Option U64 → Except DatabaseCleanCloseCertificateError (Option NonZeroU64)
  | none => .ok none
  | some value => do
      let nonzero ← okOr (NonZeroU64.new value) .durableWalFrontierZero
      return some nonzero

def DatabaseCleanCloseCertificate.new (sourceGeneration : DatabaseLifecycleGeneration)
    (durableWalFrontier : Option U64) (allocatedTransactionEpochHighWater : U64)
    (checkpointAnchorVersion : U16) (checkpointAnchorValue : U128)
    (transactionEntryCount pageEntryCount : U64) :
    Except DatabaseCleanCloseCertificateError DatabaseCleanCloseCertificate := do
  let durableWalFrontier ← nonzeroFrontier durableWalFrontier
  let allocatedTransactionEpochHighWater ← okOr
    (NonZeroU64.new allocatedTransactionEpochHighWater)
      .allocatedTransactionEpochHighWaterZero
  let checkpointAnchorVersion ← okOr (NonZeroU16.new checkpointAnchorVersion)
    .checkpointAnchorVersionZero
  return {
    sourceGeneration, durableWalFrontier, allocatedTransactionEpochHighWater
    checkpointAnchorVersion, checkpointAnchorValue, transactionEntryCount,
      pageEntryCount }

inductive DatabaseManifestLifecycleState where
  | recoveryRequired
  | clean (certificate : DatabaseCleanCloseCertificate)
deriving DecidableEq

def DatabaseManifestLifecycleState.CertifiedAt
    (generation : DatabaseLifecycleGeneration) :
    DatabaseManifestLifecycleState → Prop
  | .recoveryRequired => True
  | .clean certificate => generation.get.val = certificate.sourceGeneration.get.val + 1

structure DatabaseManifest where
  compositionIdentity : DatabaseCompositionIdentity
  lifecycleState : DatabaseManifestLifecycleState
  storageFormats : DatabaseStorageFormatRequirements
  requiredFeatures : DatabaseRequiredFeatures
  certified : lifecycleState.CertifiedAt compositionIdentity.lifecycleGeneration
deriving DecidableEq

def DatabaseManifest.recoveryRequired (compositionIdentity : DatabaseCompositionIdentity)
    (storageFormats : DatabaseStorageFormatRequirements)
    (requiredFeatures : DatabaseRequiredFeatures) : DatabaseManifest where
  compositionIdentity := compositionIdentity
  lifecycleState := .recoveryRequired
  storageFormats := storageFormats
  requiredFeatures := requiredFeatures
  certified := trivial

def DatabaseManifest.clean (compositionIdentity : DatabaseCompositionIdentity)
    (storageFormats : DatabaseStorageFormatRequirements)
    (requiredFeatures : DatabaseRequiredFeatures)
    (certificate : DatabaseCleanCloseCertificate) :
    Except DatabaseLifecycleGenerationTransitionError DatabaseManifest :=
  match accepted :
    DatabaseLifecycleGeneration.requireSuccessor certificate.sourceGeneration
    compositionIdentity.lifecycleGeneration with
  | .error error => .error error
  | .ok _ => .ok {
      compositionIdentity, lifecycleState :=
        .clean certificate, storageFormats, requiredFeatures
      certified := requireSuccessor_ok_iff.mp accepted }

/-! ## What the constructors accept -/

theorem fillSlots (walFileId pageStoreFileId restartCheckpointFileId : DatabaseFileId) :
    [⟨.wal, walFileId⟩, ⟨.pageStore, pageStoreFileId⟩,
      ⟨.restartCheckpoint, restartCheckpointFileId⟩].foldlM fillSlot (fun _ => none) =
        .ok fun role => match role with
          | .wal => some walFileId
          | .pageStore => some pageStoreFileId
          | .restartCheckpoint => some restartCheckpointFileId := by
  simp only [List.foldlM_cons, List.foldlM_nil, fillSlot, Except.ok_bind, Function.update,
    reduceCtorEq, dite_false]
  apply congrArg Except.ok
  funext role
  cases role <;> rfl

theorem distinctFiles_ok_iff
    {walFileId pageStoreFileId restartCheckpointFileId : DatabaseFileId}
    {files : { files : DatabaseFileId × DatabaseFileId × DatabaseFileId //
      [files.1, files.2.1, files.2.2].Nodup }} :
    distinctFiles walFileId pageStoreFileId restartCheckpointFileId = .ok files ↔
      files.val = (walFileId, pageStoreFileId, restartCheckpointFileId) := by
  constructor
  · intro validated
    unfold distinctFiles at validated
    split_ifs at validated
    cases validated
    rfl
  · intro named
    have distinct := files.property
    rw [named] at distinct
    simp only [List.nodup_cons, List.mem_cons, List.not_mem_nil, or_false, not_or,
      not_false_eq_true, List.nodup_nil, and_true] at distinct
    rcases distinct with ⟨⟨first, second⟩, third⟩
    rw [distinctFiles, dif_neg first, dif_neg second, dif_neg third]
    exact congrArg Except.ok (Subtype.ext named.symm)

theorem compositionIdentity_new_ok_iff {databaseId : DatabaseId}
    {lifecycleGeneration : DatabaseLifecycleGeneration}
    {persistentLogId : PersistentLogId}
    {walFileId pageStoreFileId restartCheckpointFileId : DatabaseFileId}
    {identity : DatabaseCompositionIdentity} :
    DatabaseCompositionIdentity.new databaseId lifecycleGeneration persistentLogId
        [⟨.wal, walFileId⟩, ⟨.pageStore, pageStoreFileId⟩,
          ⟨.restartCheckpoint, restartCheckpointFileId⟩] = .ok identity ↔
      identity.databaseId = databaseId ∧ identity.lifecycleGeneration =
        lifecycleGeneration ∧
        identity.persistentLogId = persistentLogId ∧ identity.walFileId = walFileId ∧
        identity.pageStoreFileId = pageStoreFileId ∧
        identity.restartCheckpointFileId = restartCheckpointFileId := by
  simp only [DatabaseCompositionIdentity.new, validateDatabaseFiles, fillSlots,
    Except.bind_ok_iff, Except.ok.injEq, exists_eq_left', okOr_ok_iff, Option.some.injEq,
    distinctFiles_ok_iff, Except.pure_ok_iff]
  constructor
  · rintro ⟨⟨files, distinct⟩, rfl, rfl⟩
    exact ⟨rfl, rfl, rfl, rfl, rfl, rfl⟩
  · rintro ⟨rfl, rfl, rfl, rfl, rfl, rfl⟩
    exact ⟨⟨_, identity.distinct⟩, rfl, rfl⟩

theorem fromBits_ok_iff {bits : U64} {features : DatabaseRequiredFeatures} :
    DatabaseRequiredFeatures.fromBits bits = .ok features ↔ features.bits = bits := by
  constructor
  · intro known
    unfold DatabaseRequiredFeatures.fromBits at known
    split_ifs at known
    cases known
    rfl
  · rintro rfl
    rw [DatabaseRequiredFeatures.fromBits, dif_pos features.known]

theorem clean_ok_iff {compositionIdentity : DatabaseCompositionIdentity}
    {storageFormats : DatabaseStorageFormatRequirements}
    {requiredFeatures : DatabaseRequiredFeatures}
    {certificate : DatabaseCleanCloseCertificate} {manifest : DatabaseManifest} :
    DatabaseManifest.clean compositionIdentity storageFormats requiredFeatures
      certificate = .ok manifest ↔
      manifest.compositionIdentity = compositionIdentity ∧
        manifest.lifecycleState = .clean certificate ∧
        manifest.storageFormats = storageFormats ∧
        manifest.requiredFeatures = requiredFeatures := by
  unfold DatabaseManifest.clean
  split
  next error refused =>
    constructor
    · nofun
    · rintro ⟨rfl, state, rfl, rfl⟩
      have certified := manifest.certified
      rw [state] at certified
      have passes :
          DatabaseLifecycleGeneration.requireSuccessor certificate.sourceGeneration
          manifest.compositionIdentity.lifecycleGeneration = .ok () :=
        requireSuccessor_ok_iff.mpr certified
      rw [passes] at refused
      cases refused
  next accepted =>
    constructor
    · intro built
      cases built
      exact ⟨rfl, rfl, rfl, rfl⟩
    · rcases manifest with ⟨composition, state, formats, features, certified⟩
      rintro ⟨rfl, rfl, rfl, rfl⟩
      rfl

end Ntsql.Database
