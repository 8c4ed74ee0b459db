import Ntsql.Database.Manifest

/-! # Successions of manifests

A manifest is published after another when it names the same storage at the
next generation. Two clean manifests never follow each other. -/

namespace Ntsql.Database

/-! ## The next generation -/

structure DatabaseLifecycleGenerationExhausted where
  current : DatabaseLifecycleGeneration
deriving DecidableEq

def DatabaseLifecycleGeneration.checkedNext (generation : DatabaseLifecycleGeneration) :
    Except DatabaseLifecycleGenerationExhausted DatabaseLifecycleGeneration :=
  okOr (NonZeroU64.checkedNext generation.get) ⟨generation⟩

def DatabaseCompositionIdentity.nextGeneration (identity : DatabaseCompositionIdentity) :
    Except DatabaseLifecycleGenerationExhausted DatabaseCompositionIdentity := do
  let lifecycleGeneration ← DatabaseLifecycleGeneration.checkedNext
    identity.lifecycleGeneration
  return { identity with lifecycleGeneration }

/-! ## The same storage -/

def databaseFileRoles : List DatabaseFileRole := [.wal, .pageStore, .restartCheckpoint]

inductive DatabaseCompositionIdentityMismatch where
  | databaseId (expected actual : DatabaseId)
  | lifecycleGeneration (expected actual : DatabaseLifecycleGeneration)
  | fileId (role : DatabaseFileRole) (expected actual : DatabaseFileId)
  | persistentLogId (expected actual : PersistentLogId)
deriving DecidableEq

def DatabaseStorageIdentity.requireSameFiles (identity actual : DatabaseStorageIdentity) :
    Except DatabaseCompositionIdentityMismatch Unit :=
  databaseFileRoles.forM fun role =>
    rejectIf (identity.fileId role ≠ actual.fileId role)
      (.fileId role (identity.fileId role) (actual.fileId role))

def DatabaseStorageIdentity.requireExactMatch
    (identity actual : DatabaseStorageIdentity) :
    Except DatabaseCompositionIdentityMismatch Unit := do
  rejectIf (identity.databaseId ≠ actual.databaseId)
    (.databaseId identity.databaseId actual.databaseId)
  identity.requireSameFiles actual
  rejectIf (identity.persistentLogId ≠ actual.persistentLogId)
    (.persistentLogId identity.persistentLogId actual.persistentLogId)

def DatabaseCompositionIdentity.requireSameStorageIdentity
    (identity actual : DatabaseCompositionIdentity) :
    Except DatabaseCompositionIdentityMismatch Unit :=
  identity.storageIdentity.requireExactMatch actual.storageIdentity

/-! ## Successors -/

def DatabaseManifestLifecycleState.isClean : DatabaseManifestLifecycleState → Bool
  | .recoveryRequired => false
  | .clean _ => true

inductive DatabaseManifestLifecycleTransitionError where
  | cleanToClean
deriving DecidableEq

inductive DatabaseManifestCleanSuccessorError where
  | lifecycleTransition (source : DatabaseManifestLifecycleTransitionError)
  | exhausted (source : DatabaseLifecycleGenerationExhausted)
  | sourceGeneration (source : DatabaseLifecycleGenerationTransitionError)
deriving DecidableEq

inductive DatabaseManifestSuccessorError where
  | compositionIdentity (source : DatabaseCompositionIdentityMismatch)
  | lifecycleGeneration (source : DatabaseLifecycleGenerationTransitionError)
  | lifecycleTransition (source : DatabaseManifestLifecycleTransitionError)
  | storageFormatVersion (role : DatabaseFileRole)
      (expected actual : DatabaseStorageFormatVersion)
  | requiredFeatures (expected actual : DatabaseRequiredFeatures)
deriving DecidableEq

def DatabaseManifest.nextRecoveryRequired (manifest : DatabaseManifest) :
    Except DatabaseLifecycleGenerationExhausted DatabaseManifest := do
  let nextCompositionIdentity ← manifest.compositionIdentity.nextGeneration
  return DatabaseManifest.recoveryRequired nextCompositionIdentity manifest.storageFormats
    manifest.requiredFeatures

def DatabaseManifest.nextClean (manifest : DatabaseManifest)
    (certificate : DatabaseCleanCloseCertificate) :
    Except DatabaseManifestCleanSuccessorError DatabaseManifest := do
  rejectIf (manifest.lifecycleState.isClean) (.lifecycleTransition .cleanToClean)
  let nextCompositionIdentity ← manifest.compositionIdentity.nextGeneration.mapError
    .exhausted
  (DatabaseManifest.clean nextCompositionIdentity manifest.storageFormats
    manifest.requiredFeatures certificate).mapError .sourceGeneration

def DatabaseManifest.requireSuccessorOf (manifest previous : DatabaseManifest) :
    Except DatabaseManifestSuccessorError Unit := do
  (previous.compositionIdentity.requireSameStorageIdentity
    manifest.compositionIdentity).mapError .compositionIdentity
  (DatabaseLifecycleGeneration.requireSuccessor
    previous.compositionIdentity.lifecycleGeneration
    manifest.compositionIdentity.lifecycleGeneration).mapError .lifecycleGeneration
  rejectIf (previous.lifecycleState.isClean ∧ manifest.lifecycleState.isClean)
    (.lifecycleTransition .cleanToClean)
  databaseFileRoles.forM fun role =>
    rejectIf (previous.storageFormats.version role ≠ manifest.storageFormats.version role)
      (.storageFormatVersion role (previous.storageFormats.version role)
        (manifest.storageFormats.version role))
  rejectIf (previous.requiredFeatures ≠ manifest.requiredFeatures)
    (.requiredFeatures previous.requiredFeatures manifest.requiredFeatures)

/-! ## What a successor is -/

def DatabaseManifest.generation (manifest : DatabaseManifest) : Nat :=
  manifest.compositionIdentity.lifecycleGeneration.get.val

/-- What every manifest of one database agrees on. -/
structure SameDatabase (first second : DatabaseManifest) : Prop where
  storage : second.compositionIdentity.storageIdentity =
    first.compositionIdentity.storageIdentity
  formats : second.storageFormats = first.storageFormats
  features : second.requiredFeatures = first.requiredFeatures

structure IsSuccessor (previous manifest : DatabaseManifest) : Prop
    extends SameDatabase previous manifest where
  generation : manifest.generation = previous.generation + 1
  alternates : ¬(previous.lifecycleState.isClean ∧ manifest.lifecycleState.isClean)

theorem checkedNext_ok_iff {generation next : DatabaseLifecycleGeneration} :
    DatabaseLifecycleGeneration.checkedNext generation = .ok next ↔
      next.get.val = generation.get.val + 1 := by
  rw [DatabaseLifecycleGeneration.checkedNext, okOr_ok_iff,
    NonZeroU64.checkedNext_eq_some]

theorem nextGeneration_ok_iff {identity next : DatabaseCompositionIdentity} :
    identity.nextGeneration = .ok next ↔
      next.storageIdentity = identity.storageIdentity ∧
        next.lifecycleGeneration.get.val = identity.lifecycleGeneration.get.val + 1 := by
  simp only [DatabaseCompositionIdentity.nextGeneration, Except.bind_ok_iff,
    checkedNext_ok_iff, Except.pure_ok_iff]
  constructor
  · rintro ⟨generation, follows, rfl⟩
    exact ⟨rfl, follows⟩
  · rintro ⟨same, follows⟩
    refine ⟨next.lifecycleGeneration, follows, ?_⟩
    have storage :
        next.toDatabaseStorageIdentity = identity.toDatabaseStorageIdentity := same
    cases next
    cases storage
    rfl

theorem requireSameFiles_ok_iff {identity actual : DatabaseStorageIdentity}
    {value : Unit} :
    identity.requireSameFiles actual = .ok value ↔
      identity.walFileId = actual.walFileId ∧ identity.pageStoreFileId =
        actual.pageStoreFileId ∧
        identity.restartCheckpointFileId = actual.restartCheckpointFileId := by
  refine Except.forM_ok_iff.trans ?_
  simp only [databaseFileRoles, List.forall_mem_cons, List.not_mem_nil, false_imp_iff,
    implies_true, and_true, rejectIf_ok_iff, Decidable.not_not]
  rfl

theorem storageIdentity_requireExactMatch_ok_iff
    {identity actual : DatabaseStorageIdentity}
    {value : Unit} : identity.requireExactMatch actual = .ok value ↔
      identity = actual := by
  cases identity
  cases actual
  simp only [DatabaseStorageIdentity.requireExactMatch, Except.bind_ok_iff,
    rejectIf_ok_iff, Decidable.not_not, requireSameFiles_ok_iff,
    DatabaseStorageIdentity.mk.injEq, exists_const]
  constructor
  · rintro ⟨database, ⟨wal, store, checkpoint⟩, log⟩
    exact ⟨database, log, wal, store, checkpoint⟩
  · rintro ⟨database, log, wal, store, checkpoint⟩
    exact ⟨database, ⟨wal, store, checkpoint⟩, log⟩

theorem requireSameFormats_ok_iff {previous formats : DatabaseStorageFormatRequirements}
    {value : Unit} :
    (databaseFileRoles.forM fun role =>
      rejectIf (previous.version role ≠ formats.version role)
        (DatabaseManifestSuccessorError.storageFormatVersion role (previous.version role)
          (formats.version role))) = .ok value ↔
      formats = previous := by
  refine Except.forM_ok_iff.trans ?_
  simp only [databaseFileRoles, List.forall_mem_cons, List.not_mem_nil, false_imp_iff,
    implies_true, and_true, rejectIf_ok_iff, Decidable.not_not]
  cases previous
  cases formats
  rw [DatabaseStorageFormatRequirements.mk.injEq]
  exact and_congr eq_comm (and_congr eq_comm eq_comm)

theorem requireSuccessorOf_ok_iff {manifest previous : DatabaseManifest} {value : Unit} :
    manifest.requireSuccessorOf previous = .ok value ↔ IsSuccessor previous manifest := by
  simp only [DatabaseManifest.requireSuccessorOf, Except.bind_ok_iff, rejectIf_ok_iff,
    Except.mapError_ok_iff, Decidable.not_not, requireSuccessor_ok_iff,
    DatabaseCompositionIdentity.requireSameStorageIdentity, requireSameFormats_ok_iff,
    storageIdentity_requireExactMatch_ok_iff, exists_const]
  constructor
  · rintro ⟨storage, generation, alternates, formats, features⟩
    exact ⟨⟨storage.symm, formats, features.symm⟩, generation, alternates⟩
  · intro successor
    exact ⟨successor.storage.symm, successor.generation, successor.alternates,
      successor.formats, successor.features.symm⟩

theorem nextRecoveryRequired_ok_iff {manifest next : DatabaseManifest} :
    manifest.nextRecoveryRequired = .ok next ↔
      IsSuccessor manifest next ∧ next.lifecycleState = .recoveryRequired := by
  simp only [DatabaseManifest.nextRecoveryRequired, Except.bind_ok_iff,
    nextGeneration_ok_iff, Except.pure_ok_iff]
  constructor
  · rintro ⟨composition, ⟨storage, generation⟩, rfl⟩
    exact ⟨⟨⟨storage, rfl, rfl⟩, generation, fun both => Bool.noConfusion both.2⟩, rfl⟩
  · rintro ⟨successor, state⟩
    refine ⟨next.compositionIdentity, ⟨successor.storage, successor.generation⟩, ?_⟩
    have formats := successor.formats
    have features := successor.features
    cases next
    cases state
    cases formats
    cases features
    rfl

theorem nextClean_ok_iff {manifest next : DatabaseManifest}
    {certificate : DatabaseCleanCloseCertificate} :
    manifest.nextClean certificate = .ok next ↔
      IsSuccessor manifest next ∧ next.lifecycleState = .clean certificate := by
  simp only [DatabaseManifest.nextClean, clean_ok_iff, Except.bind_ok_iff,
    rejectIf_ok_iff, Except.mapError_ok_iff, nextGeneration_ok_iff, exists_const]
  constructor
  · rintro ⟨recovery, composition, ⟨storage, generation⟩, rfl, state, formats, features⟩
    exact ⟨⟨⟨storage, formats, features⟩, generation, fun both => recovery both.1⟩, state⟩
  · rintro ⟨successor, state⟩
    have clean : next.lifecycleState.isClean = true := by rw [state]; rfl
    exact ⟨fun isClean => successor.alternates ⟨isClean, clean⟩, next.compositionIdentity,
      ⟨successor.storage, successor.generation⟩, rfl, state, successor.formats,
      successor.features⟩

/-! ## Successions -/

inductive Succession (first : DatabaseManifest) : Nat → DatabaseManifest → Prop
  | first : Succession first 0 first
  | publish {count : Nat} {manifest next : DatabaseManifest}
      (before : Succession first count manifest)
      (accepted : next.requireSuccessorOf manifest = .ok ()) :
        Succession first (count + 1) next

variable {first last : DatabaseManifest} {count : Nat}

theorem SameDatabase.trans {second third : DatabaseManifest}
    (same : SameDatabase first second)
    (further : SameDatabase second third) : SameDatabase first third where
  storage := further.storage.trans same.storage
  formats := further.formats.trans same.formats
  features := further.features.trans same.features

theorem Succession.sameDatabase (succession : Succession first count last) :
    SameDatabase first last := by
  induction succession with
  | first => exact ⟨rfl, rfl, rfl⟩
  | publish before accepted induction =>
      exact induction.trans (requireSuccessorOf_ok_iff.mp accepted).toSameDatabase

theorem Succession.generation (succession : Succession first count last) :
    last.generation = first.generation + count := by
  induction succession with
  | first => rfl
  | publish before accepted induction =>
      rw [(requireSuccessorOf_ok_iff.mp accepted).generation, induction]
      rfl

theorem Succession.certified (succession : Succession first (count + 1) last)
    {certificate : DatabaseCleanCloseCertificate}
    (clean : last.lifecycleState = .clean certificate) :
    ∃ source, Succession first count source ∧ source.lifecycleState = .recoveryRequired ∧
      source.compositionIdentity.lifecycleGeneration = certificate.sourceGeneration := by
  cases succession with
  | @publish _ source _ before accepted =>
      have successor := requireSuccessorOf_ok_iff.mp accepted
      refine ⟨source, before, ?_, ?_⟩
      · cases state : source.lifecycleState with
        | recoveryRequired => rfl
        | clean earlier =>
            refine absurd ⟨?_, ?_⟩ successor.alternates
            · rw [state]
              rfl
            · rw [clean]
              rfl
      · have certified := last.certified
        rw [clean] at certified
        have next : source.generation + 1 = certificate.sourceGeneration.get.val + 1 :=
          successor.generation.symm.trans certified
        exact NonZeroU64.ext (Fin.ext (Nat.succ.inj next))

/-- The two constructors of a successor make exactly the manifests that are
accepted as one, and whatever is published one after the other stays the same
database, counts its generations and certifies the manifest before. -/
theorem manifest_successions_are_exact :
    (∀ previous manifest : DatabaseManifest,
      manifest.requireSuccessorOf previous = .ok () ↔ IsSuccessor previous manifest) ∧
    (∀ manifest next : DatabaseManifest, manifest.nextRecoveryRequired = .ok next ↔
      next.requireSuccessorOf manifest = .ok () ∧
        next.lifecycleState = .recoveryRequired) ∧
    (∀ (manifest next : DatabaseManifest) certificate,
      manifest.nextClean certificate = .ok next ↔
      next.requireSuccessorOf manifest = .ok () ∧
        next.lifecycleState = .clean certificate) ∧
    ∀ first count last, Succession first count last →
      SameDatabase first last ∧ last.generation = first.generation + count ∧
        ∀ certificate, last.lifecycleState = .clean certificate → 0 < count →
          ∃ source, Succession first (count - 1) source ∧
            source.lifecycleState = .recoveryRequired ∧
            source.compositionIdentity.lifecycleGeneration =
              certificate.sourceGeneration := by
  refine ⟨fun _ _ => requireSuccessorOf_ok_iff, fun manifest next => ?_,
    fun manifest next certificate => ?_, fun first count last succession => ?_⟩
  · rw [requireSuccessorOf_ok_iff, nextRecoveryRequired_ok_iff]
  · rw [requireSuccessorOf_ok_iff, nextClean_ok_iff]
  · refine ⟨succession.sameDatabase, succession.generation,
      fun certificate clean positive => ?_⟩
    cases count with
    | zero => cases positive
    | succ count => exact succession.certified clean

end Ntsql.Database
