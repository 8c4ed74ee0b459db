import Ntsql.Transaction.FileStorage

/-! # The position a page is stored at

Transactions and raw pages reach one store in any order. The store keeps the
image it was offered last, so a page stays at its highest position only when no
flush offers an image older than the stored one. -/

namespace Ntsql.Storage.FilePageStore

open Operation

variable {width : Nat}

theorem page_writePage (store : FilePageStore width) (dirty : DirtyPage width)
    (permit : PageWritePermit) (number : PageNumber) :
    (leaves (writePage dirty permit store)).page number = store.page number ∨
      ∃ sequence, dirty.address.number = number ∧
        (leaves (writePage dirty permit store)).page number =
          some (pageSnapshot dirty sequence) := by
  have effect := writePage_effect store dirty permit
  generalize leaves (writePage dirty permit store) = final at effect ⊢
  cases effect with
  | unchanged => exact .inl rfl
  | faultArmed armedFault => exact .inl rfl
  | wrote layout stored final isOffer accepted own positioned next effect =>
      rw [offered, next, Option.map_some, Option.some.injEq] at isOffer
      cases effect with
      | refused armedFault => exact .inl rfl
      | torn written script armedFault healthy failing => exact .inl rfl
      | stored script armedFault healthy reliable =>
          rw [page, putPage_find?, ← isOffer]
          by_cases here : dirty.address.number = number
          · exact .inr ⟨_, here, if_pos here⟩
          · exact .inl (if_neg here)

end Ntsql.Storage.FilePageStore

namespace Ntsql.Transaction

open Storage Execution

/-- A session over the files, with the raw pages that are dirty. -/
structure StorageSession (width : Nat) where
  session : Session width (FileStorage width)
  rawPages : Multiset (DirtyPage width)

inductive StorageCall (width : Nat) where
  | coordinated (call : Call width (FileStorage width))
  | stagePage (page : UnloggedPage width)
  | flushPage (dirty : DirtyPage width)
  | armLogFault (fault : FaultPoint)
  | armStoreFault (fault : PageStoreFaultPoint)

namespace StorageSession

variable {width : Nat}

def store (state : StorageSession width) : FilePageStore width :=
  state.session.runtime.world.store

def storedPosition (state : StorageSession width) (number : PageNumber) : Option U64 :=
  (state.store.page number).map fun stored => stored.requiredPosition.get

def withRuntime (state : StorageSession width)
    (runtime : Runtime width (FileStorage width)) :
    StorageSession width :=
  { state with session := { state.session with runtime } }

def perform (state : StorageSession width) : StorageCall width → StorageSession width
  | .coordinated call =>
      { state with session := state.session.perform (filePorts width) call }
  | .stagePage page =>
      match stagePageWrite (filePorts width) none page state.session.runtime with
      | .ok dirty runtime =>
          { state.withRuntime runtime with rawPages := dirty ::ₘ state.rawPages }
      | .error _ runtime => state.withRuntime runtime
  | .flushPage dirty =>
      match flushDirtyPage (filePorts width) none dirty state.session.runtime with
      | .ok _ runtime =>
          { state.withRuntime runtime with rawPages := state.rawPages.erase dirty }
      | .error (.storeWrite _ _) runtime =>
          { state.withRuntime runtime with rawPages := state.rawPages.erase dirty }
      | .error (.rejected page _) runtime =>
          { state.withRuntime runtime with
            rawPages := page ::ₘ state.rawPages.erase dirty }
      | .error (.logFlush page _) runtime =>
          { state.withRuntime runtime with
            rawPages := page ::ₘ state.rawPages.erase dirty }
  | .armLogFault fault =>
      let runtime := state.session.runtime
      state.withRuntime { runtime with
        world := { runtime.world with log := runtime.world.log.armFault fault } }
  | .armStoreFault fault =>
      let runtime := state.session.runtime
      state.withRuntime { runtime with
        world := { runtime.world with store := runtime.world.store.armFault fault } }

/-- Only what is held can be given, and nothing else touches the files. -/
def Permitted (state : StorageSession width) : StorageCall width → Prop
  | .coordinated (.environment _) => False
  | .coordinated call => state.session.Holds call
  | .flushPage dirty => dirty ∈ state.rawPages
  | _ => True

instance (state : StorageSession width) :
    (call : StorageCall width) → Decidable (state.Permitted call)
  | .coordinated (.environment _) => isFalse id
  | .coordinated .begin => isTrue trivial
  | .coordinated (.commit _) => inferInstanceAs (Decidable (_ ∈ _))
  | .coordinated (.resolve _) => inferInstanceAs (Decidable (_ ∈ _))
  | .coordinated (.stagePageWrite _ _) => inferInstanceAs (Decidable (_ ∈ _))
  | .coordinated (.flushStagedCommittedPage _ _) => inferInstanceAs (Decidable (_ ∧ _))
  | .coordinated (.flushCommittedPage _ _) => inferInstanceAs (Decidable (_ ∧ _))
  | .stagePage _ => isTrue trivial
  | .flushPage _ => inferInstanceAs (Decidable (_ ∈ _))
  | .armLogFault _ => isTrue trivial
  | .armStoreFault _ => isTrue trivial

def flushedBy : StorageCall width → Option (DirtyPage width)
  | .coordinated (.flushStagedCommittedPage _ page) => some page.dirty
  | .coordinated (.flushCommittedPage _ page) => some page.dirty
  | .flushPage dirty => some dirty
  | _ => none

/-- The page that a call asks to be written is not older than the stored one:
the guard of the recovery model's `write_page_store`. -/
def Advances (state : StorageSession width) (call : StorageCall width) : Prop :=
  ∀ dirty ∈ flushedBy call, ∀ position ∈ state.storedPosition dirty.address.number,
    position ≤ dirty.requiredPosition.get

instance (state : StorageSession width) (call : StorageCall width) :
    Decidable (state.Advances call) :=
  match asked : flushedBy call with
  | none => isTrue (by simp [Advances, asked])
  | some dirty =>
      match stored : state.storedPosition dirty.address.number with
      | none => isTrue (by simp [Advances, asked, stored])
      | some position =>
          decidable_of_iff (position ≤ dirty.requiredPosition.get)
            (by simp [Advances, asked, stored])

/-- No stored page went back. -/
def NeverBack (before after : StorageSession width) : Prop :=
  ∀ number, ∀ position ∈ before.storedPosition number,
    ∃ later ∈ after.storedPosition number, position ≤ later

/-! ## What a call does to a stored page -/

/-- The stored snapshot of every page is as it was, or it is the offered page. -/
def Offers (offered : Option (DirtyPage width))
    (before after : FilePageStore width) : Prop :=
  ∀ number, after.page number = before.page number ∨
    ∃ dirty ∈ offered, ∃ sequence, dirty.address.number = number ∧
      after.page number = some (FilePageStore.pageSnapshot dirty sequence)

theorem offers_of_store_eq {offered : Option (DirtyPage width)}
    {before after : FilePageStore width} (kept : after = before) :
      Offers offered before after :=
  fun number => .inl (congrArg (·.page number) kept)

theorem offers_of_flushes {dirty : DirtyPage width} {before after : FileStorage width}
    (flushes : Flushes FileStorage.store (filePorts width) dirty before after) :
    Offers (some dirty) before.store after.store := by
  rcases flushes with kept | ⟨world, same, rfl⟩
  · exact offers_of_store_eq kept
  · intro number
    have written :=
      FilePageStore.page_writePage world.store dirty ⟨dirty.requiredPosition⟩ number
    rw [same] at written
    rcases written with kept | ⟨sequence, here, stored⟩
    · exact .inl (by rw [filePorts, FileStorage.onStore_store, same, kept])
    · exact .inr ⟨dirty, rfl, sequence, here,
        by rw [filePorts, FileStorage.onStore_store, same, stored]⟩

theorem offers_session (session : Session width (FileStorage width))
    (call : Call width (FileStorage width))
    (inner : ∀ change, call ≠ .environment change) :
    Offers (flushedBy (.coordinated call)) session.runtime.world.store
      (session.perform (filePorts width) call).runtime.world.store := by
  have quiet := quiet_filePorts width
  cases call with
  | environment change => exact absurd rfl (inner change)
  | begin =>
      rw [Session.perform, Session.world_afterBegin]
      exact offers_of_store_eq (keeps_begin FileStorage.store session.runtime)
  | commit transaction =>
      rw [Session.perform, Session.world_afterCommit]
      exact offers_of_store_eq (quiet.commit transaction session.runtime)
  | resolve transaction =>
      rw [Session.perform, Session.world_afterResolve]
      exact offers_of_store_eq (quiet.resolve transaction session.runtime)
  | stagePageWrite transaction page =>
      rw [Session.perform, Session.world_afterStage]
      exact offers_of_store_eq
        (quiet.stageTransactionPageWrite transaction page session.runtime)
  | flushStagedCommittedPage committed page =>
      rw [Session.perform, Session.world_afterFlushStaged]
      exact offers_of_flushes
        (quiet.flushStagedCommittedPage committed page session.runtime)
  | flushCommittedPage committed page =>
      rw [Session.perform, Session.world_afterFlush]
      exact offers_of_flushes (quiet.flushCommittedPage committed page session.runtime)

theorem offers_perform {state : StorageSession width} {call : StorageCall width}
    (permitted : state.Permitted call) :
    Offers (flushedBy call) state.store (state.perform call).store := by
  have quiet := quiet_filePorts width
  cases call with
  | coordinated call =>
      have inner : ∀ change, call ≠ .environment change := by
        intro change same
        rw [same] at permitted
        exact permitted
      exact offers_session state.session call inner
  | stagePage page =>
      have kept := quiet.stagePageWrite none page state.session.runtime
      rw [perform]
      generalize stagePageWrite (filePorts width) none page state.session.runtime = result
        at kept ⊢
      cases result <;> exact offers_of_store_eq kept
  | flushPage dirty =>
      have flushes := quiet.flushDirtyPage none dirty state.session.runtime
      rw [perform]
      generalize flushDirtyPage (filePorts width) none dirty state.session.runtime =
        result at flushes ⊢
      rcases result with _ | ⟨_ | _ | _, _⟩ <;> exact offers_of_flushes flushes
  | armLogFault fault => exact offers_of_store_eq rfl
  | armStoreFault fault =>
      intro number
      left
      rw [perform, store, withRuntime, FilePageStore.armFault]
      split <;> rfl

/-- A call that does not ask for an older image keeps every page from going back. -/
theorem neverBack_perform {state : StorageSession width} {call : StorageCall width}
    (permitted : state.Permitted call) (advances : state.Advances call) :
    NeverBack state (state.perform call) := by
  intro number position stored
  rcases offers_perform permitted number with
    kept | ⟨dirty, asked, sequence, here, written⟩
  · have same :
        (state.perform call).storedPosition number = state.storedPosition number := by
      rw [storedPosition, storedPosition, kept]
    exact ⟨position, same ▸ stored, le_rfl⟩
  · subst here
    have after : (state.perform call).storedPosition dirty.address.number =
        some dirty.requiredPosition.get := by
      rw [storedPosition, written]
      rfl
    exact ⟨dirty.requiredPosition.get, after, advances dirty asked position stored⟩

theorem NeverBack.trans {first second third : StorageSession width}
    (earlier : NeverBack first second) (later : NeverBack second third) :
    NeverBack first third := by
  intro number position stored
  rcases earlier number position stored with ⟨middle, storedMiddle, le⟩
  rcases later number middle storedMiddle with ⟨last, storedLast, leLast⟩
  exact ⟨last, storedLast, le.trans leLast⟩

/-- In a run whose calls never ask for an image older than the stored one, no
page goes back between any two states. -/
theorem stored_position_never_goes_back (initial : StorageSession width)
    (front back : List (StorageCall width))
    (respects : Respects perform
      (fun state call => state.Permitted call ∧ state.Advances call)
      initial (front ++ back)) :
    NeverBack (run perform initial front) (run perform initial (front ++ back)) := by
  rw [run_append]
  exact relation_run (fun _ => True) NeverBack
    (fun _ _ position stored => ⟨position, stored, le_rfl⟩) (fun _ _ _ => NeverBack.trans)
    (fun _ _ _ _ => trivial)
    (fun _ _ _ allowed => neverBack_perform allowed.1 allowed.2) back
    (respects_append.mp respects).2 trivial

theorem not_neverBack {before after : StorageSession width} (number : PageNumber)
    (position later : U64) (stored : before.storedPosition number = some position)
    (written : after.storedPosition number = some later) (older : later < position) :
    ¬NeverBack before after := by
  intro never
  rcases never number position stored with ⟨other, storedLater, le⟩
  have same : later = other := Option.some.inj (written.symm.trans storedLater)
  exact absurd (same ▸ le) (not_le.mpr older)

/-- A coordinator opened on a log, and nothing held. -/
def opened (identity : CoordinatorIdentity) (log : FileCommitLog width)
    (store : FilePageStore width) :
    Except FileTransactionEpochError (StorageSession width) :=
  match FileCommitLog.allocateTransactionEpochFrame log with
  | .error error _ => .error error
  | .ok (epoch, lineage) log =>
      .ok {
        session := {
          runtime := ⟨.fromAllocatedEpoch identity epoch lineage, ⟨log, store⟩, []⟩
          active := 0
          indeterminate := 0
          committed := 0
          dirtyPages := 0 }
        rawPages := 0 }

/-! Two transactions stage the same page and commit. -/

def contendedLineage : LogLineage := .persistent .min

def contendedTransaction (sequence : NonZeroU64) : TransactionId := ⟨.min, sequence⟩

def contendedDirty (sequence : NonZeroU64) : TransactionDirtyPage 1 where
  transactionId := contendedTransaction sequence
  dirty :=
    ⟨⟨contendedLineage, .min⟩, ⟨sequence.get⟩, Bytes.singleton 7,
      ⟨contendedLineage, sequence.get⟩, rfl⟩

def stageContended (sequence : NonZeroU64) : StorageCall 1 :=
  .coordinated (.stagePageWrite ⟨contendedTransaction sequence, 0⟩
    ⟨⟨contendedLineage, .min⟩, ⟨sequence.get⟩, Bytes.singleton 7⟩)

def flushContended (sequence : NonZeroU64) (committed : U64) : StorageCall 1 :=
  .coordinated (.flushStagedCommittedPage
    ⟨contendedTransaction sequence, ⟨contendedLineage, committed⟩⟩
      (contendedDirty sequence))

def secondSequence : NonZeroU64 := ⟨2, u64_two_ne_zero⟩

def contendedCalls : List (StorageCall 1) :=
  [.coordinated .begin, .coordinated .begin, stageContended .min,
    stageContended secondSequence, .coordinated (.commit ⟨contendedTransaction .min, 0⟩),
    .coordinated (.commit ⟨contendedTransaction secondSequence, 0⟩)]

/-- Flushed in the order of the log, the page advances. -/
theorem images_flushed_in_log_order :
    ∃ log store initial,
      FileCommitLog.createNewTransactionPageCapable 1 .min [] = .ok log ∧
      FilePageStore.createNew 1 .min [] = .ok store ∧ opened 0 log store = .ok initial ∧
      let front := contendedCalls ++ [flushContended .min 3]
      let back := [flushContended secondSequence 4]
      (run perform initial (front ++ back)).storedPosition .min = some 2 ∧
        NeverBack (run perform initial front) (run perform initial (front ++ back)) := by
  refine ⟨_, _, _, rfl, rfl, rfl, by decide +kernel, ?_⟩
  exact stored_position_never_goes_back _ _ _ (by decide +kernel)

/-- Flushed with the later image first, the older committed image replaces it. -/
theorem older_image_replaces_newer :
    ∃ log store initial,
      FileCommitLog.createNewTransactionPageCapable 1 .min [] = .ok log ∧
      FilePageStore.createNew 1 .min [] = .ok store ∧ opened 0 log store = .ok initial ∧
      let front := contendedCalls ++ [flushContended secondSequence 4]
      let back := [flushContended .min 3]
      Respects perform Permitted initial (front ++ back) ∧
        ¬NeverBack (run perform initial front) (run perform initial (front ++ back)) := by
  refine ⟨_, _, _, rfl, rfl, rfl, by decide +kernel, ?_⟩
  exact not_neverBack .min 2 1 (by decide +kernel) (by decide +kernel) (by decide)

end StorageSession

end Ntsql.Transaction
