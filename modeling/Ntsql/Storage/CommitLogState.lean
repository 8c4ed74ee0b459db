import Ntsql.Storage.CommitLogFormat

/-! # What holds of every scanned log

The records of a log have consecutive positions, the durable ones come first,
and no transaction is committed twice. -/

namespace Ntsql.Storage.OpenState

open FrameLog

variable {width : Nat} {format : LogFormat} {layout : PageLayout}
  {state : OpenState width}

/-- What a record still satisfies after later groups. -/
def SoundKind (format : LogFormat) (layout : PageLayout) (state : OpenState width) :
    FileLogRecordKind width → Prop
  | .transactionCommit transaction => state.Issued transaction
  | .pageWrite _ => format.supportsPages = true ∧ state.pageLayout = some layout
  | .transactionPageWrite owner _ => format.supportsTransactionPages = true ∧
      state.pageLayout = some layout ∧ state.Issued owner

/-- The records start at position `first`. -/
structure Sound (format : LogFormat) (layout : PageLayout) (first : Nat)
    (state : OpenState width) : Prop where
  idle : state.pendingPage = none
  first_pos : 0 < first
  lineage_eq : ∀ record ∈ state.records, record.position.lineage = state.lineage
  positions : state.records.map (fun record => record.position.get.val) =
    List.range' first state.records.length
  completed : first + state.records.length = state.lastCompletedPosition.val + 1
  next : state.nextPosition = checkedSucc state.lastCompletedPosition
  nextEpoch : state.nextEpoch = NonZeroU64.checkedNext state.highestAllocatedEpoch
  durableLen_le : state.durableLen ≤ state.records.length
  undurable : state.lastDurablePosition = none → state.durableLen = 0
  durable :
    ∀ position ∈ state.lastDurablePosition, position.val + 1 = first + state.durableLen
  kinds : ∀ record ∈ state.records, state.SoundKind format layout record.kind
  unique : state.records.Pairwise fun earlier later =>
    ∀ transaction, earlier.transactionIdentity = some transaction →
      later.transactionIdentity ≠ some transaction

namespace Sound

variable {first : Nat}

theorem position_eq (sound : state.Sound format layout first) {index : Nat}
    {record : FileLogRecord width} (found : state.records[index]? = some record) :
    record.position.get.val = first + index := by
  have inside : index < state.records.length := by
    rcases List.getElem?_eq_some_iff.mp found with ⟨inside, _⟩
    exact inside
  have position := congrArg (fun positions => positions[index]?) sound.positions
  simp only [List.getElem?_map, found, Option.map_some, List.getElem?_range' inside]
    at position
  simpa using position

theorem getElem?_of_mem (sound : state.Sound format layout first)
    {record : FileLogRecord width} (member : record ∈ state.records) :
    state.records[record.position.get.val - first]? = some record := by
  rcases List.mem_iff_getElem?.mp member with ⟨index, found⟩
  have position := sound.position_eq found
  have offset : record.position.get.val - first = index := by omega
  rw [offset, found]

theorem findIdx_eq (sound : state.Sound format layout first)
    {record : FileLogRecord width} (member : record ∈ state.records) :
    state.records.findIdx (fun other => other.position.get = record.position.get) =
      record.position.get.val - first := by
  have found := sound.getElem?_of_mem member
  rcases List.getElem?_eq_some_iff.mp found with ⟨inside, here⟩
  have position := sound.position_eq found
  refine (List.findIdx_eq inside).mpr ⟨by simp [here], fun index earlier => ?_⟩
  have other := sound.position_eq (List.getElem?_eq_getElem (Nat.lt_trans earlier inside))
  simp only [decide_eq_false_iff_not, Fin.ext_iff]
  omega

theorem mem_le_completed (sound : state.Sound format layout first)
    {record : FileLogRecord width} (member : record ∈ state.records) :
    first ≤ record.position.get.val ∧
      record.position.get.val ≤ state.lastCompletedPosition.val := by
  have found := sound.getElem?_of_mem member
  rcases List.getElem?_eq_some_iff.mp found with ⟨inside, _⟩
  have position := sound.position_eq found
  have completed := sound.completed
  omega

end Sound

theorem sound_new {lineage : LogLineage} {pageLayout : Option PageLayout}
    {highest completed : U64} {next durable : Option U64} {first : Nat}
    (starts : first = completed.val + 1) (follows : next = checkedSucc completed)
    (durable_eq : ∀ position ∈ durable, position.val + 1 = first) :
    (OpenState.new lineage pageLayout highest next completed durable :
      OpenState width).Sound format layout first where
  idle := rfl
  first_pos := by omega
  lineage_eq := nofun
  positions := rfl
  completed := starts
  next := follows
  nextEpoch := rfl
  durableLen_le := Nat.le_refl 0
  undurable _ := rfl
  durable := durable_eq
  kinds := nofun
  unique := List.Pairwise.nil

theorem Issued.mono {later : OpenState width} {transaction : StoredTransactionIdentity}
    (grows : state.highestAllocatedEpoch ≤ later.highestAllocatedEpoch)
    (issued : state.Issued transaction) : later.Issued transaction where
  epoch_ne_zero := issued.epoch_ne_zero
  allocated := le_trans issued.allocated grows
  sequence_ne_zero := issued.sequence_ne_zero

theorem SoundKind.mono {later : OpenState width} {kind : FileLogRecordKind width}
    (grows : state.highestAllocatedEpoch ≤ later.highestAllocatedEpoch)
    (sameLayout : later.pageLayout = state.pageLayout)
    (sound : state.SoundKind format layout kind) :
      later.SoundKind format layout kind := by
  cases kind with
  | transactionCommit transaction => exact Issued.mono grows sound
  | pageWrite page => exact ⟨sound.1, sameLayout.trans sound.2⟩
  | transactionPageWrite owner page =>
      exact ⟨sound.1, sameLayout.trans sound.2.1, sound.2.2.mono grows⟩

theorem AdmitsKind.sound {kind : FileLogRecordKind width}
    (admits : state.AdmitsKind format layout kind) :
      state.SoundKind format layout kind := by
  cases kind with
  | transactionCommit transaction => exact admits.1
  | pageWrite page => exact admits
  | transactionPageWrite owner page => exact admits

section Steps

variable {first : Nat}

theorem Sound.afterEpoch (sound : state.Sound format layout first) {epoch : NonZeroU64}
    (admits : state.nextEpoch = some epoch) :
      (state.afterEpoch epoch).Sound format layout first := by
  have advanced := NonZeroU64.checkedNext_eq_some.mp (sound.nextEpoch.symm.trans admits)
  have grows : state.highestAllocatedEpoch ≤ epoch.get := by
    rw [Fin.le_def]
    omega
  exact { sound with
    idle := rfl
    nextEpoch := rfl
    kinds := fun record member => (sound.kinds record member).mono grows rfl }

theorem Sound.afterRecord (sound : state.Sound format layout first)
    {record : FileLogRecord width} (admits : state.AdmitsRecord format layout record) :
    (state.afterRecord record).Sound format layout first := by
  have advanced := checkedSucc_eq_some.mp (sound.next.symm.trans admits.next)
  have completed := sound.completed
  have position : record.position.get.val = first + state.records.length := by omega
  have same : state.highestAllocatedEpoch ≤
      (state.afterRecord record).highestAllocatedEpoch := le_rfl
  exact {
    idle := rfl
    first_pos := sound.first_pos
    lineage_eq := by
      intro other member
      rcases List.mem_append.mp member with old | new
      · exact sound.lineage_eq other old
      · rw [List.mem_singleton.mp new]
        exact admits.lineage_eq
    positions := by
      rw [OpenState.afterRecord, List.map_append, sound.positions, List.length_append,
        List.length_singleton, List.range'_concat, List.map_singleton, position,
        Nat.one_mul]
    completed := by
      simp only [OpenState.afterRecord, List.length_append, List.length_singleton]
      omega
    next := rfl
    nextEpoch := sound.nextEpoch
    durableLen_le := by
      have within := sound.durableLen_le
      simp only [OpenState.afterRecord, List.length_append, List.length_singleton]
      omega
    undurable := sound.undurable
    durable := sound.durable
    kinds := by
      intro other member
      rcases List.mem_append.mp member with old | new
      · exact (sound.kinds other old).mono same rfl
      · rw [List.mem_singleton.mp new]
        exact admits.kind.sound.mono same rfl
    unique := by
      refine List.pairwise_append.mpr ⟨sound.unique, List.pairwise_singleton _ _, ?_⟩
      intro earlier member later isNew transaction committed again
      rw [List.mem_singleton.mp isNew] at again
      have kind := admits.kind
      cases kind_eq : record.kind with
      | transactionCommit other =>
          rw [kind_eq] at kind
          rw [FileLogRecord.transactionIdentity, kind_eq, Option.some.injEq] at again
          rw [again] at kind
          exact kind.2 earlier member committed
      | pageWrite page => simp [FileLogRecord.transactionIdentity, kind_eq] at again
      | transactionPageWrite owner page =>
          simp [FileLogRecord.transactionIdentity, kind_eq] at again }

theorem Sound.afterMarker (sound : state.Sound format layout first) {position : U64}
    (admits : state.AdmitsMarker position) :
    (state.afterMarker position).Sound format layout first := by
  rcases admits.recorded with ⟨record, member, rfl⟩
  have index := sound.findIdx_eq member
  have bounds := sound.mem_le_completed member
  have completed := sound.completed
  have same : state.highestAllocatedEpoch ≤
      (state.afterMarker record.position.get).highestAllocatedEpoch := le_rfl
  exact { sound with
    idle := rfl
    durableLen_le := by
      simp only [OpenState.afterMarker, index]
      omega
    undurable := nofun
    durable := by
      intro durable isDurable
      cases isDurable
      simp only [OpenState.afterMarker, index]
      omega
    kinds := fun other member => (sound.kinds other member).mono same rfl }

theorem Sound.afterGroup (sound : state.Sound format layout first)
    {group : LogGroup width} (admits : state.Admits format layout group) :
    (state.afterGroup group).Sound format layout first := by
  cases group with
  | epoch epoch => exact sound.afterEpoch admits
  | record record => exact sound.afterRecord admits
  | marker position => exact sound.afterMarker admits

end Steps

end Ntsql.Storage.OpenState
