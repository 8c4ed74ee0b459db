import Mathlib

/-! # Fallible checks and state-keeping operations

`Except` models a function that only reads, and `EStateM` one that may also
write: like a method taking a mutable receiver, it keeps whatever it wrote
before it failed. Nothing here depends on a particular program. -/

namespace Ntsql

/-- `if condition { return Err(error) }`. -/
def rejectIf (condition : Prop) [Decidable condition] (error : ε) : Except ε Unit :=
  if condition then .error error else .ok ()

/-- `value.ok_or(error)`. -/
def okOr (value : Option α) (error : ε) : Except ε α :=
  match value with
  | some value => .ok value
  | none => .error error

@[simp] theorem rejectIf_ok_iff (condition : Prop) [Decidable condition] (error : ε)
    (value : Unit) : rejectIf condition error = .ok value ↔ ¬condition := by
  unfold rejectIf
  split <;> simp_all

@[simp] theorem okOr_ok_iff (source : Option α) (error : ε) (value : α) :
    okOr source error = .ok value ↔ source = some value := by
  cases source <;> simp [okOr]

namespace Except

theorem bind_ok_iff {action : Except ε α} {next : α → Except ε β} {value : β} :
    (action >>= next) = .ok value ↔
      ∃ middle, action = .ok middle ∧ next middle = .ok value := by
  cases action with
  | error error => simp [bind, Except.bind]
  | ok middle => simp [bind, Except.bind]

theorem ok_bind (value : α) (next : α → Except ε β) :
    (.ok value >>= next) = next value := rfl

@[simp] theorem mapError_ok_iff {result : Except ε α} {transform : ε → ζ} {value : α} :
    result.mapError transform = .ok value ↔ result = .ok value := by
  cases result <;> simp [Except.mapError]

theorem map_ok_iff {result : Except ε α} {transform : α → β} {value : β} :
    result.map transform = .ok value ↔
      ∃ source, result = .ok source ∧ transform source = value := by
  cases result <;> simp [Except.map]

theorem pure_ok_iff {value other : α} :
    (pure value : Except ε α) = .ok other ↔ value = other := by
  simp [pure, Except.pure]

theorem forM_ok_iff {items : List α} {check : α → Except ε PUnit} {value : PUnit} :
    forM items check = .ok value ↔ ∀ item ∈ items, check item = .ok () := by
  induction items with
  | nil => simp [pure, Except.pure]
  | cons item items induction =>
      rw [List.forM_cons, bind_ok_iff]
      simp only [induction, List.mem_cons, forall_eq_or_imp]
      constructor
      · rintro ⟨⟨⟩, headPasses, tailPasses⟩
        exact ⟨headPasses, tailPasses⟩
      · rintro ⟨headPasses, tailPasses⟩
        exact ⟨⟨⟩, headPasses, tailPasses⟩

/-- A fold whose steps each accept their item and then act as a total function
succeeds exactly when every item is accepted. -/
theorem foldlM_ok_iff {step : β → α → Except ε β} {accepts : α → Prop}
    {advance : β → α → β} (stepIff : ∀ state item next, step state item = .ok next ↔
      accepts item ∧ next = advance state item) {items : List α} {initial final : β} :
    items.foldlM step initial = .ok final ↔
      (∀ item ∈ items, accepts item) ∧ final = items.foldl advance initial := by
  induction items generalizing initial with
  | nil =>
      rw [List.foldlM_nil, pure_ok_iff]
      simp [eq_comm]
  | cons item items induction =>
      rw [List.foldlM_cons, bind_ok_iff]
      simp only [stepIff, induction, List.forall_mem_cons, List.foldl_cons]
      constructor
      · intro succeeds
        rcases succeeds with ⟨_, ⟨accepted, rfl⟩, rest, rfl⟩
        exact ⟨⟨accepted, rest⟩, rfl⟩
      · intro succeeds
        rcases succeeds with ⟨⟨accepted, rest⟩, rfl⟩
        exact ⟨_, ⟨accepted, rfl⟩, rest, rfl⟩

theorem foldlM_congr {step other : β → α → Except ε β} {items : List α} {initial : β}
    (agree : ∀ item ∈ items, ∀ state, step state item = other state item) :
    items.foldlM step initial = items.foldlM other initial := by
  induction items generalizing initial with
  | nil => rfl
  | cons item items induction =>
      rw [List.foldlM_cons, List.foldlM_cons, agree item List.mem_cons_self]
      congr 1
      funext next
      exact induction fun later among => agree later (List.mem_cons_of_mem item among)

theorem foldlM_of_keeps {step : β → α → Except ε β} {items : List α} {state : β}
    (keeps : ∀ item ∈ items, step state item = .ok state) :
    items.foldlM step state = .ok state := by
  induction items with
  | nil => rfl
  | cons item items induction =>
      rw [List.foldlM_cons, keeps item List.mem_cons_self, ok_bind]
      exact induction fun later among => keeps later (List.mem_cons_of_mem item among)

theorem mapM_ok_iff {action : α → Except ε β} {items : List α} {results : List β} :
    items.mapM action = .ok results ↔
      List.Forall₂ (fun item result => action item = .ok result) items results := by
  induction items generalizing results with
  | nil =>
      rw [List.mapM_nil, pure_ok_iff, List.forall₂_nil_left_iff, eq_comm]
  | cons item items induction =>
      rw [List.mapM_cons, bind_ok_iff, List.forall₂_cons_left_iff]
      simp only [bind_ok_iff, induction, pure_ok_iff, exists_and_left]
      constructor
      · intro succeeds
        rcases succeeds with ⟨first, here, rest, others, rfl⟩
        exact ⟨first, here, rest, others, rfl⟩
      · intro succeeds
        rcases succeeds with ⟨first, here, rest, others, rfl⟩
        exact ⟨first, here, rest, others, rfl⟩

theorem exists_mapM_ok {action : α → Except ε β} {holds : α → β → Prop} {items : List α}
    (succeeds : ∀ item ∈ items, ∃ result, action item = .ok result ∧ holds item result) :
    ∃ results, items.mapM action = .ok results ∧ List.Forall₂ holds items results := by
  induction items with
  | nil => exact ⟨[], rfl, .nil⟩
  | cons item items induction =>
      rcases succeeds item List.mem_cons_self with ⟨result, succeeded, held⟩
      rcases induction fun other among =>
        succeeds other (List.mem_cons_of_mem item among) with ⟨results, mapped, allHeld⟩
      refine ⟨result :: results, ?_, .cons held allHeld⟩
      rw [List.mapM_cons, succeeded, ok_bind, mapped, ok_bind]
      rfl

end Except

/-- Run a read-only check inside an operation. -/
def check (result : Except ε α) : EStateM ε σ α := fun state =>
  match result with
  | .ok value => .ok value state
  | .error error => .error error state

/-- Run an operation and hand its outcome on instead of failing with it. -/
def attempt {ε ζ σ α : Type} (action : EStateM ζ σ α) : EStateM ε σ (Except ζ α) :=
  fun state =>
  match action state with
  | .ok value final => .ok (.ok value) final
  | .error error final => .ok (.error error) final

namespace Operation

variable {ε σ α β : Type} {state final : σ}

/-- The state an operation leaves, whether or not it failed. -/
def leaves (result : EStateM.Result ε σ α) : σ :=
  match result with
  | .ok _ final => final
  | .error _ final => final

@[simp] theorem leaves_ok (value : α) (final : σ) :
    leaves (.ok value final : EStateM.Result ε σ α) = final := rfl

@[simp] theorem leaves_error (error : ε) (final : σ) :
    leaves (.error error final : EStateM.Result ε σ α) = final := rfl

theorem bind_ok_iff {action : EStateM ε σ α} {next : α → EStateM ε σ β} {value : β} :
    (action >>= next) state = .ok value final ↔
      ∃ first middle, action state = .ok first middle ∧
        next first middle = .ok value final := by
  change EStateM.bind action next state = _ ↔ _
  unfold EStateM.bind
  cases action state with
  | ok first middle => simp
  | error error middle => simp

theorem bind_error_iff {action : EStateM ε σ α} {next : α → EStateM ε σ β} {error : ε} :
    (action >>= next) state = .error error final ↔
      action state = .error error final ∨
        ∃ first middle, action state = .ok first middle ∧
          next first middle = .error error final := by
  change EStateM.bind action next state = _ ↔ _
  unfold EStateM.bind
  cases action state with
  | ok first middle => simp
  | error error middle => simp

theorem map_ok_iff {transform : α → β} {action : EStateM ε σ α} {value : β} :
    (transform <$> action) state = .ok value final ↔
      ∃ first, action state = .ok first final ∧ transform first = value := by
  change EStateM.map transform action state = _ ↔ _
  unfold EStateM.map
  cases action state with
  | ok first middle => simp [and_comm, and_assoc]
  | error error middle => simp

theorem map_error_iff {transform : α → β} {action : EStateM ε σ α} {error : ε} :
    (transform <$> action) state = .error error final ↔
      action state = .error error final := by
  change EStateM.map transform action state = _ ↔ _
  unfold EStateM.map
  cases action state with
  | ok first middle => simp
  | error error middle => simp

theorem ok_iff {value other : α} :
    (.ok value state : EStateM.Result ε σ α) = .ok other final ↔
      value = other ∧ final = state := by
  simp only [EStateM.Result.ok.injEq, @eq_comm _ state]

theorem get_bind (next : σ → EStateM ε σ β) :
    (get >>= next) state = next state state := rfl

theorem set_bind (after : σ) (next : PUnit → EStateM ε σ β) :
    (set after >>= next) state = next ⟨⟩ after := rfl

theorem modify_bind (transform : σ → σ) (next : PUnit → EStateM ε σ β) :
    (modify transform >>= next) state = next ⟨⟩ (transform state) := rfl

/-! Running an operation step by step. -/

theorem bind_apply (action : EStateM ε σ α) (next : α → EStateM ε σ β) :
    (action >>= next) state =
      match action state with
      | .ok value middle => next value middle
      | .error error middle => .error error middle := rfl

theorem check_apply (result : Except ε α) :
    (check result : EStateM ε σ α) state =
      match result with
      | .ok value => .ok value state
      | .error error => .error error state := rfl

theorem attempt_apply {ζ : Type} (action : EStateM ζ σ α) :
    (attempt action : EStateM ε σ (Except ζ α)) state =
      (match action state with
      | .ok value final => .ok (.ok value) final
      | .error error final => .ok (.error error) final :
          EStateM.Result ε σ (Except ζ α)) := by
  rw [attempt]
  cases action state <;> rfl

theorem check_rejectIf_bind (condition : Prop) [Decidable condition] (error : ε)
    (next : Unit → EStateM ε σ β) :
    (check (rejectIf condition error) >>= next) state =
      if condition then .error error state else next () state := by
  rw [rejectIf]
  split <;> rfl

theorem branch_apply (condition : Prop) [Decidable condition]
    (whenTrue whenFalse : EStateM ε σ α) :
    (if condition then whenTrue else whenFalse) state =
      if condition then whenTrue state else whenFalse state := by
  split <;> rfl

/-- What holds of the state before a check and after all that may follow it
holds of the state it leaves. -/
theorem leaves_check_bind {holds : σ → Prop} {result : Except ε α}
    {next : α → EStateM ε σ β} (unchanged : holds state)
    (rest : ∀ value, result = .ok value → holds (leaves (next value state))) :
    holds (leaves ((check result >>= next) state)) := by
  cases result with
  | ok value => exact rest value rfl
  | error error => exact unchanged

theorem check_bind_ok_iff {result : Except ε α} {next : α → EStateM ε σ β} {value : β} :
    (check result >>= next) state = .ok value final ↔
      ∃ first, result = .ok first ∧ next first state = .ok value final := by
  rw [bind_ok_iff]
  cases result with
  | error error => simp [check]
  | ok first => simp [check]

theorem check_bind_of_ok {result : Except ε α} {first : α} (accepted : result = .ok first)
    (next : α → EStateM ε σ β) : (check result >>= next) state = next first state := by
  rw [accepted]
  rfl

theorem bind_of_ok {action : EStateM ε σ α} {next : α → EStateM ε σ β} {first : α}
    {middle : σ} (succeeds : action state = .ok first middle) :
    (action >>= next) state = next first middle := by
  change EStateM.bind action next state = _
  simp [EStateM.bind, succeeds]

@[simp] theorem pure_apply (value : α) :
    (pure value : EStateM ε σ α) state = .ok value state := rfl

@[simp] theorem get_apply : (get : EStateM ε σ σ) state = .ok state state := rfl

@[simp] theorem set_apply (next : σ) :
    (set next : EStateM ε σ PUnit) state = .ok ⟨⟩ next := rfl

@[simp] theorem modify_apply (transform : σ → σ) :
    (modify transform : EStateM ε σ PUnit) state = .ok ⟨⟩ (transform state) := rfl

@[simp] theorem throw_apply (error : ε) :
    (throw error : EStateM ε σ α) state = .error error state := rfl

@[simp] theorem check_ok_iff {result : Except ε α} {value : α} :
    check result state = .ok value final ↔ result = .ok value ∧ state = final := by
  cases result <;> simp [check]

@[simp] theorem check_error_iff {result : Except ε α} {error : ε} :
    check result state = .error error final ↔ result = .error error ∧ state = final := by
  cases result <;> simp [check]

/-- Whether it fails or not, `action` leaves a state related to the one it
started from. -/
def Relates (relation : σ → σ → Prop) (action : EStateM ε σ α) : Prop :=
  ∀ state, relation state (leaves (action state))

theorem Relates.bind {relation : σ → σ → Prop} {action : EStateM ε σ α}
    {next : α → EStateM ε σ β}
    (trans : ∀ first second third, relation first second → relation second third →
      relation first third)
    (first : Relates relation action) (rest : ∀ value, Relates relation (next value)) :
    Relates relation (action >>= next) := by
  intro state
  have started := first state
  change relation state (leaves (EStateM.bind action next state))
  unfold EStateM.bind
  cases outcome : action state with
  | ok value middle =>
      rw [outcome] at started
      exact trans _ _ _ started (rest value middle)
  | error error middle =>
      rw [outcome] at started
      exact started

theorem Relates.check {relation : σ → σ → Prop} (refl : ∀ state, relation state state)
    (result : Except ε α) : Relates relation (check result) := by
  intro state
  cases result with
  | ok value => exact refl state
  | error error => exact refl state

/-- What holds of the value a result returns, or of the error it fails with. -/
def Results (returns : α → Prop) (fails : ε → Prop) : EStateM.Result ε σ α → Prop
  | .ok value _ => returns value
  | .error error _ => fails error

theorem Results.imp {returns returns' : α → Prop} {fails fails' : ε → Prop}
    {result : EStateM.Result ε σ α} (holds : Results returns fails result)
    (returned : ∀ value, returns value → returns' value)
    (failed : ∀ error, fails error → fails' error) : Results returns' fails' result := by
  cases result with
  | ok value final => exact returned value holds
  | error error final => exact failed error holds

theorem Results.check_bind_mapError {ζ : Type} {returns : β → Prop} {fails : ε → Prop}
    {result : Except ζ α} {transform : ζ → ε} {next : α → EStateM ε σ β}
    (failed : ∀ error, fails (transform error))
    (rest : ∀ value, Results returns fails (next value state)) :
    Results returns fails ((check (result.mapError transform) >>= next) state) := by
  cases result with
  | ok value => exact rest value
  | error error => exact failed error

theorem Results.attempt_bind {ζ : Type} {returns : β → Prop} {fails : ε → Prop}
    {action : EStateM ζ σ α} {next : Except ζ α → EStateM ε σ β}
    (rest : ∀ result middle, Results returns fails (next result middle)) :
    Results returns fails ((attempt action >>= next) state) := by
  rw [bind_apply, attempt_apply]
  cases action state with
  | ok value middle => exact rest (.ok value) middle
  | error error middle => exact rest (.error error) middle

/-- `action` leaves `state` unchanged whenever it fails on it. -/
def Atomic (action : EStateM ε σ α) (state : σ) : Prop :=
  ∀ error final, action state = .error error final → final = state

theorem Atomic.pure (value : α) : Atomic (Pure.pure value : EStateM ε σ α) state := by
  intro error final fails
  simp at fails

theorem Atomic.throw (error : ε) :
    Atomic (MonadExcept.throw error : EStateM ε σ α) state := by
  intro error final fails
  simp at fails
  exact fails.2.symm

theorem Atomic.check_bind {result : Except ε α} {next : α → EStateM ε σ β}
    (rest : ∀ value, result = .ok value → Atomic (next value) state) :
    Atomic (check result >>= next) state := by
  intro error final fails
  rcases bind_error_iff.mp fails with failed | ⟨first, middle, passed, failed⟩
  · exact (check_error_iff.mp failed).2.symm
  · rcases check_ok_iff.mp passed with ⟨accepted, rfl⟩
    exact rest first accepted error final failed

theorem Atomic.get_bind {next : σ → EStateM ε σ β} (rest : Atomic (next state) state) :
    Atomic (get >>= next) state := by
  intro error final fails
  rcases bind_error_iff.mp fails with failed | ⟨first, middle, passed, failed⟩
  · simp at failed
  · simp at passed
    rcases passed with ⟨rfl, rfl⟩
    exact rest error final failed

theorem Atomic.map {transform : α → β} {action : EStateM ε σ α}
    (atomic : Atomic action state) :
    Atomic (transform <$> action) state := by
  intro error final fails
  exact atomic error final (map_error_iff.mp fails)

theorem Atomic.of_infallible {action : EStateM ε σ α}
    (succeeds : ∃ value final, action state = .ok value final) : Atomic action state := by
  rcases succeeds with ⟨value, final, succeeds⟩
  intro error other fails
  rw [succeeds] at fails
  cases fails

theorem Atomic.check_set {requirement : Except ε Unit} (next : σ) :
    Atomic (check requirement >>= fun _ => set next : EStateM ε σ PUnit) state :=
  Atomic.check_bind fun _ _ => Atomic.of_infallible ⟨_, _, set_apply next⟩

theorem Atomic.bind_infallible {action : EStateM ε σ α} {next : α → EStateM ε σ β}
    (first : Atomic action state)
    (rest : ∀ value middle, action state = .ok value middle →
      ∃ other final, next value middle = .ok other final) :
    Atomic (action >>= next) state := by
  intro error final fails
  rcases bind_error_iff.mp fails with failed | ⟨value, middle, passed, failed⟩
  · exact first error final failed
  · rcases rest value middle passed with ⟨other, final, succeeds⟩
    rw [succeeds] at failed
    cases failed

end Operation

end Ntsql
