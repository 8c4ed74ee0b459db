import Mathlib

/-! # Runs of a deterministic machine

A machine takes one input at a time. An invariant of every allowed step holds
along every run whose steps are allowed, and a preorder every step respects
relates the ends of a run. -/

namespace Ntsql.Execution

variable {State Input : Type} (step : State → Input → State)

def run (initial : State) (inputs : List Input) : State := inputs.foldl step initial

/-- Each step of the run is allowed in the state it starts from. -/
def Respects (allowed : State → Input → Prop) : State → List Input → Prop
  | _, [] => True
  | state, input :: inputs =>
      allowed state input ∧ Respects allowed (step state input) inputs

instance decidableRespects (allowed : State → Input → Prop)
    [decidable : ∀ state input, Decidable (allowed state input)] :
    (initial : State) → (inputs : List Input) → Decidable
      (Respects step allowed initial inputs)
  | _, [] => isTrue trivial
  | state, input :: inputs =>
      have := decidableRespects allowed (step state input) inputs
      inferInstanceAs (Decidable (allowed state input ∧
        Respects step allowed (step state input) inputs))

variable {step} {allowed : State → Input → Prop} {invariant : State → Prop}

theorem run_append (initial : State) (front back : List Input) :
    run step initial (front ++ back) = run step (run step initial front) back := by
  simp [run, List.foldl_append]

theorem respects_append {initial : State} {front back : List Input} :
    Respects step allowed initial (front ++ back) ↔
      Respects step allowed initial front ∧
        Respects step allowed (run step initial front) back := by
  induction front generalizing initial with
  | nil => simp [Respects, run]
  | cons input inputs induction =>
      simp only [List.cons_append, Respects, induction, and_assoc]
      rfl

theorem invariant_run
    (preserved : ∀ state input, invariant state → allowed state input →
      invariant (step state input)) {initial : State} (inputs : List Input)
    (respects : Respects step allowed initial inputs) (holds : invariant initial) :
    invariant (run step initial inputs) := by
  induction inputs generalizing initial with
  | nil => exact holds
  | cons input inputs induction =>
      exact induction respects.2 (preserved initial input holds respects.1)

theorem respects_of_forall {initial : State} {inputs : List Input}
    (always : ∀ input ∈ inputs, ∀ state, allowed state input) :
    Respects step allowed initial inputs := by
  induction inputs generalizing initial with
  | nil => trivial
  | cons input inputs induction =>
      have rest : ∀ later ∈ inputs, ∀ state, allowed state later :=
        fun later member => always later (List.mem_cons_of_mem input member)
      exact ⟨always input List.mem_cons_self initial, induction rest⟩

theorem respects_true (initial : State) (inputs : List Input) :
    Respects step (fun _ _ => True) initial inputs :=
  respects_of_forall fun _ _ _ => trivial

/-- A reflexive and transitive relation that holds across each step of the
invariant's states holds across a whole run. -/
theorem relation_run (invariant : State → Prop) (related : State → State → Prop)
    (refl : ∀ state, related state state)
    (trans : ∀ first second third, related first second → related second third →
      related first third)
    (preserved : ∀ state input, invariant state → allowed state input →
      invariant (step state input))
    (steps : ∀ state input, invariant state → allowed state input →
      related state (step state input)) {initial : State} (inputs : List Input)
    (respects : Respects step allowed initial inputs) (holds : invariant initial) :
    related initial (run step initial inputs) := by
  induction inputs generalizing initial with
  | nil => exact refl initial
  | cons input inputs induction =>
      have first := steps initial input holds respects.1
      have rest := induction respects.2 (preserved initial input holds respects.1)
      exact trans _ _ _ first rest

/-! ## Values handed out along a run -/

section Emission

variable {Value : Type} (step) (emits : State → Input → Option Value)

def emitted : State → List Input → List Value
  | _, [] => []
  | state, input :: inputs =>
      (emits state input).toList ++ emitted (step state input) inputs

variable {step emits}

theorem invariant_emitted {invariant : State → List Value → Prop}
    (preserved : ∀ state values input, invariant state values → allowed state input →
      invariant (step state input) (values ++ (emits state input).toList))
    {initial : State} {values : List Value} (inputs : List Input)
    (respects : Respects step allowed initial inputs) (holds : invariant initial values) :
    invariant (run step initial inputs)
      (values ++ emitted step emits initial inputs) := by
  induction inputs generalizing initial values with
  | nil => simpa [run, emitted] using holds
  | cons input inputs induction =>
      have later := induction respects.2 (preserved initial values input holds respects.1)
      rw [List.append_assoc] at later
      exact later

variable (invariant : State → Prop) (ahead : State → Value → Prop)

theorem ahead_of_emitted
    (preserved : ∀ state input, invariant state → allowed state input →
      invariant (step state input))
    (emits_ahead : ∀ state input value, invariant state → allowed state input →
      value ∈ emits state input → ahead state value)
    (still_ahead : ∀ state input value, invariant state → allowed state input →
      ahead (step state input) value → ahead state value)
    {initial : State} (inputs : List Input)
    (respects : Respects step allowed initial inputs) (holds : invariant initial) :
    ∀ value ∈ emitted step emits initial inputs, ahead initial value := by
  induction inputs generalizing initial with
  | nil => simp [emitted]
  | cons input inputs induction =>
      intro value member
      rcases List.mem_append.mp member with now | later
      · exact emits_ahead initial input value holds respects.1 (Option.mem_toList.mp now)
      · have rest :=
          induction respects.2 (preserved initial input holds respects.1) value later
        exact still_ahead initial input value holds respects.1 rest

/-- Values that are ahead of the state when handed out, and behind everything
ahead of it afterwards, are handed out in strictly increasing order. -/
theorem emitted_increasing [LT Value]
    (preserved : ∀ state input, invariant state → allowed state input →
      invariant (step state input))
    (emits_ahead : ∀ state input value, invariant state → allowed state input →
      value ∈ emits state input → ahead state value)
    (still_ahead : ∀ state input value, invariant state → allowed state input →
      ahead (step state input) value → ahead state value)
    (passed : ∀ state input value later, invariant state → allowed state input →
      value ∈ emits state input → ahead (step state input) later → value < later)
    {initial : State} (inputs : List Input)
    (respects : Respects step allowed initial inputs) (holds : invariant initial) :
    (emitted step emits initial inputs).Pairwise (· < ·) := by
  induction inputs generalizing initial with
  | nil => exact List.Pairwise.nil
  | cons input inputs induction =>
      have next := preserved initial input holds respects.1
      refine List.pairwise_append.mpr ⟨?_, induction respects.2 next, ?_⟩
      · cases emits initial input with
        | none => exact List.Pairwise.nil
        | some value => exact List.pairwise_singleton _ value
      · intro value now later isLater
        have stillAhead :=
          ahead_of_emitted invariant ahead preserved emits_ahead still_ahead
          inputs respects.2 next later isLater
        exact passed initial input value later holds respects.1 (Option.mem_toList.mp now)
          stillAhead

theorem emitted_lt_of_ahead [LT Value]
    (preserved : ∀ state input, invariant state → allowed state input →
      invariant (step state input))
    (still_ahead : ∀ state input value, invariant state → allowed state input →
      ahead (step state input) value → ahead state value)
    (passed : ∀ state input value later, invariant state → allowed state input →
      value ∈ emits state input → ahead (step state input) later → value < later)
    {initial : State} (inputs : List Input)
    (respects : Respects step allowed initial inputs) (holds : invariant initial)
    {later : Value} (isAhead : ahead (run step initial inputs) later) :
    ahead initial later ∧ ∀ value ∈ emitted step emits initial inputs, value < later := by
  induction inputs generalizing initial with
  | nil => exact ⟨isAhead, by simp [emitted]⟩
  | cons input inputs induction =>
      rcases induction respects.2 (preserved initial input holds respects.1) isAhead with
        ⟨next, rest⟩
      refine ⟨still_ahead initial input later holds respects.1 next, ?_⟩
      intro value member
      rcases List.mem_append.mp member with now | after
      · exact passed initial input value later holds respects.1
          (Option.mem_toList.mp now) next
      · exact rest value after

end Emission

end Ntsql.Execution
