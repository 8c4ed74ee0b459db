import Ntsql.Foundation.Fallible

/-! # Runs over ports

A program talks to a world it does not control and leaves a history of the calls
that matter. What it guarantees is stated of histories alone: whatever the world
answers, a history that satisfied the precondition satisfies one postcondition
when the program succeeds and another when it fails. -/

namespace Ntsql

/-- A world behind ports, and what was asked of it, the latest event first. -/
structure PortRun (World Event : Type) where
  world : World
  history : List Event

namespace PortRun

variable {World Event ε ζ α β : Type}

/-- Call a port that may fail, and record its answer when it matters. -/
def ask (port : World → Except ζ α × World) (failure : ζ → ε)
    (event : Except ζ α → Option Event) : EStateM ε (PortRun World Event) α := fun run =>
  let reply := port run.world
  let after : PortRun World Event := ⟨reply.2, (event reply.1).toList ++ run.history⟩
  match reply.1 with
  | .ok value => .ok value after
  | .error error => .error (failure error) after

def query (port : World → α × World) : EStateM ε (PortRun World Event) α := fun run =>
  .ok (port run.world).1 ⟨(port run.world).2, run.history⟩

def record (event : Event) : EStateM ε (PortRun World Event) Unit := fun run =>
  .ok () ⟨run.world, event :: run.history⟩

/-- What a program guarantees of its history, whatever the world answers. -/
def Ensures (before : List Event → Prop) (program : EStateM ε (PortRun World Event) α)
    (after : α → List Event → Prop) (fails : ε → List Event → Prop) : Prop :=
  ∀ run, before run.history →
    match program run with
    | .ok value final => after value final.history
    | .error error final => fails error final.history

variable {before : List Event → Prop} {program : EStateM ε (PortRun World Event) α}
  {next : α → EStateM ε (PortRun World Event) β} {after : α → List Event → Prop}
  {result : β → List Event → Prop} {fails : ε → List Event → Prop}

theorem Ensures.bind (first : Ensures before program after fails)
    (rest : ∀ value, Ensures (after value) (next value) result fails) :
    Ensures before (program >>= next) result fails := by
  intro run holds
  have outcome := first run holds
  rw [Operation.bind_apply]
  generalize program run = reply at outcome ⊢
  cases reply with
  | ok value middle => exact rest value middle outcome
  | error error final => exact outcome

theorem Ensures.through (middle : α → List Event → Prop)
    (first : Ensures before program middle fails)
    (rest : ∀ value, Ensures (middle value) (next value) result fails) :
    Ensures before (program >>= next) result fails :=
  first.bind rest

theorem Ensures.of_each
    (each : ∀ history, before history → Ensures (· = history) program after fails) :
    Ensures before program after fails :=
  fun run holds => each run.history holds run rfl

theorem Ensures.strengthen {stronger : List Event → Prop}
    (ensures : Ensures before program after fails)
    (implies : ∀ history, stronger history → before history) :
    Ensures stronger program after fails :=
  fun run holds => ensures run (implies _ holds)

theorem Ensures.weaken {weaker : α → List Event → Prop} {fewer : ε → List Event → Prop}
    (ensures : Ensures before program after fails)
    (succeeds : ∀ value history, after value history → weaker value history)
    (failing : ∀ error history, fails error history → fewer error history) :
    Ensures before program weaker fewer := by
  intro run holds
  have outcome := ensures run holds
  generalize program run = reply at outcome ⊢
  cases reply with
  | ok value final => exact succeeds value _ outcome
  | error error final => exact failing error _ outcome

theorem Ensures.pure {value : α}
    (holds : ∀ history, before history → after value history) :
    Ensures before (Pure.pure value : EStateM ε (PortRun World Event) α) after fails :=
  fun run => holds run.history

theorem Ensures.check {decision : Except ε α}
    (accepted : ∀ value history, decision = .ok value → before history →
      after value history)
    (refused : ∀ error history, decision = .error error → before history →
      fails error history) :
    Ensures before (Ntsql.check decision : EStateM ε (PortRun World Event) α)
      after fails := by
  intro run holds
  cases decided : decision with
  | ok value => exact accepted value _ decided holds
  | error error => exact refused error _ decided holds

theorem Ensures.ask {port : World → Except ζ α × World} {failure : ζ → ε}
    {event : Except ζ α → Option Event}
    (answered : ∀ value history, before history →
      after value ((event (.ok value)).toList ++ history))
    (failed : ∀ error history, before history →
      fails (failure error) ((event (.error error)).toList ++ history)) :
    Ensures before (PortRun.ask port failure event) after fails := by
  intro run holds
  rw [PortRun.ask]
  cases reply : (port run.world).1 with
  | ok value => exact answered value _ holds
  | error error => exact failed error _ holds

theorem Ensures.query {port : World → α × World}
    (answered : ∀ value history, before history → after value history) :
    Ensures before (PortRun.query port) after fails :=
  fun _ holds => answered _ _ holds

theorem Ensures.record {event : Event} {after : Unit → List Event → Prop}
    (recorded : ∀ history, before history → after () (event :: history)) :
    Ensures before (PortRun.record event : EStateM ε (PortRun World Event) Unit)
      after fails :=
  fun _ holds => recorded _ holds

end PortRun

end Ntsql
