import Mathlib

/-! # Histories of events

A history lists what happened, the latest event first. What is said of an event
is said of the past that was there when it happened. -/

namespace Ntsql.History

variable {Event : Type}

/-- Each event was permitted by the past it happened in. -/
def Justified (permits : List Event → Event → Prop) : List Event → Prop
  | [] => True
  | event :: past => permits past event ∧ Justified permits past

/-- Some event started it, and none has stopped it since. -/
def Since (starts stops : Event → Prop) : List Event → Prop
  | [] => False
  | event :: past => starts event ∨ ¬stops event ∧ Since starts stops past

variable {permits weaker : List Event → Event → Prop} {starts stops : Event → Prop}
  {history : List Event}

theorem justified_iff_forall_suffix :
    Justified permits history ↔
      ∀ past event, event :: past <:+ history → permits past event := by
  induction history with
  | nil => simp [Justified]
  | cons latest earlier induction =>
      simp only [Justified, induction, List.suffix_cons_iff, List.cons.injEq]
      constructor
      · intro justified past event among
        rcases among with ⟨rfl, rfl⟩ | among
        · exact justified.1
        · exact justified.2 past event among
      · intro permitted
        have first := permitted earlier latest (.inl ⟨rfl, rfl⟩)
        exact ⟨first, fun past event among => permitted past event (.inr among)⟩

theorem since_iff_exists_append :
    Since starts stops history ↔
      ∃ later event past, history = later ++ event :: past ∧ starts event ∧
        ∀ other ∈ later, ¬stops other := by
  induction history with
  | nil => simp [Since]
  | cons latest earlier induction =>
      simp only [Since, induction]
      constructor
      · intro since
        rcases since with started | ⟨going, later, event, past, rfl, started, still⟩
        · exact ⟨[], latest, earlier, rfl, started, by simp⟩
        · exact ⟨latest :: later, event, past, rfl, started,
            List.forall_mem_cons.mpr ⟨going, still⟩⟩
      · intro since
        rcases since with ⟨later, event, past, split, started, still⟩
        cases later with
        | nil =>
            simp only [List.nil_append, List.cons.injEq] at split
            rw [split.1]
            exact .inl started
        | cons other later =>
            simp only [List.cons_append, List.cons.injEq] at split
            rcases split with ⟨rfl, rfl⟩
            simp only [List.forall_mem_cons] at still
            exact .inr ⟨still.1, later, event, past, rfl, started, still.2⟩

/-- Values that events hand out are distinct when an event is permitted only
before any other handed out its value. -/
theorem nodup_filterMap {Value : Type} {hands : Event → Option Value}
    (fresh : ∀ past event value, permits past event → hands event = some value →
      ∀ other ∈ past, hands other ≠ some value) (justified : Justified permits history) :
    (history.filterMap hands).Nodup := by
  induction history with
  | nil => exact List.nodup_nil
  | cons latest earlier induction =>
      have rest := induction justified.2
      cases handed : hands latest with
      | none =>
          rw [List.filterMap_cons_none handed]
          exact rest
      | some value =>
          rw [List.filterMap_cons_some handed, List.nodup_cons]
          refine ⟨?_, rest⟩
          intro member
          rcases List.mem_filterMap.mp member with ⟨other, among, again⟩
          exact fresh earlier latest value justified.1 handed other among again

end Ntsql.History
