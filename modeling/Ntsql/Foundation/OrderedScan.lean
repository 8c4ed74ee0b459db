import Ntsql.Foundation.Fallible
import Ntsql.Foundation.MachineInteger

/-! # Scans that require increasing items

A scan remembers the item before and refuses one that does not come after it.
What else it keeps is folded over the items. -/

namespace Ntsql.OrderedScan

variable {ε Item Kept : Type}

/-- Scan the items and return what was kept of them. -/
def scan (step : Option Item × Kept → Item → Except ε (Option Item × Kept)) (kept : Kept)
    (items : List Item) : Except ε Kept := do
  let final ← items.foldlM step (none, kept)
  return final.2

/-- Refuse an item that repeats the key of the one before it, or goes back. -/
def requireAfter (key : Item → U64) (previous : Option Item) (item : Item)
    (repeats goesBack : Item → ε) : Except ε Unit :=
  match previous with
  | none => .ok ()
  | some previous => do
      rejectIf (key item = key previous) (repeats previous)
      rejectIf (key item < key previous) (goesBack previous)

@[simp] theorem requireAfter_ok_iff (key : Item → U64) (previous : Option Item)
    (item : Item) (repeats goesBack : Item → ε) (value : Unit) :
    requireAfter key previous item repeats goesBack = .ok value ↔
      ∀ earlier ∈ previous, key earlier < key item := by
  cases previous with
  | none => simp [requireAfter]
  | some previous =>
      simp only [requireAfter, Except.bind_ok_iff, rejectIf_ok_iff, Option.mem_def,
        Option.some.injEq, forall_eq']
      constructor
      · intro passed
        rcases passed with ⟨_, fresh, advances⟩
        exact lt_of_le_of_ne (not_lt.mp advances) (Ne.symm fresh)
      · intro advances
        exact ⟨(), ne_of_gt advances, not_lt.mpr advances.le⟩

/-- The step accepts an item by itself, after the item before it, and by what
it keeps of the items so far. -/
def Accepts (accepts : Item → Prop) (precedes : Item → Item → Prop)
    (update : Kept → Item → Option Kept)
    (step : Option Item × Kept → Item → Except ε (Option Item × Kept)) : Prop :=
  ∀ previous kept item next, step (previous, kept) item = .ok next ↔
    accepts item ∧ (∀ earlier ∈ previous, precedes earlier item) ∧
      ∃ after, update kept item = some after ∧ next = (some item, after)

variable {accepts : Item → Prop} {precedes : Item → Item → Prop}
  {update : Kept → Item → Option Kept}
  {step : Option Item × Kept → Item → Except ε (Option Item × Kept)}

section Scans

variable [IsTrans Item precedes] (accepted : Accepts accepts precedes update step)

include accepted

theorem foldlM_ok_iff (items : List Item) (previous : Option Item) (kept after : Kept) :
    (∃ last, items.foldlM step (previous, kept) = .ok (last, after)) ↔
      (∀ item ∈ items, accepts item) ∧
        (∀ earlier ∈ previous, ∀ item ∈ items, precedes earlier item) ∧
        items.Pairwise precedes ∧ items.foldlM update kept = some after := by
  induction items generalizing previous kept with
  | nil =>
      simp only [List.foldlM_nil, pure, Except.pure, Except.ok.injEq, Prod.mk.injEq,
        exists_and_right, exists_eq', true_and, List.not_mem_nil, false_implies,
        implies_true, List.Pairwise.nil, Option.some.injEq]
  | cons item items induction =>
      simp only [List.foldlM_cons, Except.bind_ok_iff, accepted previous kept item,
        List.forall_mem_cons, List.pairwise_cons, Option.bind_eq_bind,
        Option.bind_eq_some_iff]
      constructor
      · intro scanned
        rcases scanned with ⟨last, _, ⟨accepts, follows, middle, updated, rfl⟩, rest⟩
        rcases (induction (some item) middle).mp ⟨last, rest⟩ with
          ⟨all, above, ordered, folded⟩
        have above := above item rfl
        refine ⟨⟨accepts, all⟩, fun earlier isPrevious => ?_, ⟨above, ordered⟩,
          middle, updated, folded⟩
        have first := follows earlier isPrevious
        exact ⟨first, fun later among => IsTrans.trans _ _ _ first (above later among)⟩
      · intro holds
        rcases holds with
          ⟨⟨accepts, all⟩, follows, ⟨above, ordered⟩, middle, updated, folded⟩
        have single : ∀ earlier ∈ some item, ∀ later ∈ items, precedes earlier later := by
          intro earlier isItem later among
          rw [← Option.some.inj isItem]
          exact above later among
        rcases (induction (some item) middle).mpr ⟨all, single, ordered, folded⟩ with
          ⟨last, rest⟩
        exact ⟨last, _,
          ⟨accepts, fun earlier isPrevious => (follows earlier isPrevious).1, middle,
          updated, rfl⟩, rest⟩

/-- A scan succeeds exactly on increasing items that are each accepted and that
can all be kept. -/
theorem scan_ok_iff (items : List Item) (kept after : Kept) :
    scan step kept items = .ok after ↔
      (∀ item ∈ items, accepts item) ∧ items.Pairwise precedes ∧
        items.foldlM update kept = some after := by
  have folded := foldlM_ok_iff accepted items none kept after
  simp only [Option.not_mem_none, false_implies, implies_true, true_and] at folded
  rw [← folded, scan, Except.bind_ok_iff]
  constructor
  · intro scanned
    rcases scanned with ⟨⟨last, other⟩, scanned, same⟩
    cases same
    exact ⟨last, scanned⟩
  · intro scanned
    rcases scanned with ⟨last, scanned⟩
    exact ⟨(last, after), scanned, rfl⟩

end Scans

theorem foldlM_some_iff_forall {accepts : Item → Prop} {advance : Kept → Item → Kept}
    (updates : ∀ kept item after, update kept item = some after ↔
      accepts item ∧ after = advance kept item) (items : List Item) (kept after : Kept) :
    items.foldlM update kept = some after ↔
      (∀ item ∈ items, accepts item) ∧ after = items.foldl advance kept := by
  induction items generalizing kept with
  | nil => simp [eq_comm]
  | cons item items induction =>
      simp only [List.foldlM_cons, Option.bind_eq_bind, Option.bind_eq_some_iff, updates,
        induction, List.forall_mem_cons, List.foldl_cons]
      constructor
      · intro folded
        rcases folded with ⟨_, ⟨first, rfl⟩, rest, rfl⟩
        exact ⟨⟨first, rest⟩, rfl⟩
      · intro holds
        rcases holds with ⟨⟨first, rest⟩, rfl⟩
        exact ⟨_, ⟨first, rfl⟩, rest, rfl⟩

theorem dropWhile_eq_filter {key : Item → U64} (bound : U64) (items : List Item)
    (ordered : items.Pairwise fun earlier later => key earlier < key later) :
    items.dropWhile (fun item => key item < bound) =
      items.filter (fun item => bound ≤ key item) := by
  induction ordered with
  | nil => rfl
  | @cons item items above _ induction =>
      by_cases below : key item < bound
      · rw [List.dropWhile_cons_of_pos (by simpa using below), induction,
          List.filter_cons_of_neg (by simpa using below)]
      · have all : ∀ other ∈ item :: items, decide (bound ≤ key other) = true := by
          intro other among
          rcases List.mem_cons.mp among with rfl | among
          · simpa using below
          · simpa using (not_lt.mp below).trans (above other among).le
        rw [List.dropWhile_cons_of_neg (by simpa using below),
          List.filter_eq_self.mpr all]

end Ntsql.OrderedScan
