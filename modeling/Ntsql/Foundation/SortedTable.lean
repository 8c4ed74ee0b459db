import Ntsql.Foundation.Fallible

/-! # Tables sorted by a key

Rows are kept in increasing order of their keys and are found by binary search.
Such a table is determined by the partial function from keys to rows that its
searches compute. -/

namespace Ntsql.SortedTable

variable {Key Row : Type} {ε : Type} [LinearOrder Key] (key : Row → Key)

def Increasing (rows : List Row) : Prop :=
  rows.Pairwise fun earlier later => key earlier < key later

/-- `rows.binary_search_by_key(&wanted, key)` on sorted rows: the index of the
row with the key, or the index where it belongs. -/
def binarySearchByKey (wanted : Key) (rows : List Row) : Except Nat Nat :=
  let index := (rows.takeWhile fun row => key row < wanted).length
  match rows[index]? with
  | some row => if key row = wanted then .ok index else .error index
  | none => .error index

def search (wanted : Key) (rows : List Row) : Option Row :=
  match binarySearchByKey key wanted rows with
  | .ok index => rows[index]?
  | .error _ => none

/-- Change the row a binary search finds, or insert a fresh row where it
belongs. -/
def upsert (wanted : Key) (change : Row → Except ε Row) (fresh : Row) (rows : List Row) :
    Except ε (List Row) :=
  match binarySearchByKey key wanted rows with
  | .ok index =>
      match rows[index]? with
      | some row => do
          let changed ← change row
          return rows.set index changed
      | none => return rows
  | .error index => return rows.insertIdx index fresh

/-- Make rows of observations one by one, knowing the row before. -/
def collect {Observation : Type}
    (materialize : Option Row → Observation × Nat → Except ε Row)
    (observations : List Observation) : Except ε (List Row) := do
  let final ← observations.zipIdx.foldlM (fun state item => do
    let row ← materialize state.1 item
    return (some row, state.2 ++ [row])) (none, [])
  return final.2

/-- The searches of the table compute `view`. -/
structure Describes (view : Key → Option Row) (rows : List Row) : Prop where
  increasing : Increasing key rows
  found : ∀ row, row ∈ rows ↔ view (key row) = some row
  keyed : ∀ wanted row, view wanted = some row → key row = wanted

theorem insertIdx_length_append (fresh : Row) (below above : List Row) :
    (below ++ above).insertIdx below.length fresh = below ++ fresh :: above := by
  induction below with
  | nil => rfl
  | cons row below induction =>
      rw [List.cons_append, List.length_cons, List.insertIdx_succ_cons, induction,
        List.cons_append]

section Searches

variable {key} {rows : List Row}

theorem Increasing.split (increasing : Increasing key rows) (wanted : Key) :
    ∃ below rest, rows = below ++ rest ∧
      rows.takeWhile (fun row => key row < wanted) = below ∧
      (∀ row ∈ below, key row < wanted) ∧ ∀ row ∈ rest, wanted ≤ key row := by
  induction increasing with
  | nil => exact ⟨[], [], rfl, rfl, by simp, by simp⟩
  | @cons row rows above _ induction =>
      by_cases isBelow : key row < wanted
      · rcases induction with ⟨below, rest, split, taken, smaller, larger⟩
        refine ⟨row :: below, rest, by rw [split, List.cons_append], ?_, ?_, larger⟩
        · rw [List.takeWhile_cons_of_pos (by simpa using isBelow), taken]
        · simpa [isBelow] using smaller
      · refine ⟨[], row :: rows, rfl, ?_, by simp, ?_⟩
        · rw [List.takeWhile_cons_of_neg (by simpa using isBelow)]
        · intro other among
          rcases List.mem_cons.mp among with rfl | among
          · exact not_lt.mp isBelow
          · exact (not_lt.mp isBelow).trans (above other among).le

/-- Where a binary search of sorted rows ends. -/
inductive Located (key : Row → Key) (wanted : Key) (rows : List Row) :
    Except Nat Nat → Prop where
  | found (below : List Row) (row : Row) (above : List Row)
      (split : rows = below ++ row :: above)
      (here : key row = wanted) (smaller : ∀ other ∈ below, key other < wanted)
      (larger : ∀ other ∈ above, wanted < key other) :
      Located key wanted rows (.ok below.length)
  | missing (below above : List Row) (split : rows = below ++ above)
      (smaller : ∀ other ∈ below, key other < wanted)
      (larger : ∀ other ∈ above, wanted < key other) :
      Located key wanted rows (.error below.length)

theorem Increasing.located (increasing : Increasing key rows) (wanted : Key) :
    Located key wanted rows (binarySearchByKey key wanted rows) := by
  rcases increasing.split wanted with ⟨below, rest, split, taken, smaller, larger⟩
  rw [binarySearchByKey, taken]
  have ordered : Increasing key (below ++ rest) := split ▸ increasing
  cases rest with
  | nil =>
      rw [split, List.append_nil, List.getElem?_eq_none le_rfl]
      exact .missing below [] (by simp) smaller (by simp)
  | cons row above =>
      have after := (List.pairwise_cons.mp (List.pairwise_append.mp ordered).2.1).1
      have least := larger row List.mem_cons_self
      simp only [split, List.getElem?_append_right le_rfl, Nat.sub_self,
        List.getElem?_cons_zero]
      split
      · rename_i here
        exact .found below row above rfl here smaller fun other among =>
          here ▸ after other among
      · rename_i apart
        have beyond := lt_of_le_of_ne least (Ne.symm apart)
        refine .missing below (row :: above) rfl smaller fun other among => ?_
        rcases List.mem_cons.mp among with rfl | among
        · exact beyond
        · exact beyond.trans (after other among)

theorem Increasing.unique (increasing : Increasing key rows) {left right : Row}
    (leftAmong : left ∈ rows) (rightAmong : right ∈ rows) (same : key left = key right) :
    left = right := by
  induction increasing with
  | nil => simp at leftAmong
  | @cons row rows above _ induction =>
      rcases List.mem_cons.mp leftAmong with leftHere | leftAmong
      · rcases List.mem_cons.mp rightAmong with rightHere | rightAmong
        · exact leftHere.trans rightHere.symm
        · exact absurd (leftHere ▸ same) (above right rightAmong).ne
      · rcases List.mem_cons.mp rightAmong with rightHere | rightAmong
        · exact absurd (rightHere ▸ same) (above left leftAmong).ne'
        · exact induction leftAmong rightAmong

theorem Increasing.binarySearchByKey_ok_iff (increasing : Increasing key rows)
    {wanted : Key} {index : Nat} :
    binarySearchByKey key wanted rows = .ok index ↔
      ∃ row, rows[index]? = some row ∧ key row = wanted := by
  have located := increasing.located wanted
  generalize binarySearchByKey key wanted rows = outcome at located
  cases located with
  | found below found above split here smaller larger =>
      rw [Except.ok.injEq, split]
      constructor
      · intro same
        subst same
        exact ⟨found, by simp, here⟩
      · intro isRow
        rcases isRow with ⟨row, indexed, isWanted⟩
        rcases lt_trichotomy index below.length with before | same | after
        · rw [List.getElem?_append_left before] at indexed
          exact absurd isWanted (smaller row (List.mem_of_getElem? indexed)).ne
        · exact same.symm
        · rw [List.getElem?_append_right after.le, List.getElem?_cons,
            if_neg (by omega)] at indexed
          exact absurd isWanted (larger row (List.mem_of_getElem? indexed)).ne'
  | missing below above split smaller larger =>
      simp only [reduceCtorEq, split, false_iff, not_exists, not_and]
      intro row indexed isWanted
      rcases List.mem_append.mp (List.mem_of_getElem? indexed) with isBelow | isAbove
      · exact (smaller row isBelow).ne isWanted
      · exact (larger row isAbove).ne' isWanted

theorem Increasing.search_eq_some (increasing : Increasing key rows) {wanted : Key}
    {row : Row} :
    search key wanted rows = some row ↔ row ∈ rows ∧ key row = wanted := by
  have located := increasing.located wanted
  rw [search]
  generalize binarySearchByKey key wanted rows = outcome at located
  cases located with
  | found below found above split here smaller larger =>
      simp only [split, List.getElem?_append_right le_rfl, Nat.sub_self,
        List.getElem?_cons_zero, Option.some.injEq]
      constructor
      · intro same
        subst same
        exact ⟨by simp, here⟩
      · intro isRow
        have among : found ∈ rows := by simp [split]
        exact increasing.unique among (split ▸ isRow.1) (here.trans isRow.2.symm)
  | missing below above split smaller larger =>
      simp only [reduceCtorEq, false_iff, not_and]
      intro among here
      rcases List.mem_append.mp (split ▸ among) with isBelow | isAbove
      · exact (smaller row isBelow).ne here
      · exact (larger row isAbove).ne' here

theorem Increasing.search_eq_none (increasing : Increasing key rows) {wanted : Key} :
    search key wanted rows = none ↔ ∀ row ∈ rows, key row ≠ wanted := by
  rw [Option.eq_none_iff_forall_ne_some]
  constructor
  · intro missing row among here
    exact missing row (increasing.search_eq_some.mpr ⟨among, here⟩)
  · intro missing row found
    rcases increasing.search_eq_some.mp found with ⟨among, here⟩
    exact missing row among here

section Collect

variable {Observation : Type}
  {materialize : Option Row → Observation × Nat → Except ε Row}
  {observe : Row → Observation} {Canonical : Row → Prop}

theorem foldlM_collect_ok_iff
    (makes : ∀ previous item row, materialize previous item = .ok row ↔
      observe row = item.1 ∧ Canonical row ∧ ∀ earlier ∈ previous, key earlier < key row)
    (items : List (Observation × Nat)) (previous : Option Row) (made : List Row)
    {final : Option Row × List Row} :
    items.foldlM (fun state item => do
        let row ← materialize state.1 item
        return (some row, state.2 ++ [row])) (previous, made) = .ok final ↔
      ∃ rows, rows.map observe = items.map Prod.fst ∧ (∀ row ∈ rows, Canonical row) ∧
        Increasing key rows ∧
          (∀ earlier ∈ previous, ∀ row ∈ rows, key earlier < key row) ∧
        final = (rows.getLast?.or previous, made ++ rows) := by
  induction items generalizing previous made with
  | nil =>
      rw [List.foldlM_nil, Except.pure_ok_iff, List.map_nil]
      simp only [List.map_eq_nil_iff, exists_eq_left]
      simp [Increasing, eq_comm]
  | cons item items induction =>
      simp only [List.foldlM_cons, Except.bind_ok_iff, Except.pure_ok_iff, makes,
        List.map_cons]
      constructor
      · intro collected
        rcases collected with ⟨_, ⟨row, ⟨observed, canonical, after⟩, rfl⟩, folded⟩
        rcases (induction (some row) (made ++ [row])).mp folded with
          ⟨rows, observedRest, all, increasing, above, rfl⟩
        have above := above row rfl
        refine ⟨row :: rows, by rw [List.map_cons, observed, observedRest],
          List.forall_mem_cons.mpr ⟨canonical, all⟩,
            List.pairwise_cons.mpr ⟨above, increasing⟩,
          fun earlier isPrevious => ?_, ?_⟩
        · have first := after earlier isPrevious
          exact List.forall_mem_cons.mpr ⟨first, fun later among =>
            first.trans (above later among)⟩
        · cases last : rows.getLast? <;> simp [List.getLast?_cons, last]
      · intro holds
        rcases holds with ⟨rows, observed, all, increasing, above, rfl⟩
        cases rows with
        | nil => simp at observed
        | cons row rows =>
            rw [List.map_cons, List.cons.injEq] at observed
            have ordered := List.pairwise_cons.mp increasing
            refine ⟨_, ⟨row, ⟨observed.1, all row List.mem_cons_self,
              fun earlier isPrevious => above earlier isPrevious row List.mem_cons_self⟩,
                rfl⟩, ?_⟩
            refine (induction (some row) (made ++ [row])).mpr ⟨rows, observed.2,
              fun other among => all other (List.mem_cons_of_mem row among),
                ordered.2, ?_, ?_⟩
            · intro earlier isRow
              exact Option.some.inj isRow ▸ ordered.1
            · cases last : rows.getLast? <;> simp [List.getLast?_cons, last]

/-- Rows are collected exactly when they increase, are each canonical and have
the observations. -/
theorem collect_ok_iff
    (makes : ∀ previous item row, materialize previous item = .ok row ↔
      observe row = item.1 ∧ Canonical row ∧ ∀ earlier ∈ previous, key earlier < key row)
    {observations : List Observation} {rows : List Row} :
    collect materialize observations = .ok rows ↔
      rows.map observe = observations ∧ (∀ row ∈ rows, Canonical row) ∧
        Increasing key rows := by
  simp only [collect, Except.bind_ok_iff, Except.pure_ok_iff,
    foldlM_collect_ok_iff makes observations.zipIdx none [], List.zipIdx_map_fst]
  constructor
  · intro collected
    rcases collected with ⟨_, ⟨made, observed, all, increasing, _, rfl⟩, rfl⟩
    exact ⟨observed, all, increasing⟩
  · intro holds
    exact ⟨_, ⟨rows, holds.1, holds.2.1, holds.2.2, by simp, rfl⟩, by simp⟩

end Collect

end Searches

namespace Describes

variable {key} {view : Key → Option Row} {rows : List Row}

theorem nil : Describes key (fun _ => none) ([] : List Row) where
  increasing := List.Pairwise.nil
  found := by simp
  keyed := by simp

theorem search_eq (describes : Describes key view rows) (wanted : Key) :
    search key wanted rows = view wanted := by
  cases viewed : view wanted with
  | some row =>
      have here := describes.keyed wanted row viewed
      rw [describes.increasing.search_eq_some]
      exact ⟨(describes.found row).mpr (here ▸ viewed), here⟩
  | none =>
      rw [describes.increasing.search_eq_none]
      intro row among here
      have viewed' := (describes.found row).mp among
      rw [here, viewed] at viewed'
      exact absurd viewed' (by simp)

theorem unique {other : List Row} (describes : Describes key view rows)
    (describesOther : Describes key view other) : rows = other := by
  have irreflexive : Std.Irrefl fun earlier later : Row => key earlier < key later :=
    ⟨fun row => lt_irrefl (key row)⟩
  have antisymmetric : Std.Antisymm fun earlier later : Row => key earlier < key later :=
    ⟨fun _ _ forward backward => absurd forward backward.asymm⟩
  refine describes.increasing.eq_of_mem_iff describesOther.increasing fun row => ?_
  rw [describes.found, describesOther.found]

theorem map {Other : Type} {otherKey : Other → Key} {lower : Row → Other}
    (describes : Describes key view rows)
    (keyed : ∀ row, otherKey (lower row) = key row) :
    Describes otherKey (fun wanted => (view wanted).map lower) (rows.map lower) where
  increasing :=
    List.pairwise_map.mpr (describes.increasing.imp fun {earlier later} before => by
    rw [keyed, keyed]
    exact before)
  found other := by
    rw [List.mem_map, Option.map_eq_some_iff]
    constructor
    · intro found
      rcases found with ⟨row, among, rfl⟩
      exact ⟨row, keyed row ▸ (describes.found row).mp among, rfl⟩
    · intro found
      rcases found with ⟨row, viewed, rfl⟩
      exact ⟨row, (describes.found row).mpr (keyed row ▸ viewed), rfl⟩
  keyed wanted other viewed := by
    rcases Option.map_eq_some_iff.mp viewed with ⟨row, rowViewed, rfl⟩
    exact (keyed row).trans (describes.keyed wanted row rowViewed)

theorem splice [DecidableEq Key] {below above : List Row} {row : Row} {wanted : Key}
    (kept : List Row) (describes : Describes key view (below ++ (kept ++ above)))
    (here : key row = wanted) (keptHere : ∀ other ∈ kept, key other = wanted)
    (smaller : ∀ other ∈ below, key other < wanted)
    (larger : ∀ other ∈ above, wanted < key other) :
    Describes key (Function.update view wanted (some row)) (below ++ row :: above) where
  increasing := by
    have ordered := List.pairwise_append.mp describes.increasing
    have orderedAbove := (List.pairwise_append.mp ordered.2.1).2.1
    refine List.pairwise_append.mpr
      ⟨ordered.1, List.pairwise_cons.mpr ⟨?_, orderedAbove⟩, ?_⟩
    · intro other among
      exact here ▸ larger other among
    · intro other among later isLater
      rcases List.mem_cons.mp isLater with rfl | isLater
      · exact here ▸ smaller other among
      · exact (smaller other among).trans (larger later isLater)
  found other := by
    by_cases isHere : key other = wanted
    · rw [isHere, Function.update_self, Option.some.injEq]
      constructor
      · intro among
        rcases List.mem_append.mp among with isBelow | among
        · exact absurd isHere (smaller other isBelow).ne
        · rcases List.mem_cons.mp among with same | isAbove
          · exact same.symm
          · exact absurd isHere (larger other isAbove).ne'
      · intro same
        simp [same]
    · rw [Function.update_of_ne isHere, ← describes.found other]
      have notRow : other ≠ row := fun same => isHere (same ▸ here)
      have notKept : other ∉ kept := fun among => isHere (keptHere other among)
      simp [notRow, notKept]
  keyed other found viewed := by
    by_cases isHere : other = wanted
    · rw [isHere, Function.update_self, Option.some.injEq] at viewed
      rw [isHere, ← viewed, here]
    · rw [Function.update_of_ne isHere] at viewed
      exact describes.keyed other found viewed

theorem exists_update [DecidableEq Key] {wanted : Key} {row : Row}
    (describes : Describes key view rows) (here : key row = wanted) :
    ∃ next, Describes key (Function.update view wanted (some row)) next := by
  have located := describes.increasing.located wanted
  generalize binarySearchByKey key wanted rows = outcome at located
  cases located with
  | found below found above split foundHere smaller larger =>
      exact ⟨_, splice [found] (split ▸ describes) here (by simpa using foundHere)
        smaller larger⟩
  | missing below above split smaller larger =>
      exact ⟨_, splice [] (split ▸ describes) here (by simp) smaller larger⟩

theorem upsert_ok_iff [DecidableEq Key] {wanted : Key} {change : Row → Except ε Row}
    {fresh : Row} {next : List Row} (describes : Describes key view rows)
    (freshHere : key fresh = wanted)
    (keeps : ∀ row changed, change row = .ok changed → key changed = key row) :
    upsert key wanted change fresh rows = .ok next ↔
      ∃ row, (view wanted).elim (.ok fresh) change = .ok row ∧
        Describes key (Function.update view wanted (some row)) next := by
  have located := describes.increasing.located wanted
  have searched := describes.search_eq wanted
  rw [search] at searched
  rw [upsert]
  generalize binarySearchByKey key wanted rows = outcome at located searched
  cases located with
  | found below row above split here smaller larger =>
      simp only [split, List.getElem?_append_right le_rfl, Nat.sub_self,
        List.getElem?_cons_zero] at searched ⊢
      rw [← searched, Option.elim_some, Except.bind_ok_iff]
      have spliced : ∀ changed, change row = .ok changed →
          Describes key (Function.update view wanted (some changed))
            (below ++ changed :: above) :=
        fun changed succeeds => splice [row] (split ▸ describes)
          ((keeps row changed succeeds).trans here) (by simpa using here) smaller larger
      constructor
      · intro succeeds
        rcases succeeds with ⟨changed, succeeds, set⟩
        cases set
        refine ⟨changed, succeeds, ?_⟩
        simpa using spliced changed succeeds
      · intro succeeds
        rcases succeeds with ⟨changed, succeeds, described⟩
        refine ⟨changed, succeeds, ?_⟩
        rw [described.unique (spliced changed succeeds), List.set_append_right _ _ le_rfl]
        simp [pure, Except.pure]
  | missing below above split smaller larger =>
      simp only at searched ⊢
      rw [← searched, Option.elim_none, split, insertIdx_length_append,
        Except.pure_ok_iff]
      have spliced : Describes key (Function.update view wanted (some fresh))
          (below ++ fresh :: above) :=
        splice [] (split ▸ describes) freshHere (by simp) smaller larger
      constructor
      · intro inserted
        exact ⟨fresh, rfl, inserted ▸ spliced⟩
      · intro inserted
        rcases inserted with ⟨row, isFresh, described⟩
        cases isFresh
        exact spliced.unique described

end Describes

end Ntsql.SortedTable
