import Mathlib

/-! # Durable logs

A log is a list of records with strictly increasing positions, read through an
optional frontier: the records at or below it are durable. The lemmas say what
appending, flushing, losing the tail and dropping a prefix do to the durable
part. Nothing here depends on what the records are. -/

namespace Ntsql

/-- `frontier.is_some_and(|frontier| position <= frontier)`. -/
def Covers [LE Position] (frontier : Option Position) (position : Position) : Prop :=
  ∃ limit ∈ frontier, position ≤ limit

@[simp] theorem covers_some [LE Position] {limit position : Position} :
    Covers (some limit) position ↔ position ≤ limit := by
  simp [Covers]

@[simp] theorem not_covers_none [LE Position] {position : Position} :
    ¬Covers none position := by
  simp [Covers]

instance [LE Position] [DecidableLE Position] (frontier : Option Position)
    (position : Position) : Decidable (Covers frontier position) :=
  inferInstanceAs (Decidable (∃ limit ∈ frontier, position ≤ limit))

/-- `left < right` in the derived order of optional values, where absence is
least. -/
def Precedes [LT Value] (left right : Option Value) : Prop :=
  ∃ value ∈ right, ∀ limit ∈ left, limit < value

instance [LT Value] [DecidableLT Value] (left right : Option Value) :
    Decidable (Precedes left right) :=
  inferInstanceAs (Decidable (∃ value ∈ right, ∀ limit ∈ left, limit < value))

section Frontier

variable [LinearOrder Position] {frontier later : Option Position} {position : Position}

theorem precedes_some :
    Precedes frontier (some position) ↔ ¬Covers frontier position := by
  cases frontier <;> simp [Precedes]

theorem Covers.trans_le {lower : Position} (covered : Covers frontier position)
    (below : lower ≤ position) : Covers frontier lower := by
  rcases covered with ⟨limit, member, bound⟩
  exact ⟨limit, member, below.trans bound⟩

/-- One frontier reaches at least as far as another. -/
def Reaches (frontier later : Option Position) : Prop :=
  ∀ position ∈ frontier, Covers later position

theorem Reaches.covers (reaches : Reaches frontier later)
    (covered : Covers frontier position) : Covers later position := by
  rcases covered with ⟨limit, member, bound⟩
  exact (reaches limit member).trans_le bound

theorem Reaches.refl (frontier : Option Position) : Reaches frontier frontier :=
  fun position member => ⟨position, member, le_rfl⟩

theorem Reaches.trans {last : Option Position} (first : Reaches frontier later)
    (second : Reaches later last) : Reaches frontier last :=
  fun position member => second.covers (first position member)

theorem not_precedes_iff : ¬Precedes later frontier ↔ Reaches frontier later := by
  cases frontier with
  | none => simp [Precedes, Reaches]
  | some position =>
      rw [precedes_some]
      simp [Reaches]

/-- `floor` is the least of `sources`, absent when there are none. -/
def IsFloor (sources : Set Position) : Option Position → Prop
  | none => sources = ∅
  | some floor => IsLeast sources floor

theorem IsFloor.mem {sources : Set Position} {floor : Position}
    (isFloor : IsFloor sources (some floor)) : floor ∈ sources :=
  isFloor.1

theorem IsFloor.exists_le {sources : Set Position} {floor : Option Position}
    (isFloor : IsFloor sources floor) {source : Position} (member : source ∈ sources) :
    ∃ least ∈ floor, least ≤ source := by
  cases floor with
  | none =>
      have empty : sources = ∅ := isFloor
      rw [empty] at member
      exact absurd member (Set.notMem_empty source)
  | some least => exact ⟨least, rfl, isFloor.2 member⟩

theorem IsFloor.insert {sources : Set Position} {floor : Option Position}
    (isFloor : IsFloor sources floor) (source : Position) :
    IsFloor (insert source sources)
      (some (floor.elim source fun least => min least source)) := by
  cases floor with
  | none =>
      have empty : sources = ∅ := isFloor
      rw [empty, insert_empty_eq]
      exact isLeast_singleton
  | some least =>
      rw [Set.insert_eq, Set.union_comm]
      exact isFloor.union isLeast_singleton

end Frontier

namespace DurableLog

variable [LinearOrder Position] (position : Record → Position)

/-- Positions strictly increase along the log. -/
def Ordered (records : List Record) : Prop :=
  records.Pairwise fun left right => position left < position right

/-- `records.iter().take_while(|record| frontier covers its position)`. -/
def durablePrefix (frontier : Option Position) (records : List Record) : List Record :=
  records.takeWhile fun record => Covers frontier (position record)

variable {position} {records : List Record} {frontier : Option Position}

theorem Ordered.eq_of_position_eq (ordered : Ordered position records)
    {left right : Record} (leftMember : left ∈ records) (rightMember : right ∈ records)
    (equal : position left = position right) : left = right := by
  induction records with
  | nil => cases leftMember
  | cons head tail induction =>
      have parts := List.pairwise_cons.mp ordered
      rcases List.mem_cons.mp leftMember with rfl | leftTail
      · rcases List.mem_cons.mp rightMember with rfl | rightTail
        · rfl
        · exact absurd equal (parts.1 right rightTail).ne
      · rcases List.mem_cons.mp rightMember with rfl | rightTail
        · exact absurd equal (parts.1 left leftTail).ne'
        · exact induction parts.2 leftTail rightTail

theorem durablePrefix_eq_filter (ordered : Ordered position records) :
    durablePrefix position frontier records =
      records.filter fun record => Covers frontier (position record) := by
  induction records with
  | nil => rfl
  | cons head tail induction =>
      have parts := List.pairwise_cons.mp ordered
      by_cases covered : Covers frontier (position head)
      · simp only [durablePrefix, List.takeWhile_cons, covered, decide_true, if_true,
          List.filter_cons]
        exact congrArg (head :: ·) (induction parts.2)
      · have beyond : ∀ record ∈ tail, ¬Covers frontier (position record) := by
          intro record member reached
          exact covered (reached.trans_le (parts.1 record member).le)
        simp only [durablePrefix, List.takeWhile_cons, covered, decide_false,
          List.filter_cons, Bool.false_eq_true, if_false]
        exact (List.filter_eq_nil_iff.mpr fun record member => by
          simpa using beyond record member).symm

theorem mem_durablePrefix (ordered : Ordered position records) {record : Record} :
    record ∈ durablePrefix position frontier records ↔
      record ∈ records ∧ Covers frontier (position record) := by
  rw [durablePrefix_eq_filter ordered, List.mem_filter, decide_eq_true_iff]

theorem Ordered.filter (ordered : Ordered position records) (keep : Record → Bool) :
    Ordered position (records.filter keep) :=
  List.Pairwise.filter keep ordered

theorem ordered_append {record : Record} (ordered : Ordered position records)
    (above : ∀ earlier ∈ records, position earlier < position record) :
    Ordered position (records ++ [record]) := by
  apply List.pairwise_append.mpr
  refine ⟨ordered, List.pairwise_singleton _ _, ?_⟩
  intro earlier member last lastMember
  rw [List.mem_singleton.mp lastMember]
  exact above earlier member

theorem Ordered.position_le_getLast (ordered : Ordered position records)
    {last record : Record} (isLast : records.getLast? = some last)
    (member : record ∈ records) :
    position record ≤ position last := by
  rcases List.getLast?_eq_some_iff.mp isLast with ⟨front, rfl⟩
  rcases List.mem_append.mp member with earlier | final
  · have before := (List.pairwise_append.mp ordered).2.2 record earlier last (by simp)
    exact before.le
  · rw [List.mem_singleton.mp final]

theorem Ordered.head_le (ordered : Ordered position records) {first record : Record}
    (isFirst : records.head? = some first) (member : record ∈ records) :
    position first ≤ position record := by
  rcases List.head?_eq_some_iff.mp isFirst with ⟨tail, rfl⟩
  rcases List.mem_cons.mp member with rfl | later
  · exact le_rfl
  · exact ((List.pairwise_cons.mp ordered).1 record later).le

theorem find?_eq_some_iff (ordered : Ordered position records) {target : Position}
    {record : Record} :
    (records.find? fun candidate => position candidate = target) = some record ↔
      record ∈ records ∧ position record = target := by
  constructor
  · intro found
    exact ⟨List.mem_of_find?_eq_some found, by simpa using List.find?_some found⟩
  · rintro ⟨member, equal⟩
    cases found : records.find? fun candidate => position candidate = target with
    | none =>
        have missing := List.find?_eq_none.mp found record member
        simp [equal] at missing
    | some other =>
        have otherMember := List.mem_of_find?_eq_some found
        have otherEqual : position other = target := by simpa using List.find?_some found
        rw [ordered.eq_of_position_eq otherMember member (otherEqual.trans equal.symm)]

end DurableLog

end Ntsql
