import Mathlib

/-! # Folds that notice one changed item

A fold whose steps confuse neither two states nor two items ends differently on
lists that differ in one place, however long they are. -/

namespace Ntsql.SensitiveFold

variable {State Item : Type}

/-- Two lists of one length differ at `index` and nowhere else. -/
structure DifferAt (index : Nat) (left right : List Item) : Prop where
  length : left.length = right.length
  differs : left[index]? ≠ right[index]?
  elsewhere : ∀ other, other ≠ index → left[other]? = right[other]?

theorem DifferAt.tails_eq {left right : Item} {lefts rights : List Item}
    (differ : DifferAt 0 (left :: lefts) (right :: rights)) : lefts = rights := by
  apply List.ext_getElem?
  intro index
  simpa using differ.elsewhere (index + 1) (Nat.succ_ne_zero index)

theorem DifferAt.heads_ne {left right : Item} {lefts rights : List Item}
    (differ : DifferAt 0 (left :: lefts) (right :: rights)) : left ≠ right := by
  simpa using differ.differs

theorem DifferAt.heads_eq {index : Nat} {left right : Item} {lefts rights : List Item}
    (differ : DifferAt (index + 1) (left :: lefts) (right :: rights)) : left = right := by
  simpa using differ.elsewhere 0 (Nat.succ_ne_zero index).symm

theorem DifferAt.tail {index : Nat} {left right : Item} {lefts rights : List Item}
    (differ : DifferAt (index + 1) (left :: lefts) (right :: rights)) :
    DifferAt index lefts rights where
  length := Nat.succ.inj differ.length
  differs := by simpa using differ.differs
  elsewhere other apart := by
    simpa using differ.elsewhere (other + 1) (fun same => apart (Nat.succ.inj same))

variable {step : State → Item → State}

theorem foldl_injective (keeps : ∀ item, Function.Injective fun state => step state item)
    (items : List Item) : Function.Injective fun state => items.foldl step state := by
  induction items with
  | nil => exact Function.injective_id
  | cons item items induction => exact induction.comp (keeps item)

/-- The fold up to the change is the same, the change is told, and what follows
keeps the states apart. -/
theorem foldl_ne (keeps : ∀ item, Function.Injective fun state => step state item)
    (tells : ∀ state, Function.Injective (step state)) {index : Nat}
    {left right : List Item} (differ : DifferAt index left right) (initial : State) :
    left.foldl step initial ≠ right.foldl step initial := by
  induction left generalizing right index initial with
  | nil =>
      have empty := List.length_eq_zero_iff.mp differ.length.symm
      exact absurd (by rw [empty]) differ.differs
  | cons item items induction =>
      cases right with
      | nil => exact absurd differ.length (by simp)
      | cons other others =>
          cases index with
          | zero =>
              rw [List.foldl_cons, List.foldl_cons, differ.tails_eq]
              intro same
              exact differ.heads_ne (tells initial (foldl_injective keeps others same))
          | succ index =>
              rw [List.foldl_cons, List.foldl_cons, differ.heads_eq]
              exact induction differ.tail _

end Ntsql.SensitiveFold
