import Mathlib

/-! # Stores that keep the latest image

A store maps each key to an image carrying a stamp. Installing an image
replaces what the store holds only when the store lags behind it, so replaying
a list of images leaves the latest one of each key. -/

namespace Ntsql.LatestImage

variable {Key Image Stamp : Type} [LinearOrder Key] [LinearOrder Stamp]

abbrev Store (Key Image : Type) [LinearOrder Key] := Std.ExtTreeMap Key Image

variable (stamp : Image → Stamp)

/-- The store holds nothing for `key`, or something older than `limit`. -/
def Lags (store : Store Key Image) (key : Key) (limit : Stamp) : Prop :=
  ∀ image ∈ store[key]?, stamp image < limit

instance (store : Store Key Image) (key : Key) (limit : Stamp) :
    Decidable (Lags stamp store key limit) :=
  inferInstanceAs (Decidable (∀ image ∈ store[key]?, stamp image < limit))

/-- The store holds an image of `key` at least as late as `limit`. -/
def Holds (store : Store Key Image) (key : Key) (limit : Stamp) : Prop :=
  ∃ image, store[key]? = some image ∧ limit ≤ stamp image

def install (store : Store Key Image) (entry : Key × Image) : Store Key Image :=
  if Lags stamp store entry.1 (stamp entry.2) then store.insert entry.1 entry.2 else store

def replay (store : Store Key Image) (entries : List (Key × Image)) : Store Key Image :=
  entries.foldl (install stamp) store

/-- Every key keeps an image, and none gets an older one. -/
def Advances (store later : Store Key Image) : Prop :=
  ∀ key image, store[key]? = some image → Holds stamp later key (stamp image)

variable {stamp} {store later : Store Key Image} {entry : Key × Image} {key : Key}

theorem not_lags_iff {limit : Stamp} : ¬Lags stamp store key limit ↔
    Holds stamp store key limit := by
  simp only [Lags, Holds, Option.mem_def, not_forall, not_lt, exists_prop]

theorem Holds.mono {limit lower : Stamp} (holds : Holds stamp store key limit)
    (below : lower ≤ limit) : Holds stamp store key lower := by
  rcases holds with ⟨image, found, bound⟩
  exact ⟨image, found, below.trans bound⟩

theorem Advances.holds (advances : Advances stamp store later) {limit : Stamp}
    (holds : Holds stamp store key limit) : Holds stamp later key limit := by
  rcases holds with ⟨image, found, bound⟩
  exact (advances key image found).mono bound

theorem Advances.refl (store : Store Key Image) : Advances stamp store store :=
  fun _ image found => ⟨image, found, le_rfl⟩

theorem Advances.trans {last : Store Key Image} (first : Advances stamp store later)
    (second : Advances stamp later last) : Advances stamp store last :=
  fun key image found => second.holds (first key image found)

theorem replay_append (store : Store Key Image) (front back : List (Key × Image)) :
    replay stamp store (front ++ back) =
      replay stamp (replay stamp store front) back := by
  simp [replay, List.foldl_append]

theorem install_of_holds (holds : Holds stamp store entry.1 (stamp entry.2)) :
    install stamp store entry = store := by
  rw [install, if_neg (not_lags_iff.mpr holds)]

theorem replay_of_holds {entries : List (Key × Image)}
    (holds : ∀ entry ∈ entries, Holds stamp store entry.1 (stamp entry.2)) :
    replay stamp store entries = store := by
  induction entries with
  | nil => rfl
  | cons head tail induction =>
      change replay stamp (install stamp store head) tail = store
      rw [install_of_holds (holds head List.mem_cons_self)]
      exact induction fun entry member => holds entry (List.mem_cons_of_mem head member)

variable [Std.LawfulEqOrd Key]

theorem advances_insert {latest : Image}
    (notOlder : ∀ image ∈ store[key]?, stamp image ≤ stamp latest) :
    Advances stamp store (store.insert key latest) := by
  intro other image found
  by_cases same : key = other
  · subst same
    exact ⟨latest, by simp, notOlder image found⟩
  · exact ⟨image, by simpa [Std.ExtTreeMap.getElem?_insert, same] using found, le_rfl⟩

theorem advances_install (store : Store Key Image) (entry : Key × Image) :
    Advances stamp store (install stamp store entry) := by
  unfold install
  split
  · rename_i lags
    exact advances_insert fun image member => (lags image member).le
  · exact Advances.refl store

theorem holds_install (store : Store Key Image) (entry : Key × Image) :
    Holds stamp (install stamp store entry) entry.1 (stamp entry.2) := by
  unfold install
  split
  · exact ⟨entry.2, by simp, le_rfl⟩
  · rename_i current
    exact not_lags_iff.mp current

theorem advances_replay (store : Store Key Image) (entries : List (Key × Image)) :
    Advances stamp store (replay stamp store entries) := by
  induction entries generalizing store with
  | nil => exact Advances.refl store
  | cons entry entries induction =>
      exact (advances_install store entry).trans (induction (install stamp store entry))

/-- Replay leaves no replayed image newer than what the store then holds. -/
theorem holds_replay (store : Store Key Image) {entries : List (Key × Image)}
    (member : entry ∈ entries) :
    Holds stamp (replay stamp store entries) entry.1 (stamp entry.2) := by
  induction entries generalizing store with
  | nil => cases member
  | cons head tail induction =>
      rcases List.mem_cons.mp member with rfl | later
      · exact (advances_replay _ tail).holds (holds_install store entry)
      · exact induction (install stamp store head) later

theorem install_getElem? (store : Store Key Image) {image : Image}
    (found : (install stamp store entry)[key]? = some image) :
    store[key]? = some image ∨ (key, image) = entry := by
  unfold install at found
  split at found
  · by_cases same : entry.1 = key
    · subst same
      rw [Std.ExtTreeMap.getElem?_insert_self] at found
      cases found
      exact .inr rfl
    · exact .inl (by simpa [Std.ExtTreeMap.getElem?_insert, same] using found)
  · exact .inl found

theorem replay_getElem? (store : Store Key Image) {entries : List (Key × Image)}
    {image : Image} (found : (replay stamp store entries)[key]? = some image) :
    store[key]? = some image ∨ (key, image) ∈ entries := by
  induction entries generalizing store with
  | nil => exact .inl found
  | cons head tail induction =>
      rcases induction (install stamp store head) found with earlier | later
      · rcases install_getElem? store earlier with stored | equal
        · exact .inl stored
        · exact .inr (equal ▸ List.mem_cons_self)
      · exact .inr (List.mem_cons_of_mem head later)

theorem replay_current (store : Store Key Image) {entries : List (Key × Image)}
    {image later : Image} (found : store[key]? = some image)
    (replayed : (replay stamp store entries)[key]? = some later) :
    image = later ∨ stamp image < stamp later := by
  induction entries generalizing store image with
  | nil => exact .inl (Option.some.inj (found.symm.trans replayed))
  | cons head tail induction =>
      change (replay stamp (install stamp store head) tail)[key]? = some later at replayed
      unfold install at replayed
      split at replayed
      · rename_i lags
        by_cases same : head.1 = key
        · subst same
          have installed : (store.insert head.1 head.2)[head.1]? = some head.2 := by simp
          have newer := lags image found
          rcases induction _ installed replayed with rfl | further
          · exact .inr newer
          · exact .inr (newer.trans further)
        · have kept : (store.insert head.1 head.2)[key]? = some image := by
            simpa [Std.ExtTreeMap.getElem?_insert, same] using found
          exact induction _ kept replayed
      · exact induction _ found replayed

/-- Leaving out of a replay what the store already covers loses nothing. -/
theorem replay_filter {entries : List (Key × Image)} (keep : Key × Image → Bool)
    (skipped : ∀ entry ∈ entries, keep entry = false →
      Holds stamp store entry.1 (stamp entry.2)) :
    replay stamp store (entries.filter keep) = replay stamp store entries := by
  induction entries generalizing store with
  | nil => rfl
  | cons head tail induction =>
      have tailSkipped : ∀ entry ∈ tail, keep entry = false →
          Holds stamp (install stamp store head) entry.1 (stamp entry.2) :=
        fun entry member dropped => (advances_install store head).holds
          (skipped entry (List.mem_cons_of_mem head member) dropped)
      cases kept : keep head with
      | true =>
          rw [List.filter_cons_of_pos kept]
          exact induction tailSkipped
      | false =>
          have current := install_of_holds (skipped head List.mem_cons_self kept)
          rw [List.filter_cons_of_neg (by simp [kept])]
          change _ = replay stamp (install stamp store head) tail
          rw [current] at tailSkipped ⊢
          exact induction tailSkipped

end Ntsql.LatestImage
