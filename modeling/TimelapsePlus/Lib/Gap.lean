import Mathlib.Data.List.Basic
import Mathlib.Logic.Function.Basic
import Mathlib.Order.Basic

/-!
# Gaps in an Array

An array of a fixed size of which only the first entries are in use, in order. To put
one between two others those after it are moved up by a place, the last of them first;
to take one out those after it are moved down, the first of them first. Done the other
way round an entry would be written over before it has been read.

An access that is not within the array has no value, so that a run of copies that has
one makes no access outside.

## Main definitions

* `copy`: One entry is copied to another.
* `openGap`, `closeGap`: The two loops.
* `entries`: The entries in use.

## Theorems

* `openGap_eq`, `closeGap_eq`: What the loops leave, and where they stay within the
  array.
* `entries_opened`: An entry put into the gap is inserted into the list.
* `entries_closed`: An entry that is taken out is erased from it.
* `sorted_opened`: Entries stay sorted if the gap is where the new one belongs.
-/

namespace TimelapsePlus

namespace Gap

variable {α : Type} {size : Nat}

/-- Copy the entry at `src` to `dst`. -/
def copy (size : Nat) (a : Nat → α) (dst src : Nat) : Option (Nat → α) :=
  if dst < size ∧ src < size then some (Function.update a dst (a src)) else none

/-- `for(j = i + n; j > i; j--) a[j] = a[j - 1];` -/
def openGap (size : Nat) (a : Nat → α) (i : Nat) : Nat → Option (Nat → α)
  | 0 => some a
  | n + 1 => (copy size a (i + n + 1) (i + n)).bind fun a => openGap size a i n

/-- `for(j = i; j < i + n; j++) a[j] = a[j + 1];` -/
def closeGap (size : Nat) (a : Nat → α) (i : Nat) : Nat → Option (Nat → α)
  | 0 => some a
  | n + 1 => (copy size a i (i + 1)).bind fun a => closeGap size a (i + 1) n

/-- The first entries, in order. -/
def entries (a : Nat → α) (n : Nat) : List α := (List.range n).map a

theorem copy_eq (a : Nat → α) {dst src : Nat} (hdst : dst < size) (hsrc : src < size) :
    copy size a dst src = some (Function.update a dst (a src)) :=
  if_pos ⟨hdst, hsrc⟩

/-- The entries after the gap have moved up. -/
theorem openGap_eq (a : Nat → α) (i n : Nat) (hsize : i + n < size) :
    openGap size a i n = some fun k => if i < k ∧ k ≤ i + n then a (k - 1) else a k := by
  induction n generalizing a with
  | zero =>
      refine congrArg some (funext fun k => ?_)
      rw [if_neg (by omega)]
  | succ n ih =>
      rw [openGap, copy_eq a (by omega) (by omega), Option.bind_some, ih _ (by omega)]
      refine congrArg some (funext fun k => ?_)
      -- The entry just written is the last, and the others are read as they were.
      rcases Nat.lt_trichotomy k (i + n + 1) with hlt | rfl | hgt
      · rw [Function.update_of_ne (by omega), Function.update_of_ne (by omega)]
        by_cases hk : i < k
        · rw [if_pos (by omega), if_pos (by omega)]
        · rw [if_neg (by omega), if_neg (by omega)]
      · rw [if_neg (by omega), if_pos (by omega), Function.update_self, Nat.add_sub_cancel]
      · rw [if_neg (by omega), if_neg (by omega), Function.update_of_ne (by omega)]

/-- The entries after the one taken out have moved down. -/
theorem closeGap_eq (a : Nat → α) (i n : Nat) (hsize : i + n < size) :
    closeGap size a i n = some fun k => if i ≤ k ∧ k < i + n then a (k + 1) else a k := by
  induction n generalizing a i with
  | zero =>
      refine congrArg some (funext fun k => ?_)
      rw [if_neg (by omega)]
  | succ n ih =>
      rw [closeGap, copy_eq a (by omega) (by omega), Option.bind_some, ih _ _ (by omega)]
      refine congrArg some (funext fun k => ?_)
      rcases Nat.lt_trichotomy k i with hlt | rfl | hgt
      · rw [if_neg (by omega), if_neg (by omega), Function.update_of_ne (by omega)]
      · rw [if_neg (by omega), if_pos (by omega), Function.update_self]
      · rw [Function.update_of_ne (by omega), Function.update_of_ne (by omega)]
        by_cases hk : k < i + 1 + n
        · rw [if_pos (by omega), if_pos (by omega)]
        · rw [if_neg (by omega), if_neg (by omega)]

@[simp] theorem length_entries (a : Nat → α) (n : Nat) : (entries a n).length = n := by
  rw [entries, List.length_map, List.length_range]

@[simp] theorem getElem_entries (a : Nat → α) (n k : Nat) (hk : k < (entries a n).length) :
    (entries a n)[k] = a k := by
  simp only [entries, List.getElem_map, List.getElem_range]

/-- Arrays that agree on the entries in use have the same in use. -/
theorem entries_congr {a b : Nat → α} {n : Nat} (h : ∀ k, k < n → a k = b k) :
    entries a n = entries b n :=
  List.map_congr_left fun k hk => h k (List.mem_range.mp hk)

/-- An entry put into the gap that has been opened for it. -/
theorem entries_opened (a : Nat → α) (x : α) {i n : Nat} (hi : i ≤ n) :
    entries (fun k => if k < i then a k else if k = i then x else a (k - 1)) (n + 1) =
      (entries a n).insertIdx i x := by
  have hlength : i ≤ (entries a n).length := by rw [length_entries]; exact hi
  refine List.ext_getElem ?_ fun k hk _ => ?_
  · rw [List.length_insertIdx_of_le_length hlength, length_entries, length_entries]
  · rw [getElem_entries, List.getElem_insertIdx]
    split
    · rw [getElem_entries]
    · split
      · rfl
      · rw [getElem_entries]

/-- The gap where an entry has been taken out is closed. -/
theorem entries_closed (a : Nat → α) {i n : Nat} (hi : i ≤ n) :
    entries (fun k => if k < i then a k else a (k + 1)) n = (entries a (n + 1)).eraseIdx i := by
  refine List.ext_getElem ?_ fun k hk _ => ?_
  · rw [List.length_eraseIdx_of_lt (by rw [length_entries]; omega), length_entries, length_entries,
      Nat.add_sub_cancel]
  · rw [getElem_entries, List.getElem_eraseIdx]
    split
    · rw [getElem_entries]
    · rw [getElem_entries]

/-- Entries stay sorted if the new one is put in front of the first that is not less. -/
theorem sorted_opened {β : Type} [Preorder β] {f : Nat → β} {x : β} {i n : Nat}
    (hsorted : ∀ j, j + 1 < n → f j ≤ f (j + 1)) (hi : i ≤ n) (hle : x ≤ f i)
    (hbefore : ∀ j, j < i → f j ≤ x) (k : Nat) (hk : k + 1 < n + 1) :
    (if k < i then f k else if k = i then x else f (k - 1)) ≤
      if k + 1 < i then f (k + 1) else if k + 1 = i then x else f (k + 1 - 1) := by
  rw [Nat.add_sub_cancel]
  rcases Nat.lt_trichotomy k i with hlt | rfl | hgt
  · rw [if_pos hlt]
    by_cases hlt' : k + 1 < i
    · rw [if_pos hlt']
      exact hsorted k (by omega)
    · rw [if_neg hlt', if_pos (by omega)]
      exact hbefore k hlt
  · rw [if_neg (Nat.lt_irrefl k), if_pos rfl, if_neg (by omega), if_neg (by omega)]
    exact hle
  · rw [if_neg (by omega), if_neg (by omega), if_neg (by omega), if_neg (by omega)]
    have hstep := hsorted (k - 1) (by omega)
    rwa [Nat.sub_add_cancel (by omega)] at hstep

end Gap

end TimelapsePlus
