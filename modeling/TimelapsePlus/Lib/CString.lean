import Mathlib.Logic.Basic

/-!
# Strings of C

A string of C is the bytes of an array up to the first that is zero, or up to the
end of the array. An array is a list here, and past its end it reads as zero. The
functions that are limited to a number of bytes look at no more of a string than
that, and of two strings they can tell no more apart.

## Main definitions

* `CString.text`: The string in an array.
* `CString.strlen`, `CString.strncmp`, `CString.strncpy`: The functions of C.

## Theorems

* `strlen_eq_zero`: The empty string.
* `strncmp_eq_zero`: Two strings compare equal when they start with the same bytes.
* `text_strncpy`: A copy is a string as far as its array goes.
* `getElem_text`, `getD_strlen`: The bytes of a string in its array, and the zero after
  them.
-/

namespace TimelapsePlus

namespace CString

/-- The string in an array. -/
def text (s : List UInt8) : List UInt8 := s.takeWhile fun c => decide (c ≠ 0)

@[simp] theorem text_nil : text [] = [] := rfl

theorem text_cons (c : UInt8) (s : List UInt8) :
    text (c :: s) = if c = 0 then [] else c :: text s := by
  unfold text
  by_cases hc : c = 0
  · rw [if_pos hc, List.takeWhile_cons_of_neg (by rw [hc]; decide)]
  · rw [if_neg hc, List.takeWhile_cons_of_pos (by rw [decide_eq_true_eq]; exact hc)]

/-- The length of a string. -/
def strlen (s : List UInt8) : Nat := (text s).length

theorem strlen_eq_zero {s : List UInt8} : strlen s = 0 ↔ text s = [] := List.length_eq_zero_iff

/-- The bytes of a string are those of its array, and none is zero. -/
theorem getElem_text {s : List UInt8} {i : Nat} (hi : i < (text s).length) :
    (text s)[i] = s.getD i 0 ∧ s.getD i 0 ≠ 0 := by
  induction s generalizing i with
  | nil => exact absurd hi (Nat.not_lt_zero i)
  | cons c s ih =>
      by_cases hc : c = 0
      · simp only [text_cons, if_pos hc, List.length_nil, Nat.not_lt_zero] at hi
      · simp only [text_cons, if_neg hc]
        cases i with
        | zero => exact ⟨rfl, hc⟩
        | succ i =>
            simp only [text_cons, if_neg hc, List.length_cons] at hi
            simp only [List.getElem_cons_succ, List.getD_cons_succ]
            exact ih (Nat.lt_of_succ_lt_succ hi)

/-- After them there is a zero. -/
theorem getD_strlen (s : List UInt8) : s.getD (strlen s) 0 = 0 := by
  unfold strlen
  induction s with
  | nil => rfl
  | cons c s ih =>
      rw [text_cons]
      by_cases hc : c = 0
      · rw [if_pos hc]
        exact hc
      · rw [if_neg hc]
        exact ih

/-- The difference of the first bytes that differ, among so many. -/
def strncmp : Nat → List UInt8 → List UInt8 → Int
  | 0, _, _ => 0
  | n + 1, s, t =>
      let c := s.headD 0
      let d := t.headD 0
      if c ≠ d then (c.toNat : Int) - d.toNat else if c = 0 then 0 else strncmp n s.tail t.tail

/-- A copy of a string into an array of so many bytes, filled up with zeros. -/
def strncpy : Nat → List UInt8 → List UInt8
  | 0, _ => []
  | n + 1, s =>
      let c := s.headD 0
      if c = 0 then List.replicate (n + 1) 0 else c :: strncpy n s.tail

theorem length_strncpy (n : Nat) (s : List UInt8) : (strncpy n s).length = n := by
  induction n generalizing s with
  | zero => rfl
  | succ n ih =>
      unfold strncpy
      simp only
      split
      · exact List.length_replicate
      · rw [List.length_cons, ih]

/-- A string by the first byte of its array, if there is one. -/
theorem text_head (s : List UInt8) :
    text s = if s.headD 0 = 0 then [] else s.headD 0 :: text s.tail := by
  cases s with
  | nil => rfl
  | cons c s => exact text_cons c s

/-- Two strings compare equal when they start with the same bytes. -/
theorem strncmp_eq_zero {n : Nat} {s t : List UInt8} :
    strncmp n s t = 0 ↔ (text s).take n = (text t).take n := by
  induction n generalizing s t with
  | zero => simp only [strncmp, List.take_zero]
  | succ n ih =>
      rw [strncmp, text_head s, text_head t]
      by_cases hhead : s.headD 0 = t.headD 0
      · rw [if_neg (not_not.mpr hhead), ← hhead]
        by_cases hzero : s.headD 0 = 0
        · simp only [if_pos hzero]
        · rw [if_neg hzero, if_neg hzero, if_neg hzero, List.take_succ_cons, List.take_succ_cons,
            List.cons.injEq, ih]
          exact ⟨fun h => ⟨rfl, h⟩, fun h => h.2⟩
      · rw [if_pos hhead]
        -- The bytes are the ones the difference is of.
        have hne : ((s.headD 0).toNat : Int) - (t.headD 0).toNat ≠ 0 := by
          intro heq
          refine hhead (UInt8.toNat_inj.mp ?_)
          omega
        refine ⟨fun h => absurd h hne, fun h => ?_⟩
        by_cases hs : s.headD 0 = 0
        · by_cases ht : t.headD 0 = 0
          · exact absurd (hs.trans ht.symm) hhead
          · rw [if_pos hs, if_neg ht, List.take_nil, List.take_succ_cons] at h
            exact absurd h.symm (List.cons_ne_nil _ _)
        · by_cases ht : t.headD 0 = 0
          · rw [if_neg hs, if_pos ht, List.take_nil, List.take_succ_cons] at h
            exact absurd h (List.cons_ne_nil _ _)
          · rw [if_neg hs, if_neg ht, List.take_succ_cons, List.take_succ_cons] at h
            exact absurd (List.cons.inj h).1 hhead

theorem text_replicate (n : Nat) : text (List.replicate n 0) = [] := by
  cases n with
  | zero => rfl
  | succ n => rw [List.replicate_succ, text_cons, if_pos rfl]

/-- A copy is the string as far as the array goes. -/
theorem text_strncpy (n : Nat) (s : List UInt8) : text (strncpy n s) = (text s).take n := by
  induction n generalizing s with
  | zero => rfl
  | succ n ih =>
      rw [strncpy, text_head s]
      by_cases hzero : s.headD 0 = 0
      · rw [if_pos hzero, if_pos hzero, text_replicate, List.take_nil]
      · rw [if_neg hzero, if_neg hzero, text_cons, if_neg hzero, ih, List.take_succ_cons]

end CString

end TimelapsePlus
