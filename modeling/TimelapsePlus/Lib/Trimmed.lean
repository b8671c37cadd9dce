import Mathlib.Algebra.Order.BigOperators.Group.List
import Mathlib.Algebra.Order.Field.Rat
import Mathlib.Algebra.Order.Floor.Ring
import Mathlib.Data.Rat.Floor
import Mathlib.Tactic.Linarith
import Mathlib.Tactic.FieldSimp

/-!
# Trimmed Means

When `k` elements are taken off at either end of a sorted list, what is left lies
between any two bounds that all but `k` of the elements keep. An element below the
lower bound has only such elements ahead of it, so if it is not among the first `k`
there are more than `k` of them, and the same holds from the other end.

The mean of what is left then lies between the bounds as well, and it still does
when it is rounded, as long as the bounds are numbers that rounding leaves alone.

## Main definitions

* `outside`: How many elements are not between two bounds.
* `Rounding`: A rounding that keeps the order, and the integers of so many bits.
* `trunc`: A number without its fraction.

## Theorems

* `le_getElem`, `getElem_le`: The elements of a sorted list past its outliers.
* `mem_trimmed`: What is left of a list lies between the bounds.
* `le_mean`, `mean_le`: So does its mean.
* `le_trunc`, `trunc_le`: And the mean without its fraction.
-/

namespace TimelapsePlus

namespace Trimmed

section Order

variable {α : Type} [LT α] [DecidableLT α]

/-- How many elements are not between two bounds. -/
def outside (lo hi : α) (a : List α) : Nat := a.countP fun x => decide (x < lo) || decide (hi < x)

theorem countP_lt_le (lo hi : α) (a : List α) :
    a.countP (fun x => decide (x < lo)) ≤ outside lo hi a := by
  refine List.countP_mono_left fun x _ hx => ?_
  rw [Bool.or_eq_true]
  exact Or.inl hx

theorem countP_gt_le (lo hi : α) (a : List α) :
    a.countP (fun x => decide (hi < x)) ≤ outside lo hi a := by
  refine List.countP_mono_left fun x _ hx => ?_
  rw [Bool.or_eq_true]
  exact Or.inr hx

variable [LE α] [Std.IsLinearOrder α] [Std.LawfulOrderLT α]

/-- An element that has as many ahead of it as there are below a bound is not below it. -/
theorem le_getElem {lo : α} {a : List α} (hsorted : a.Pairwise (· ≤ ·)) {i : Nat}
    (hi : i < a.length) (hcount : a.countP (fun x => decide (x < lo)) ≤ i) : lo ≤ a[i] := by
  refine Std.not_lt.mp fun hlow => ?_
  -- All up to this one are below the bound, and that is one too many.
  have hall : (a.take (i + 1)).countP (fun x => decide (x < lo)) = i + 1 := by
    have hlen : (a.take (i + 1)).length = i + 1 := List.length_take_of_le (by omega)
    refine (List.countP_eq_length.mpr fun x hx => ?_).trans hlen
    rcases List.mem_take_iff_getElem.mp hx with ⟨j, hj, rfl⟩
    rw [decide_eq_true_eq]
    by_cases hji : j = i
    · simp only [hji]
      exact hlow
    · exact Std.lt_of_le_of_lt (List.pairwise_iff_getElem.mp hsorted j i (by omega) hi (by omega))
        hlow
  have hsplit : a.countP (fun x => decide (x < lo)) =
      (a.take (i + 1)).countP (fun x => decide (x < lo)) +
        (a.drop (i + 1)).countP (fun x => decide (x < lo)) := by
    rw [← List.countP_append, List.take_append_drop]
  omega

/-- The same from the other end. -/
theorem getElem_le {hi : α} {a : List α} (hsorted : a.Pairwise (· ≤ ·)) {i : Nat}
    (hlt : i < a.length) (hcount : a.countP (fun x => decide (hi < x)) < a.length - i) :
    a[i] ≤ hi := by
  refine Std.not_lt.mp fun hhigh => ?_
  have hall : (a.drop i).countP (fun x => decide (hi < x)) = a.length - i := by
    rw [← List.length_drop]
    refine List.countP_eq_length.mpr fun x hx => ?_
    rcases List.mem_drop_iff_getElem.mp hx with ⟨j, hj, rfl⟩
    rw [decide_eq_true_eq]
    by_cases hzero : j = 0
    · simp only [hzero, Nat.add_zero]
      exact hhigh
    · exact Std.lt_of_lt_of_le hhigh
        (List.pairwise_iff_getElem.mp hsorted i (i + j) hlt (by omega) (by omega))
  have hsplit : a.countP (fun x => decide (hi < x)) =
      (a.take i).countP (fun x => decide (hi < x)) +
        (a.drop i).countP (fun x => decide (hi < x)) := by
    rw [← List.countP_append, List.take_append_drop]
  omega

/-- An element of a sorted list with as many on either side of it as there are outliers is
    none. -/
theorem getElem_mem {lo hi : α} {a : List α} (hsorted : a.Pairwise (· ≤ ·)) {k i : Nat}
    (hout : outside lo hi a ≤ k) (hlow : k ≤ i) (hhigh : i + k < a.length) :
    lo ≤ a[i] ∧ a[i] ≤ hi := by
  have hlt := countP_lt_le lo hi a
  have hgt := countP_gt_le lo hi a
  exact ⟨le_getElem hsorted (by omega) (by omega), getElem_le hsorted (by omega) (by omega)⟩

/-- When as many elements as there are outliers are taken off at either end of a sorted
    list, none is left. -/
theorem mem_trimmed {lo hi : α} {a : List α} (hsorted : a.Pairwise (· ≤ ·)) {k : Nat}
    (hout : outside lo hi a ≤ k) {x : α} (hx : x ∈ (a.drop k).take (a.length - 2 * k)) :
    lo ≤ x ∧ x ≤ hi := by
  rcases List.mem_take_iff_getElem.mp hx with ⟨j, hj, rfl⟩
  rw [List.length_drop] at hj
  rw [List.getElem_drop]
  exact getElem_mem hsorted hout (by omega) (by omega)

end Order

section Mean

variable {lo hi : ℚ} {a : List ℚ}

/-- The mean of numbers not below a bound is not below it. -/
theorem le_mean (ha : a ≠ []) (h : ∀ x ∈ a, lo ≤ x) : lo ≤ a.sum / a.length := by
  have hpos : (0 : ℚ) < a.length := by exact_mod_cast List.length_pos_iff.mpr ha
  have hsum := List.card_nsmul_le_sum a lo h
  rw [le_div_iff₀ hpos]
  rw [nsmul_eq_mul] at hsum
  linarith

theorem mean_le (ha : a ≠ []) (h : ∀ x ∈ a, x ≤ hi) : a.sum / a.length ≤ hi := by
  have hpos : (0 : ℚ) < a.length := by exact_mod_cast List.length_pos_iff.mpr ha
  have hsum := List.sum_le_card_nsmul a hi h
  rw [div_le_iff₀ hpos]
  rw [nsmul_eq_mul] at hsum
  linarith

end Mean

/-- A rounding of numbers to a format with so many bits for their digits: it keeps the
    order, and leaves the integers alone that have no more bits. -/
structure Rounding (bits : Nat) where
  round : ℚ → ℚ
  mono : Monotone round
  int : ∀ z : ℤ, |z| ≤ 2 ^ bits → round z = z

/-- No rounding at all. -/
def Rounding.exact (bits : Nat) : Rounding bits where
  round := id
  mono := monotone_id
  int := fun _ _ => rfl

/-- A number without its fraction. -/
def trunc (x : ℚ) : ℤ := if 0 ≤ x then ⌊x⌋ else ⌈x⌉

theorem le_trunc {z : ℤ} {x : ℚ} (h : (z : ℚ) ≤ x) : z ≤ trunc x := by
  unfold trunc
  split
  · exact Int.le_floor.mpr h
  · have hceil : (z : ℚ) ≤ ⌈x⌉ := h.trans (Int.le_ceil x)
    exact_mod_cast hceil

theorem trunc_le {z : ℤ} {x : ℚ} (h : x ≤ z) : trunc x ≤ z := by
  unfold trunc
  split
  · have hfloor : (⌊x⌋ : ℚ) ≤ z := (Int.floor_le x).trans h
    exact_mod_cast hfloor
  · exact Int.ceil_le.mpr h

end Trimmed

end TimelapsePlus
