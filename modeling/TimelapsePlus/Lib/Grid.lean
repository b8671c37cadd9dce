import Mathlib.Order.Bounds.Basic
import Mathlib.Algebra.Order.Ring.Int
import Mathlib.Tactic.Linarith

/-!
# The Multiples Next to a Number

The multiples of a step are a grid on the integers, and every number has a next one above
it and a next one below. Both are found from the remainder that is never negative. C has
another: it has the sign of the number, and where a negative number is off the grid it
differs by the step.

## Main definitions

* `above`, `below`: The multiples next to a number.

## Theorems

* `above_isLeast`, `below_isGreatest`: They are what they are called.
* `tmod_eq`, `tmod_eq_sub`: The remainder of C.
-/

namespace TimelapsePlus

namespace Grid

variable {s : Int}

/-- The next multiple strictly above. -/
def above (s v : Int) : Int := v - v % s + s

/-- The next multiple strictly below. -/
def below (s v : Int) : Int := if v % s = 0 then v - s else v - v % s

/-- A multiple is the quotient away from another. -/
theorem mul_ediv_eq (s v : Int) : s * (v / s) = v - v % s := by
  have hsplit := Int.emod_add_mul_ediv v s
  omega

/-- The next multiple above is the least there is. -/
theorem above_isLeast (hs : 0 < s) (v : Int) : IsLeast {t | s ∣ t ∧ v < t} (above s v) := by
  have hlt := Int.emod_lt_of_pos v hs
  have hquotient := mul_ediv_eq s v
  unfold above
  refine ⟨⟨⟨v / s + 1, ?_⟩, by omega⟩, ?_⟩
  · rw [mul_add, hquotient, mul_one]
  · rintro t ⟨⟨k, rfl⟩, ht⟩
    have hnonneg := Int.emod_nonneg v (by omega : s ≠ 0)
    -- The multiple is of more than the quotient.
    have hless : v / s < k := lt_of_mul_lt_mul_left (by omega : s * (v / s) < s * k) hs.le
    have hle := mul_le_mul_of_nonneg_left (Int.add_one_le_of_lt hless) hs.le
    rw [mul_add, hquotient, mul_one] at hle
    exact hle

/-- The next multiple below is the greatest there is. -/
theorem below_isGreatest (hs : 0 < s) (v : Int) :
    IsGreatest {t | s ∣ t ∧ t < v} (below s v) := by
  have hlt := Int.emod_lt_of_pos v hs
  have hnonneg := Int.emod_nonneg v (by omega : s ≠ 0)
  have hquotient := mul_ediv_eq s v
  unfold below
  by_cases hzero : v % s = 0
  · rw [if_pos hzero]
    refine ⟨⟨⟨v / s - 1, ?_⟩, by omega⟩, ?_⟩
    · rw [mul_sub, hquotient, mul_one, hzero, sub_zero]
    · rintro t ⟨⟨k, rfl⟩, ht⟩
      have hless : k < v / s := lt_of_mul_lt_mul_left (by omega : s * k < s * (v / s)) hs.le
      have hle := mul_le_mul_of_nonneg_left (Int.add_one_le_of_lt hless) hs.le
      rw [mul_add, hquotient, mul_one] at hle
      omega
  · rw [if_neg hzero]
    refine ⟨⟨⟨v / s, hquotient.symm⟩, by omega⟩, ?_⟩
    rintro t ⟨⟨k, rfl⟩, ht⟩
    have hless : k < v / s + 1 := by
      refine lt_of_mul_lt_mul_left (?_ : s * k < s * (v / s + 1)) hs.le
      rw [mul_add, hquotient, mul_one]
      omega
    have hle := mul_le_mul_of_nonneg_left (Int.le_of_lt_add_one hless) hs.le
    omega

/-- A number that is not negative, or is on the grid, has one remainder. -/
theorem tmod_eq {v : Int} (h : 0 ≤ v ∨ s ∣ v) : Int.tmod v s = v % s := by
  rw [Int.tmod_eq_emod, if_pos h]
  exact sub_zero _

/-- Where it is negative and off the grid C has another. -/
theorem tmod_eq_sub (hs : 0 < s) {v : Int} (h : ¬ (0 ≤ v ∨ s ∣ v)) :
    Int.tmod v s = v % s - s := by
  rw [Int.tmod_eq_emod, if_neg h, Int.natAbs_of_nonneg hs.le]

end Grid

end TimelapsePlus
