import Mathlib.Algebra.Order.Ring.Int
import Mathlib.Data.Nat.Cast.Order.Ring
import Mathlib.Tactic.Linarith
import Mathlib.Tactic.Ring
import Mathlib.Tactic.Zify

/-!
# Catching Up

A clock of its own follows another one in steps, and each step may leave it some way behind.
It is corrected by a part of what it is behind, one in so many, and the correction is kept
and not made smaller until nothing is left. Then it ends.

If no step is longer than it should be by more than a bound, the clock is never behind by
more than so many times the bound, and one more, whatever the steps are and however many.
The correction is no more than the bound, and one more, and so is what it makes the clock
run ahead. If the steps are no longer late then what is left is made up.

## Main definitions

* `Catchup.State`: What the clock is behind, and the correction.
* `Catchup.step`: A step that is late by some time.
* `Catchup.Bounded`: What holds of a state.

## Theorems

* `step_bounded`: A step keeps the bound.
* `ahead_lt`: What the correction makes the clock run ahead.
* `lag_le`: How many corrections what is left comes to.
* `made_up`: What is left is made up.
-/

namespace TimelapsePlus

namespace Catchup

/-- What the clock is behind after it has been corrected, and the correction. -/
@[ext]
structure State where
  lag : ℤ
  correction : ℕ

/-- The correction for what the clock is behind. -/
def correct (n correction : ℕ) (error : ℤ) : ℕ :=
  if 0 < error then max correction (error.toNat / n) else 0

/-- A step that is late by some time, or early. -/
def step (n : ℕ) (s : State) (late : ℤ) : State where
  lag := s.lag + late - correct n s.correction (s.lag + late)
  correction := correct n s.correction (s.lag + late)

/-- What the clock was behind before it was corrected. -/
def State.error (s : State) : ℤ := s.lag + s.correction

/-- The bound for steps that are late by no more than `d`. -/
structure Bounded (n d : ℕ) (s : State) : Prop where
  correction : s.correction ≤ d + 1
  error : s.error ≤ n * (d + 1)
  share : 0 < s.error → s.error < n * (s.correction + 1)
  pending : 0 < s.correction → 0 < s.error

variable {n d : ℕ} {s : State} {late : ℤ}

theorem correct_of_pos (n correction : ℕ) {error : ℤ} (h : 0 < error) :
    correct n correction error = max correction (error.toNat / n) := if_pos h

theorem correct_of_not_pos (n correction : ℕ) {error : ℤ} (h : ¬ 0 < error) :
    correct n correction error = 0 := if_neg h

theorem step_correction (n : ℕ) (s : State) (late : ℤ) :
    (step n s late).correction = correct n s.correction (s.lag + late) := rfl

theorem step_error (n : ℕ) (s : State) (late : ℤ) : (step n s late).error = s.lag + late :=
  Int.sub_add_cancel _ _

theorem State.lag_eq (s : State) : s.lag = s.error - s.correction :=
  (Int.add_sub_cancel _ _).symm

/-- The correction is a share of what there is to correct. -/
theorem error_lt_correct (hn : 0 < n) (correction : ℕ) {error : ℤ} (h : 0 < error) :
    error < n * (correct n correction error + 1) := by
  have hval : (error.toNat : ℤ) = error := Int.toNat_of_nonneg h.le
  have hshare : error.toNat < n * (error.toNat / n + 1) := by
    rw [Nat.mul_add, Nat.mul_one]
    exact Nat.lt_mul_div_succ _ hn
  have hmax : error.toNat / n + 1 ≤ correct n correction error + 1 := by
    rw [correct_of_pos n correction h]
    exact Nat.succ_le_succ (Nat.le_max_right _ _)
  have hlt : error.toNat < n * (correct n correction error + 1) :=
    hshare.trans_le (Nat.mul_le_mul_left n hmax)
  calc error = (error.toNat : ℤ) := hval.symm
    _ < n * (correct n correction error + 1) := by exact_mod_cast hlt

/-- What is behind before a step is corrected is within the bound. -/
theorem error_le (hn : 0 < n) (h : Bounded n d s) (hlate : late ≤ d) :
    s.lag + late ≤ n * (d + 1) := by
  have hpos : (1 : ℤ) ≤ n := by exact_mod_cast hn
  have hlag := s.lag_eq
  have hcorrection : (s.correction : ℤ) ≤ d + 1 := by exact_mod_cast h.correction
  have hbound := h.error
  by_cases herror : 0 < s.error
  · have hshare := h.share herror
    by_cases hsmall : s.correction ≤ d
    · -- There is less to correct than the correction asks for at the bound.
      have hle : (s.correction : ℤ) ≤ d := by exact_mod_cast hsmall
      have hprod : ((n : ℤ) - 1) * s.correction ≤ (n - 1) * d :=
        mul_le_mul_of_nonneg_left hle (by omega)
      linarith
    · -- The correction is at its bound, and takes away more than the step adds.
      have heq : (s.correction : ℤ) = d + 1 := by omega
      omega
  · have hprod : (1 : ℤ) * (d + 1) ≤ n * (d + 1) :=
      mul_le_mul_of_nonneg_right hpos (by omega)
    omega

/-- A step keeps the bound. -/
theorem step_bounded (hn : 0 < n) (h : Bounded n d s) (hlate : late ≤ d) :
    Bounded n d (step n s late) where
  correction := by
    have hle := error_le hn h hlate
    rw [step_correction]
    by_cases herror : 0 < s.lag + late
    · rw [correct_of_pos _ _ herror]
      refine Nat.max_le.mpr ⟨h.correction, Nat.div_le_of_le_mul ?_⟩
      rw [Int.toNat_le]
      exact_mod_cast hle
    · rw [correct_of_not_pos _ _ herror]
      exact Nat.zero_le _
  error := by
    rw [step_error]
    exact error_le hn h hlate
  share := by
    rw [step_error]
    exact error_lt_correct hn s.correction
  pending := by
    intro hcorrection
    rw [step_error]
    by_contra hnot
    rw [step_correction, correct_of_not_pos _ _ hnot] at hcorrection
    exact absurd hcorrection (Nat.lt_irrefl 0)

/-- A correction makes the clock run ahead by less than itself. -/
theorem ahead_lt (h : Bounded n d s) (hcorrection : 0 < s.correction) : -(d + 1 : ℤ) < s.lag := by
  have herror : s.lag + s.correction = s.error := rfl
  have hpos := h.pending hcorrection
  have hsmall := h.correction
  omega

/-- What is left is less than twice so many corrections. -/
theorem lag_le (h : Bounded n d s) (hn : 0 < n) (hcorrection : 0 < s.correction) :
    s.lag ≤ (2 * (n - 1) : ℕ) * s.correction := by
  have herror : s.lag + s.correction = s.error := rfl
  have hprod : (n - 1 : ℕ) * 1 ≤ (n - 1) * s.correction := Nat.mul_le_mul_left _ hcorrection
  have hpos := h.pending hcorrection
  have hshare := h.share hpos
  have hnat : s.error.toNat < n * (s.correction + 1) := by
    zify
    rw [Int.toNat_of_nonneg hpos.le]
    exact hshare
  have hsum : n * (s.correction + 1) = (n - 1) * s.correction + s.correction + (n - 1) + 1 := by
    have hsucc : n = n - 1 + 1 := by omega
    rw [hsucc, Nat.add_sub_cancel]
    ring
  have hdouble : 2 * (n - 1) * s.correction = (n - 1) * s.correction + (n - 1) * s.correction := by
    ring
  have hbound : s.lag ≤ ((2 * (n - 1) * s.correction : ℕ) : ℤ) := by omega
  rw [Nat.cast_mul] at hbound
  exact hbound

/-- A correction stays for as long as there is something to correct. -/
theorem correction_le (h : 0 < s.lag + late) : s.correction ≤ (step n s late).correction := by
  rw [step_correction, correct_of_pos _ _ h]
  exact Nat.le_max_left _ _

/-- Nothing is left to correct. -/
theorem step_done (h : s.lag + late ≤ 0) :
    (step n s late).correction = 0 ∧ (step n s late).lag ≤ 0 := by
  have hnone := correct_of_not_pos n s.correction (Int.not_lt.mpr h)
  refine ⟨hnone, ?_⟩
  show s.lag + late - correct n s.correction (s.lag + late) ≤ 0
  rw [hnone]
  omega

/-- If the steps are not late then a clock that is being corrected comes to have nothing
    left, one step after the corrections add up to it. -/
theorem made_up {lates : List ℤ} (hlates : ∀ late ∈ lates, late ≤ 0) {k : ℕ}
    (hk : s.lag ≤ k * s.correction) (hlen : k < lates.length) :
    ∃ j ≤ k + 1, ((lates.take j).foldl (step n) s).correction = 0 ∧
      ((lates.take j).foldl (step n) s).lag ≤ 0 := by
  induction k generalizing s lates with
  | zero =>
      cases lates with
      | nil => exact absurd hlen (Nat.not_lt_zero 0)
      | cons late lates =>
          have hnow : late ≤ 0 := hlates late List.mem_cons_self
          exact ⟨1, Nat.le_refl 1, step_done (by omega)⟩
  | succ k ih =>
      cases lates with
      | nil => exact absurd hlen (Nat.not_lt_zero _)
      | cons late lates =>
          have hnow : late ≤ 0 := hlates late List.mem_cons_self
          by_cases herror : 0 < s.lag + late
          · -- The correction is no smaller, and has been made once more.
            have hnext : (step n s late).lag ≤ k * (step n s late).correction := by
              have hlag : (step n s late).lag =
                  s.lag + late - (step n s late).correction := rfl
              have hle : (s.correction : ℤ) ≤ (step n s late).correction := by
                exact_mod_cast correction_le herror
              have hprod := mul_le_mul_of_nonneg_left hle (Int.natCast_nonneg (k + 1))
              rw [Nat.cast_add, Nat.cast_one] at hk hprod
              linarith
            rcases ih (fun l hl => hlates l (List.mem_cons_of_mem late hl)) hnext
              (Nat.lt_of_succ_lt_succ hlen) with ⟨j, hj, hdone⟩
            exact ⟨j + 1, Nat.succ_le_succ hj, hdone⟩
          · exact ⟨1, Nat.succ_le_succ (Nat.zero_le _), step_done (not_lt.mp herror)⟩

end Catchup

end TimelapsePlus
