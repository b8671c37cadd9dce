import Mathlib.Data.Set.Basic
import Mathlib.Tactic.Linarith

/-!
# The Nearest of Some Marks

Marks on a line, and a target between two of them. A mark may be favoured, which
halves its distance: a reader that has settled on a mark stays with it until
another is twice as near. The distances are doubled for all but the favoured
marks, so that they are whole numbers.

The mark above the target is the nearest as soon as it is nearer than the one
below, provided the marks farther off are far enough even when they are favoured.
A mark beyond the one above is not the nearest unless it is very close to it.

## Main definitions

* `weight`: The distance, doubled unless the mark is favoured.
* `IsNearest`: No mark has a smaller one.

## Theorems

* `upper_isNearest_iff`: When the mark above the target is the nearest.
* `weight_le_abs_of_room`: When the marks farther off are far enough.
* `not_isNearest_beyond`: The mark after it is not.
-/

namespace TimelapsePlus

namespace Nearest

variable {ι : Type*} (pos : ι → ℤ) (favoured : ι → Prop) [DecidablePred favoured]

/-- The distance of a mark from a target, doubled unless the mark is favoured. -/
def weight (t : ℤ) (e : ι) : ℤ :=
  if favoured e then |pos e - t| else 2 * |pos e - t|

/-- A mark with the smallest weight. -/
def IsNearest (marks : Set ι) (t : ℤ) (e : ι) : Prop :=
  e ∈ marks ∧ ∀ e' ∈ marks, weight pos favoured t e ≤ weight pos favoured t e'

variable {pos favoured} {marks : Set ι} {t : ℤ} {a b c e : ι}

theorem abs_le_weight : |pos e - t| ≤ weight pos favoured t e := by
  have hpos := abs_nonneg (pos e - t)
  unfold weight
  split <;> omega

theorem weight_le : weight pos favoured t e ≤ 2 * |pos e - t| := by
  have hpos := abs_nonneg (pos e - t)
  unfold weight
  split <;> omega

/-- The distance of a mark above the target. -/
theorem abs_above (h : t ≤ pos e) : |pos e - t| = pos e - t :=
  abs_of_nonneg (by omega)

/-- The distance of a mark below it. -/
theorem abs_below (h : pos e ≤ t) : |pos e - t| = t - pos e := by
  rw [abs_of_nonpos (by omega)]
  omega

/-- The mark above the target is the nearest if it is nearer than the one below,
    and nearer than the others even where these are favoured. -/
theorem upper_isNearest_iff (ha : a ∈ marks) (hb : b ∈ marks)
    (hfar : weight pos favoured t b ≤ weight pos favoured t a → ∀ e ∈ marks, e ≠ a → e ≠ b →
      weight pos favoured t b ≤ |pos e - t|) :
    IsNearest pos favoured marks t b ↔ weight pos favoured t b ≤ weight pos favoured t a := by
  refine ⟨fun h => h.2 a ha, fun h => ⟨hb, fun e he => ?_⟩⟩
  by_cases hea : e = a
  · rw [hea]
    exact h
  · by_cases heb : e = b
    · rw [heb]
    · exact (hfar h e he hea heb).trans abs_le_weight

/-- A mark is farther off, even if it is favoured, when the two next to the target
    are close to each other compared with what is between it and them. -/
theorem weight_le_abs_of_room (hat : pos a ≤ t) (htb : t ≤ pos b)
    (hnear : weight pos favoured t b ≤ weight pos favoured t a)
    (hroom : pos e ≤ pos a ∧ pos b + 2 * pos e ≤ 3 * pos a ∨
      pos b ≤ pos e ∧ 3 * pos b ≤ 2 * pos e + pos a) :
    weight pos favoured t b ≤ |pos e - t| := by
  have hwa := hnear.trans weight_le
  rw [abs_below hat] at hwa
  have hwb : weight pos favoured t b = pos b - t ∨
      weight pos favoured t b = 2 * (pos b - t) ∧ 2 * (pos b - t) ≤ 2 * (t - pos a) := by
    unfold weight at hwa ⊢
    rw [abs_above htb] at hwa ⊢
    split
    · exact Or.inl rfl
    · rename_i hplain
      rw [if_neg hplain] at hwa
      exact Or.inr ⟨rfl, hwa⟩
  rcases hroom with ⟨hea, hroom⟩ | ⟨hbe, hroom⟩
  · rw [abs_below (hea.trans hat)]
    omega
  · rw [abs_above (htb.trans hbe)]
    omega

/-- With the mark above the target much nearer to the one below than the mark
    after it is to both, the mark after it is not the nearest. -/
theorem not_isNearest_beyond (ha : a ∈ marks) (hb : b ∈ marks) (hat : pos a ≤ t)
    (htb : t ≤ pos b) (hbc : pos b ≤ pos c) (hroom : 3 * pos b < 2 * pos c + pos a) :
    ¬ IsNearest pos favoured marks t c := by
  intro h
  have hca := (abs_le_weight.trans (h.2 a ha)).trans weight_le
  have hcb := (abs_le_weight.trans (h.2 b hb)).trans weight_le
  rw [abs_above (htb.trans hbc)] at hca hcb
  rw [abs_below hat] at hca
  rw [abs_above htb] at hcb
  omega

end Nearest

end TimelapsePlus
