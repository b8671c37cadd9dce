import Mathlib.Tactic.LinearCombination
import Mathlib.Tactic.Linarith
import Mathlib.Tactic.Positivity
import Mathlib.Tactic.FieldSimp
import Mathlib.Tactic.Ring
import Mathlib.Algebra.Order.Field.Basic

/-!
# Cubic Segments through Four Points

A Catmull-Rom spline goes from one point to the next along a cubic, whose
direction at either end is that of the line through the two neighbours. The cubic
starts and ends where it should, but it is no combination of its two ends: between
them it can lie above both or below both.

How far it can go is read off its control polygon, the two ends and two points
between. The cubic is an average of these four, so it stays wherever they are.

A cubic that takes one value at four places is level, which is what
`catmullRom_level` says of a segment.

## Main definitions

* `chord`: The straight line between two points.
* `catmullRom`: The cubic.
* `Hull`: The control polygon lies between two bounds.

## Theorems

* `chord_sub`, `catmullRom_sub`: Moving the points moves the curve.
* `chord_level`: A straight line that is level at two places is level.
* `chord_mem`: The straight line stays between its ends.
* `catmullRom_eq_polygon`: The cubic as an average of its control polygon.
* `catmullRom_mem`: The cubic stays where its control polygon is.
* `cubic_four`: A cubic that is zero at four places is zero.
* `catmullRom_level`: A segment that is level at four places is level.
-/

namespace TimelapsePlus

namespace Spline

variable {K : Type*} [Field K]

/-- The straight line from the second point to the third. -/
def chord (p1 p2 t : K) : K := t * (p2 - p1) + p1

/-- The Catmull-Rom cubic from the second point to the third. -/
def catmullRom (p0 p1 p2 p3 t : K) : K :=
  (2 * p1 + (p2 - p0) * t + (2 * p0 - 5 * p1 + 4 * p2 - p3) * (t * t) +
    (3 * p1 - p0 - 3 * p2 + p3) * (t * t * t)) / 2

@[simp] theorem chord_zero (p1 p2 : K) : chord p1 p2 0 = p1 := by
  simp only [chord, zero_mul, zero_add]

@[simp] theorem chord_one (p1 p2 : K) : chord p1 p2 1 = p2 := by
  simp only [chord, one_mul, sub_add_cancel]

/-- A cubic that is zero at four places is zero. Each difference of two of its
    values, divided by the distance, lowers the degree by one. -/
theorem cubic_four {a b c d t₁ t₂ t₃ t₄ : K} (h12 : t₁ ≠ t₂) (h13 : t₁ ≠ t₃) (h14 : t₁ ≠ t₄)
    (h23 : t₂ ≠ t₃) (h24 : t₂ ≠ t₄) (h34 : t₃ ≠ t₄)
    (h1 : a + b * t₁ + c * t₁ ^ 2 + d * t₁ ^ 3 = 0)
    (h2 : a + b * t₂ + c * t₂ ^ 2 + d * t₂ ^ 3 = 0)
    (h3 : a + b * t₃ + c * t₃ ^ 2 + d * t₃ ^ 3 = 0)
    (h4 : a + b * t₄ + c * t₄ ^ 2 + d * t₄ ^ 3 = 0) :
    a = 0 ∧ b = 0 ∧ c = 0 ∧ d = 0 := by
  -- The differences from the first place, divided by the distance.
  have quadratic : ∀ t, t₁ ≠ t → a + b * t + c * t ^ 2 + d * t ^ 3 = 0 →
      b + c * (t₁ + t) + d * (t₁ ^ 2 + t₁ * t + t ^ 2) = 0 := by
    intro t hne ht
    refine mul_left_cancel₀ (sub_ne_zero.mpr hne) ?_
    linear_combination h1 - ht
  have q2 := quadratic t₂ h12 h2
  have q3 := quadratic t₃ h13 h3
  have q4 := quadratic t₄ h14 h4
  have linear : ∀ t, t₂ ≠ t → b + c * (t₁ + t) + d * (t₁ ^ 2 + t₁ * t + t ^ 2) = 0 →
      c + d * (t₁ + t₂ + t) = 0 := by
    intro t hne ht
    refine mul_left_cancel₀ (sub_ne_zero.mpr hne) ?_
    linear_combination q2 - ht
  have l3 := linear t₃ h23 q3
  have l4 := linear t₄ h24 q4
  have hd : d = 0 := by
    refine mul_left_cancel₀ (sub_ne_zero.mpr h34) ?_
    linear_combination l3 - l4
  have hc : c = 0 := by
    rw [hd] at l3
    linear_combination l3
  have hb : b = 0 := by
    rw [hd, hc] at q2
    linear_combination q2
  refine ⟨?_, hb, hc, hd⟩
  rw [hd, hc, hb] at h1
  linear_combination h1

/-- A straight line that takes one value at two places starts and ends at it. -/
theorem chord_level {p1 p2 v t₁ t₂ : K} (h12 : t₁ ≠ t₂) (h1 : chord p1 p2 t₁ = v)
    (h2 : chord p1 p2 t₂ = v) : p1 = v ∧ p2 = v := by
  unfold chord at h1 h2
  have hd : p2 - p1 = 0 := by
    refine mul_left_cancel₀ (sub_ne_zero.mpr h12) ?_
    linear_combination h1 - h2
  rw [hd] at h1
  constructor
  · linear_combination h1
  · linear_combination h1 + hd

/-- A straight line between points that are moved is moved with them. -/
theorem chord_sub (p1 p2 b t : K) : chord (p1 - b) (p2 - b) t = chord p1 p2 t - b := by
  unfold chord
  ring

section Characteristic

variable [NeZero (2 : K)]

/-- A cubic through points that are moved is moved with them. -/
theorem catmullRom_sub (p0 p1 p2 p3 b t : K) :
    catmullRom (p0 - b) (p1 - b) (p2 - b) (p3 - b) t = catmullRom p0 p1 p2 p3 t - b := by
  have h2 : (2 : K) ≠ 0 := two_ne_zero
  unfold catmullRom
  field_simp
  ring

@[simp] theorem catmullRom_zero (p0 p1 p2 p3 : K) : catmullRom p0 p1 p2 p3 0 = p1 := by
  have h2 : (2 : K) ≠ 0 := two_ne_zero
  unfold catmullRom
  field_simp
  ring

@[simp] theorem catmullRom_one (p0 p1 p2 p3 : K) : catmullRom p0 p1 p2 p3 1 = p2 := by
  have h2 : (2 : K) ≠ 0 := two_ne_zero
  unfold catmullRom
  field_simp
  ring

/-- A segment that takes one value at four places starts and ends at it. -/
theorem catmullRom_level {p0 p1 p2 p3 v t₁ t₂ t₃ t₄ : K} (h12 : t₁ ≠ t₂) (h13 : t₁ ≠ t₃)
    (h14 : t₁ ≠ t₄) (h23 : t₂ ≠ t₃) (h24 : t₂ ≠ t₄) (h34 : t₃ ≠ t₄)
    (h1 : catmullRom p0 p1 p2 p3 t₁ = v) (h2 : catmullRom p0 p1 p2 p3 t₂ = v)
    (h3 : catmullRom p0 p1 p2 p3 t₃ = v) (h4 : catmullRom p0 p1 p2 p3 t₄ = v) :
    p1 = v ∧ p2 = v := by
  have h0 : (2 : K) ≠ 0 := two_ne_zero
  have expand : ∀ t, catmullRom p0 p1 p2 p3 t = v →
      2 * (p1 - v) + (p2 - p0) * t + (2 * p0 - 5 * p1 + 4 * p2 - p3) * t ^ 2 +
        (3 * p1 - p0 - 3 * p2 + p3) * t ^ 3 = 0 := by
    intro t ht
    unfold catmullRom at ht
    rw [div_eq_iff h0] at ht
    linear_combination ht
  obtain ⟨ha, hb, hc, hd⟩ := cubic_four h12 h13 h14 h23 h24 h34 (expand _ h1) (expand _ h2)
    (expand _ h3) (expand _ h4)
  have hp1 : p1 = v := by
    refine mul_left_cancel₀ h0 ?_
    linear_combination ha
  refine ⟨hp1, ?_⟩
  -- The four coefficients add up to twice the value at the end.
  refine mul_left_cancel₀ h0 ?_
  linear_combination ha + hb + hc + hd

end Characteristic

section Order

variable [LinearOrder K] [IsStrictOrderedRing K]

/-- The straight line stays between its ends. -/
theorem chord_mem {p1 p2 t lo hi : K} (ht0 : 0 ≤ t) (ht1 : t ≤ 1) (h1 : lo ≤ p1 ∧ p1 ≤ hi)
    (h2 : lo ≤ p2 ∧ p2 ≤ hi) : lo ≤ chord p1 p2 t ∧ chord p1 p2 t ≤ hi := by
  unfold chord
  constructor
  · nlinarith [mul_nonneg ht0 (sub_nonneg.mpr h2.1),
      mul_nonneg (sub_nonneg.mpr ht1) (sub_nonneg.mpr h1.1)]
  · nlinarith [mul_nonneg ht0 (sub_nonneg.mpr h2.2),
      mul_nonneg (sub_nonneg.mpr ht1) (sub_nonneg.mpr h1.2)]

/-- The two ends of the segment and its two control points lie between the
    bounds. -/
structure Hull (p0 p1 p2 p3 lo hi : K) : Prop where
  start : lo ≤ p1 ∧ p1 ≤ hi
  leaving : lo ≤ p1 + (p2 - p0) / 6 ∧ p1 + (p2 - p0) / 6 ≤ hi
  arriving : lo ≤ p2 - (p3 - p1) / 6 ∧ p2 - (p3 - p1) / 6 ≤ hi
  stop : lo ≤ p2 ∧ p2 ≤ hi

/-- The cubic is an average of its control polygon. -/
theorem catmullRom_eq_polygon (p0 p1 p2 p3 t : K) :
    catmullRom p0 p1 p2 p3 t =
      (1 - t) ^ 3 * p1 + 3 * (1 - t) ^ 2 * t * (p1 + (p2 - p0) / 6) +
        3 * (1 - t) * t ^ 2 * (p2 - (p3 - p1) / 6) + t ^ 3 * p2 := by
  unfold catmullRom
  field_simp
  ring

/-- The cubic stays where its control polygon is. -/
theorem catmullRom_mem {p0 p1 p2 p3 t lo hi : K} (h : Hull p0 p1 p2 p3 lo hi) (ht0 : 0 ≤ t)
    (ht1 : t ≤ 1) : lo ≤ catmullRom p0 p1 p2 p3 t ∧ catmullRom p0 p1 p2 p3 t ≤ hi := by
  rw [catmullRom_eq_polygon]
  -- The four weights are not negative, and add up to one.
  have hs : 0 ≤ 1 - t := sub_nonneg.mpr ht1
  have w0 : 0 ≤ (1 - t) ^ 3 := by positivity
  have w1 : 0 ≤ 3 * (1 - t) ^ 2 * t := by positivity
  have w2 : 0 ≤ 3 * (1 - t) * t ^ 2 := by positivity
  have w3 : 0 ≤ t ^ 3 := by positivity
  have hsum : (1 - t) ^ 3 + 3 * (1 - t) ^ 2 * t + 3 * (1 - t) * t ^ 2 + t ^ 3 = 1 := by ring
  have below : ∀ v, (1 - t) ^ 3 * v + 3 * (1 - t) ^ 2 * t * v + 3 * (1 - t) * t ^ 2 * v +
      t ^ 3 * v = v := by
    intro v
    linear_combination v * hsum
  constructor
  · rw [← below lo]
    have m0 := mul_le_mul_of_nonneg_left h.start.1 w0
    have m1 := mul_le_mul_of_nonneg_left h.leaving.1 w1
    have m2 := mul_le_mul_of_nonneg_left h.arriving.1 w2
    have m3 := mul_le_mul_of_nonneg_left h.stop.1 w3
    linarith only [m0, m1, m2, m3]
  · rw [← below hi]
    have m0 := mul_le_mul_of_nonneg_left h.start.2 w0
    have m1 := mul_le_mul_of_nonneg_left h.leaving.2 w1
    have m2 := mul_le_mul_of_nonneg_left h.arriving.2 w2
    have m3 := mul_le_mul_of_nonneg_left h.stop.2 w3
    linarith only [m0, m1, m2, m3]

end Order

end Spline

end TimelapsePlus
