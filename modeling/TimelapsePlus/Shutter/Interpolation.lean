import TimelapsePlus.Shutter.Keyframes

/-!
# What the Interpolation Keeps

`interpolateKeyframe` looks for the first keyframe, the very first apart, that is
not before the time asked for. Strictly between the times of two neighbours that is
the later of the two, and the value is drawn from the earlier to it. At the time of a
keyframe it is the first that has this time, and the curve has come to its value
there; keyframes that share a time with it are passed over. The very first keyframe is
never found, but the stretch that leaves it starts at its value.

A stretch is divided by its length. It is empty only where the second keyframe is at
time zero with the first and that time is asked for. No other division can fail, and
where none does the interpolation does what one expects of it.

## Main definitions

* `KeyframeGroup.Faithful`: What one expects of the interpolation at a time.

## Theorems

* `Edited.next_between`: The keyframe found between two neighbours.
* `Edited.interpolate_at`: The value at the time of a keyframe.
* `Edited.at_or_between`: A time between two neighbours.
* `Edited.fraction_mem`: The fraction of a stretch.
* `faithful_iff`: The interpolation is faithful except where it divides by zero.
* `doubleStart_undefined`: Two keyframes at the start.
-/

namespace TimelapsePlus

namespace Shutter

open Word Spline

namespace KeyframeGroup

variable {kf : KeyframeGroup} {ms : Nat}

/-- What one expects of the interpolation at a time: no division by zero, at a
    keyframe's time the value of a keyframe with that time, from the last time on the
    last value, between two neighbours of one value that value, and on a straight line
    a value between theirs. At a neighbour's own time this is asked only where no
    other keyframe shares it. -/
structure Faithful (kf : KeyframeGroup) (linearInterpolation : Bool) (ms : Nat) : Prop where
  defined : ∃ v, kf.interpolateKeyframe ms linearInterpolation = some v
  atKeyframe : ∀ i, i < kf.count → (kf.keyframes i).ms = ms →
    ∃ j, j < kf.count ∧ (kf.keyframes j).ms = ms ∧
      kf.interpolateKeyframe ms linearInterpolation = some ((kf.keyframes j).value : ℚ)
  afterLast : kf.last.ms ≤ ms →
    kf.interpolateKeyframe ms linearInterpolation = some (kf.last.value : ℚ)
  level : ∀ i, i + 1 < kf.count → (kf.keyframes i).ms ≤ ms → ms ≤ (kf.keyframes (i + 1)).ms →
    (kf.keyframes i).value = (kf.keyframes (i + 1)).value →
    (∀ j, j < kf.count → (kf.keyframes j).ms = ms →
      (kf.keyframes j).value = (kf.keyframes i).value) →
    kf.interpolateKeyframe ms linearInterpolation = some ((kf.keyframes i).value : ℚ)
  between : linearInterpolation = true → ∀ i, i + 1 < kf.count → (kf.keyframes i).ms ≤ ms →
    ms ≤ (kf.keyframes (i + 1)).ms →
    (∀ j, j < kf.count → (kf.keyframes j).ms = ms → j = i ∨ j = i + 1) →
    ∃ v, kf.interpolateKeyframe ms linearInterpolation = some v ∧
      (min (kf.keyframes i).value (kf.keyframes (i + 1)).value : ℚ) ≤ v ∧
      v ≤ (max (kf.keyframes i).value (kf.keyframes (i + 1)).value : ℚ)

/-- Between two neighbours the later of them is found. -/
theorem Edited.next_between (he : kf.Edited) {i : Nat} (hi : i + 1 < kf.count)
    (hlo : (kf.keyframes i).ms < ms) (hhi : ms ≤ (kf.keyframes (i + 1)).ms) :
    kf.next ms = some (i + 1) := by
  rw [next_eq_some]
  refine ⟨Nat.succ_pos i, hi, hhi, fun j _ hj => ?_⟩
  have := he.mono (show j ≤ i by omega) (by omega)
  omega

/-- Between two neighbours the time is before the last keyframe's. -/
theorem Edited.before_last (he : kf.Edited) {i : Nat} (hi : i + 1 < kf.count)
    (hhi : ms < (kf.keyframes (i + 1)).ms) : ¬ kf.last.ms ≤ ms := by
  have := he.mono (show i + 1 ≤ kf.count - 1 by omega) (by omega)
  rw [last]
  omega

/-- The fraction of the stretch that is drawn lies between zero and one. -/
theorem Edited.fraction_mem (he : kf.Edited) {k : Nat} (hk : kf.next ms = some k)
    (hspan : kf.span k ≠ 0) :
    0 ≤ (kf.gone ms k / kf.span k : ℚ) ∧ (kf.gone ms k / kf.span k : ℚ) ≤ 1 := by
  rcases he.stretch hk with ⟨hbefore, hgone, hlength⟩
  have hms := ((kf.next_eq_some ms k).mp hk).2.2.1
  have hle : (kf.gone ms k : ℚ) ≤ kf.span k := by
    have : kf.gone ms k ≤ kf.span k := by omega
    exact_mod_cast this
  have hpos : (0 : ℚ) < kf.span k := by
    have : 0 < kf.span k := by omega
    exact_mod_cast this
  exact ⟨by positivity, (div_le_one hpos).mpr hle⟩

/-- A stretch that is drawn has a length, except at the start. -/
theorem Edited.span_ne_zero (he : kf.Edited) {k : Nat} (hk : kf.next ms = some k)
    (hlast : ¬ kf.last.ms ≤ ms)
    (hstart : ¬ (ms = 0 ∧ (kf.keyframes 1).ms = 0 ∧ 0 < kf.last.ms)) : kf.span k ≠ 0 := by
  intro hzero
  rcases (he.span_eq_zero hk).mp hzero with ⟨hms, hone⟩
  exact hstart ⟨hms, hone, by omega⟩

/-- The value strictly between two neighbours. -/
theorem Edited.interpolate_between (he : kf.Edited) {i : Nat} (hi : i + 1 < kf.count)
    (hlo : (kf.keyframes i).ms < ms) (hhi : ms < (kf.keyframes (i + 1)).ms) (linear : Bool) :
    kf.span (i + 1) ≠ 0 ∧ kf.interpolateKeyframe ms linear =
      some (kf.along linear (i + 1) (kf.gone ms (i + 1) / kf.span (i + 1))) := by
  have hk := he.next_between hi hlo hhi.le
  have hspan : kf.span (i + 1) ≠ 0 := by
    rw [(he.stretch hk).2.2, Nat.add_sub_cancel]
    omega
  refine ⟨hspan, ?_⟩
  rw [interpolateKeyframe, if_neg (he.before_last hi hhi), reading, hk]
  exact if_neg hspan

/-- At the time of a keyframe the value is that of a keyframe with this time. -/
theorem Edited.interpolate_at (he : kf.Edited) {i : Nat} (hi : i < kf.count)
    (hms : (kf.keyframes i).ms = ms) (linear : Bool)
    (hstart : ¬ (ms = 0 ∧ (kf.keyframes 1).ms = 0 ∧ 0 < kf.last.ms)) :
    ∃ j, j < kf.count ∧ (kf.keyframes j).ms = ms ∧
      kf.interpolateKeyframe ms linear = some ((kf.keyframes j).value : ℚ) := by
  have htwo := he.two
  have hend := he.mono (show i ≤ kf.count - 1 by omega) (by omega)
  by_cases hlast : kf.last.ms ≤ ms
  · refine ⟨kf.count - 1, by omega, ?_, if_pos hlast⟩
    rw [last] at hlast
    omega
  · rcases next_isSome htwo (show ms ≤ kf.last.ms by omega) with ⟨k, hk⟩
    rcases (kf.next_eq_some ms k).mp hk with ⟨hpos, hlt, hle, hfirst⟩
    have hspan := he.span_ne_zero hk hlast hstart
    have hread : kf.interpolateKeyframe ms linear = kf.reading ms linear := if_neg hlast
    by_cases hzero : i = 0
    · -- The curve that leaves the very first keyframe starts at its value.
      rw [hzero, he.first] at hms
      have hone : k = 1 := by
        by_contra hne
        have := hfirst 1 Nat.one_pos (by omega)
        omega
      rw [hone] at hk hspan
      refine ⟨0, by omega, by rw [he.first, hms], ?_⟩
      have hgone : kf.gone ms 1 = 0 := by
        rw [(he.stretch hk).2.1, Nat.sub_self, he.first, ← hms]
      simp only [hread, reading, hk, if_neg hspan, hgone, Nat.cast_zero, zero_div, along,
        if_pos Nat.one_pos, Nat.sub_self, curve_zero]
    · -- The keyframe found is the first with this time.
      have hki : k ≤ i := by
        by_contra hlater
        have := hfirst i (by omega) (by omega)
        omega
      have hkms : (kf.keyframes k).ms = ms := by
        have := he.mono hki hi
        omega
      exact ⟨k, hlt, hkms, by rw [hread, he.reading_at hk hkms hspan linear]⟩

/-- There is a value. -/
theorem Edited.interpolate_isSome (he : kf.Edited) (linear : Bool)
    (hstart : ¬ (ms = 0 ∧ (kf.keyframes 1).ms = 0 ∧ 0 < kf.last.ms)) :
    ∃ v, kf.interpolateKeyframe ms linear = some v := by
  by_cases hlast : kf.last.ms ≤ ms
  · exact ⟨_, if_pos hlast⟩
  · rcases next_isSome he.two (show ms ≤ kf.last.ms by omega) with ⟨k, hk⟩
    refine ⟨kf.along linear k (kf.gone ms k / kf.span k), ?_⟩
    rw [interpolateKeyframe, if_neg hlast, reading, hk]
    exact if_neg (he.span_ne_zero hk hlast hstart)

/-- From one neighbour to the next a time is that of a keyframe, or strictly between the
    two. -/
theorem Edited.at_or_between (he : kf.Edited) {i : Nat} (hi : i + 1 < kf.count)
    (hlo : (kf.keyframes i).ms ≤ ms) (hhi : ms ≤ (kf.keyframes (i + 1)).ms) (linear : Bool)
    (hstart : ¬ (ms = 0 ∧ (kf.keyframes 1).ms = 0 ∧ 0 < kf.last.ms)) :
    (∃ j, j < kf.count ∧ (kf.keyframes j).ms = ms ∧
      kf.interpolateKeyframe ms linear = some ((kf.keyframes j).value : ℚ)) ∨
    (kf.keyframes i).ms < ms ∧ ms < (kf.keyframes (i + 1)).ms := by
  by_cases hat : ∃ j, j < kf.count ∧ (kf.keyframes j).ms = ms
  · rcases hat with ⟨j, hj, hjms⟩
    exact Or.inl (he.interpolate_at hj hjms linear hstart)
  · have hne : ∀ j, j < kf.count → (kf.keyframes j).ms ≠ ms := fun j hj h => hat ⟨j, hj, h⟩
    have hbefore := hne i (by omega)
    have hafter := hne (i + 1) hi
    exact Or.inr ⟨by omega, by omega⟩

/-- Where it divides by something the interpolation is faithful. -/
theorem Edited.faithful (he : kf.Edited) (linear : Bool)
    (hstart : ¬ (ms = 0 ∧ (kf.keyframes 1).ms = 0 ∧ 0 < kf.last.ms)) :
    kf.Faithful linear ms where
  defined := he.interpolate_isSome linear hstart
  atKeyframe := fun i hi hms => he.interpolate_at hi hms linear hstart
  afterLast := fun hlast => if_pos hlast
  level := by
    intro i hi hlo hhi hsame hshared
    rcases he.at_or_between hi hlo hhi linear hstart with ⟨j, hj, hjms, hvalue⟩ | ⟨hbefore, hafter⟩
    · rw [hvalue, hshared j hj hjms]
    · -- A curve between equal values is level.
      rw [(he.interpolate_between hi hbefore hafter linear).2]
      simp only [along, if_pos (Nat.succ_pos i), Nat.add_sub_cancel, hsame, curve_self]
  between := by
    intro hlinear i hi hlo hhi hshared
    rcases he.at_or_between hi hlo hhi linear hstart with ⟨j, hj, hjms, hvalue⟩ | ⟨hbefore, hafter⟩
    · refine ⟨_, hvalue, ?_⟩
      rcases hshared j hj hjms with rfl | rfl
      · exact ⟨min_le_left _ _, le_max_left _ _⟩
      · exact ⟨min_le_right _ _, le_max_right _ _⟩
    · -- On a straight line the fraction stays between zero and one.
      rcases he.interpolate_between hi hbefore hafter linear with ⟨hspan, hvalue⟩
      have hfraction := he.fraction_mem (he.next_between hi hbefore hhi) hspan
      refine ⟨_, hvalue, ?_⟩
      simp only [along, if_pos (Nat.succ_pos i), Nat.add_sub_cancel, curve, hlinear, if_true]
      exact chord_mem hfraction.1 hfraction.2 ⟨min_le_left _ _, le_max_left _ _⟩
        ⟨min_le_right _ _, le_max_right _ _⟩

/-- In a group as the editor keeps it the interpolation is faithful at every time,
    except at time zero where the second keyframe is there too and the last is not: it
    divides zero by zero there. -/
theorem faithful_iff (kf : KeyframeGroup) (linear : Bool) (ms : Nat) (he : kf.Edited) :
    kf.Faithful linear ms ↔ ¬ (ms = 0 ∧ (kf.keyframes 1).ms = 0 ∧ 0 < kf.last.ms) := by
  constructor
  · rintro hfaithful ⟨hms, hone, hlast⟩
    rcases hfaithful.defined with ⟨v, hv⟩
    have hlate : ¬ kf.last.ms ≤ ms := by omega
    rw [interpolateKeyframe, if_neg hlate] at hv
    rcases next_isSome he.two (show ms ≤ kf.last.ms by omega) with ⟨k, hk⟩
    simp only [reading, hk, if_pos ((he.span_eq_zero hk).mpr ⟨hms, hone⟩), reduceCtorEq] at hv
  · exact he.faithful linear

/-- Three keyframes, the second moved to the start. -/
def doubleStart : KeyframeGroup where
  keyframes
    | 0 => ⟨0, 0, ms_start_lt⟩
    | 1 => ⟨3, 0, ms_start_lt⟩
    | _ => ⟨9, 120000, ms_twoMinutes_lt⟩
  count := 3

theorem doubleStart_edited : doubleStart.Edited where
  two := by decide
  nine := by decide
  first := rfl
  sorted := by
    intro i hi
    have : i = 0 ∨ i = 1 := by
      simp only [doubleStart] at hi
      omega
    rcases this with rfl | rfl <;> decide

/-- After the first millisecond the interpolation of this group is faithful. -/
theorem faithful_iff_start : doubleStart.Edited ∧ (doubleStart.Faithful false 1 ↔
    ¬ (1 = 0 ∧ (doubleStart.keyframes 1).ms = 0 ∧ 0 < doubleStart.last.ms)) :=
  ⟨doubleStart_edited, faithful_iff doubleStart false 1 doubleStart_edited⟩

/-- At the start of this group the interpolation divides zero by zero. -/
theorem doubleStart_undefined :
    doubleStart.Edited ∧ doubleStart.interpolateKeyframe 0 false = none ∧
      ¬ doubleStart.Faithful false 0 := by
  have hnone : doubleStart.interpolateKeyframe 0 false = none := by
    have hnext : doubleStart.next 0 = some 1 := by decide
    have hspan : doubleStart.span 1 = 0 := by decide
    rw [interpolateKeyframe, if_neg (by decide), reading, hnext]
    exact if_pos hspan
  refine ⟨doubleStart_edited, hnone, fun hfaithful => ?_⟩
  rcases hfaithful.defined with ⟨v, hv⟩
  rw [hnone] at hv
  exact absurd hv (by simp only [reduceCtorEq, not_false_eq_true])

end KeyframeGroup

end Shutter

end TimelapsePlus
