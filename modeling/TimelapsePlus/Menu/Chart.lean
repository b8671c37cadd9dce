import Mathlib.Data.Finset.Sort
import TimelapsePlus.Shutter.Keyframes

/-!
# The Chart of the Bulb Ramp Monitor

While a keyframe ramp runs, the monitor draws its curve, one column for a stretch
of the programme's duration. The column's time is counted in seconds and handed to
`interpolateKeyframe` as it is, which takes milliseconds. `task` asks for the value
at `clock.Ms()`. So the chart shows, for any time of the run, the value of a time a
thousand times earlier.

Whether that shows depends on the group alone. A time, its thousandth, the
thousandth of that and so on come down to zero, so a chart that is right throughout
has one value throughout, the last keyframe's. A stretch of the curve that four
times fall on can only be level if the keyframes at its ends are equal.

## Main definitions

* `chartSecond`: The second a column stands for.
* `charted`, `used`: The value drawn for a second, and the one `task` uses.
* `Shows`: The chart shows what the run uses at a time.
* `leading`: The times drawn on the stretch that leads to a keyframe.
* `Level`: The group's curve is level.

## Theorems

* `shows_constant`: A chart that is right throughout has one value.
* `level_of_constant`, `constant_of_level`: When a group has one value.
* `chart_iff`: The chart is right throughout for level groups alone.
* `chart_late`: A ramp the chart gets wrong.
-/

namespace TimelapsePlus

namespace Menu

open Word Shutter

/-- The columns of the chart. -/
def chartXSpan : Nat := 50

/-- The second a column of the chart stands for. -/
def chartSecond (duration x : Nat) : Nat := duration * x * 60 / chartXSpan

/-- The value drawn for a second of the run. -/
def charted (linearInterpolation : Bool) (kf : KeyframeGroup) (s : Nat) : Option ℚ :=
  kf.interpolateKeyframe s linearInterpolation

/-- The value `task` uses for a frame at a millisecond of the run. -/
def used (linearInterpolation : Bool) (kf : KeyframeGroup) (ms : Nat) : Option ℚ :=
  kf.interpolateKeyframe ms linearInterpolation

/-- The chart shows a value for the second a time falls in, and it is the one used
    at the time. -/
def Shows (linearInterpolation : Bool) (kf : KeyframeGroup) (ms : Nat) : Prop :=
  ∃ v, charted linearInterpolation kf (ms / 1000) = some v ∧
    used linearInterpolation kf ms = some v

/-- The times drawn on the stretch that leads to a keyframe. -/
def leading (kf : KeyframeGroup) (k : Nat) : Finset Nat :=
  (Finset.range kf.last.ms).filter fun ms => kf.next ms = some k

/-- The stretch that leads to a keyframe is level: it starts and ends at the last
    keyframe's value, or no more than three times fall on it and find it there. -/
def LevelTo (linearInterpolation : Bool) (kf : KeyframeGroup) (k : Nat) : Prop :=
  kf.span k ≠ 0 ∧
    ((kf.keyframes (k - 1)).value = kf.last.value ∧ (kf.keyframes k).value = kf.last.value ∨
      (leading kf k).card ≤ 3 ∧ ∀ ms ∈ leading kf k,
        kf.along linearInterpolation k (kf.gone ms k / kf.span k) = kf.last.value)

/-- Every stretch that some time before the end falls on is level. -/
def Level (linearInterpolation : Bool) (kf : KeyframeGroup) : Prop :=
  kf.last.ms = 0 ∨
    2 ≤ kf.count ∧ ∀ k, (leading kf k).Nonempty → LevelTo linearInterpolation kf k

variable {linear : Bool} {kf : KeyframeGroup}

theorem mem_leading {k ms : Nat} :
    ms ∈ leading kf k ↔ ms < kf.last.ms ∧ kf.next ms = some k := by
  simp only [leading, Finset.mem_filter, Finset.mem_range]

/-- A chart that is right throughout has one value, the last keyframe's. -/
theorem shows_constant (h : ∀ ms, ms < 4294967296 → Shows linear kf ms) (ms : Nat)
    (hms : ms < 4294967296) :
    kf.interpolateKeyframe ms linear = some (kf.last.value : ℚ) := by
  -- Every time has the value of its thousandth, and so that of time zero.
  have hzero : ∀ t, t < 4294967296 →
      kf.interpolateKeyframe t linear = kf.interpolateKeyframe 0 linear := by
    intro t
    induction t using Nat.strong_induction_on with
    | _ t ih =>
      intro ht
      rcases Nat.eq_zero_or_pos t with rfl | hpos
      · rfl
      · obtain ⟨v, hchart, hrun⟩ := h t ht
        rw [← ih (t / 1000) (by omega) (by omega)]
        exact hrun.trans hchart.symm
  rw [hzero ms hms, ← hzero kf.last.ms kf.last.ms_lt]
  rw [KeyframeGroup.interpolateKeyframe, if_pos (le_refl _)]

/-- Times on one stretch are at different fractions of it. -/
theorem fraction_ne {k a b : Nat} (hspan : kf.span k ≠ 0) (ha : a < 4294967296)
    (hb : b < 4294967296) (hab : a ≠ b) :
    (kf.gone a k / kf.span k : ℚ) ≠ kf.gone b k / kf.span k := by
  have hne : (kf.span k : ℚ) ≠ 0 := Nat.cast_ne_zero.mpr hspan
  intro heq
  rw [div_left_inj' hne, Nat.cast_inj] at heq
  unfold KeyframeGroup.gone sub32 u32 at heq
  omega

/-- A stretch that four times find at the last keyframe's value starts and ends
    there. -/
theorem ends_of_four {k : Nat} (hpos : 0 < k) (hspan : kf.span k ≠ 0)
    (hfour : 3 < (leading kf k).card)
    (hat : ∀ ms ∈ leading kf k,
      kf.along linear k (kf.gone ms k / kf.span k) = kf.last.value) :
    (kf.keyframes (k - 1)).value = kf.last.value ∧ (kf.keyframes k).value = kf.last.value := by
  obtain ⟨four, hsub, hcard⟩ := Finset.exists_subset_card_eq hfour
  have mem : ∀ i, four.orderEmbOfFin hcard i ∈ leading kf k :=
    fun i => hsub (Finset.orderEmbOfFin_mem four hcard i)
  have small : ∀ i, four.orderEmbOfFin hcard i < 4294967296 :=
    fun i => (mem_leading.mp (mem i)).1.trans kf.last.ms_lt
  have apart : ∀ i j, i ≠ j →
      (kf.gone (four.orderEmbOfFin hcard i) k / kf.span k : ℚ) ≠
        kf.gone (four.orderEmbOfFin hcard j) k / kf.span k := by
    intro i j hij
    exact fraction_ne hspan (small i) (small j) ((four.orderEmbOfFin hcard).injective.ne hij)
  have value : ∀ i, kf.along linear k
      (kf.gone (four.orderEmbOfFin hcard i) k / kf.span k) = kf.last.value :=
    fun i => hat _ (mem i)
  simp only [KeyframeGroup.along, if_pos hpos] at value
  have hends := curve_level (apart 0 1 (by decide)) (apart 0 2 (by decide))
    (apart 0 3 (by decide)) (apart 1 2 (by decide)) (apart 1 3 (by decide))
    (apart 2 3 (by decide)) (value 0) (value 1) (value 2) (value 3)
  exact ⟨by exact_mod_cast hends.1, by exact_mod_cast hends.2⟩

/-- A group that has one value at every time is level. -/
theorem level_of_constant
    (h : ∀ ms, ms < 4294967296 → kf.interpolateKeyframe ms linear = some (kf.last.value : ℚ)) :
    Level linear kf := by
  -- Before the end the value is that of a stretch.
  have hreading : ∀ ms, ms < kf.last.ms → kf.reading ms linear = some (kf.last.value : ℚ) := by
    intro ms hms
    have := h ms (hms.trans kf.last.ms_lt)
    rwa [KeyframeGroup.interpolateKeyframe, if_neg (not_le.mpr hms)] at this
  have hdrawn : ∀ ms k, ms ∈ leading kf k → 0 < k ∧ k < kf.count ∧ kf.span k ≠ 0 ∧
      kf.along linear k (kf.gone ms k / kf.span k) = kf.last.value := by
    intro ms k hmem
    obtain ⟨hms, hk⟩ := mem_leading.mp hmem
    obtain ⟨hpos, hlt, -, -⟩ := (kf.next_eq_some ms k).mp hk
    have hread := hreading ms hms
    simp only [KeyframeGroup.reading, hk] at hread
    by_cases hspan : kf.span k = 0
    · rw [if_pos hspan] at hread
      exact absurd hread (by simp only [reduceCtorEq, not_false_eq_true])
    · rw [if_neg hspan] at hread
      exact ⟨hpos, hlt, hspan, Option.some.inj hread⟩
  by_cases hlast : kf.last.ms = 0
  · exact .inl hlast
  · right
    constructor
    · have hread := hreading 0 (Nat.pos_of_ne_zero hlast)
      unfold KeyframeGroup.reading at hread
      split at hread
      · exact absurd hread (by simp only [reduceCtorEq, not_false_eq_true])
      · rename_i k hk
        obtain ⟨hpos, hlt, -, -⟩ := (kf.next_eq_some 0 k).mp hk
        omega
    · rintro k ⟨ms, hmem⟩
      obtain ⟨hpos, -, hspan, -⟩ := hdrawn ms k hmem
      have hat := fun ms hms => (hdrawn ms k hms).2.2.2
      refine ⟨hspan, ?_⟩
      by_cases hfour : 3 < (leading kf k).card
      · exact .inl (ends_of_four hpos hspan hfour hat)
      · exact .inr ⟨not_lt.mp hfour, hat⟩

/-- A level group has one value. -/
theorem constant_of_level (h : Level linear kf) (ms : Nat) :
    kf.interpolateKeyframe ms linear = some (kf.last.value : ℚ) := by
  unfold KeyframeGroup.interpolateKeyframe
  by_cases hms : kf.last.ms ≤ ms
  · rw [if_pos hms]
  · rw [if_neg hms]
    rcases h with hzero | ⟨htwo, hlevel⟩
    · omega
    · obtain ⟨k, hk⟩ := KeyframeGroup.next_isSome htwo (not_le.mp hms).le
      have hmem : ms ∈ leading kf k := mem_leading.mpr ⟨not_le.mp hms, hk⟩
      obtain ⟨hpos, -, -, -⟩ := (kf.next_eq_some ms k).mp hk
      obtain ⟨hspan, hends | ⟨-, hat⟩⟩ := hlevel k ⟨ms, hmem⟩
      · simp only [KeyframeGroup.reading, hk, if_neg hspan, KeyframeGroup.along, if_pos hpos,
          hends.1, hends.2, curve_self]
      · simp only [KeyframeGroup.reading, hk, if_neg hspan, hat ms hmem]

/-- The chart shows what the run uses at every time for level groups, and for no
    others. -/
theorem chart_iff (linear : Bool) (kf : KeyframeGroup) :
    (∀ ms, ms < 4294967296 → Shows linear kf ms) ↔ Level linear kf := by
  constructor
  · intro h
    exact level_of_constant (shows_constant h)
  · intro h ms _
    exact ⟨_, constant_of_level h (ms / 1000), constant_of_level h ms⟩

/-- A ramp of a minute, by two stops. -/
def climb : KeyframeGroup where
  keyframes
    | 0 => ⟨0, 0, ms_start_lt⟩
    | _ => ⟨6, 60000, ms_minute_lt⟩
  count := 2

/-- Half way through that ramp, which the middle column of the chart stands for, the
    run uses one stop, and the chart still shows the start. -/
theorem chart_late :
    30000 / 1000 = chartSecond 1 25 ∧
      charted true climb (30000 / 1000) = some (3 / 1000) ∧ used true climb 30000 = some 3 ∧
      ¬ Shows true climb 30000 := by
  have hdrawn : ∀ ms, 0 < ms → ms < 60000 →
      climb.interpolateKeyframe ms true = some ((ms : ℚ) / 10000) := by
    intro ms hpos hms
    have hnext : climb.next ms = some 1 := by
      rw [KeyframeGroup.next_eq_some]
      refine ⟨Nat.one_pos, by decide, hms.le, ?_⟩
      intro j hj hlt
      omega
    have hgone : climb.gone ms 1 = ms := sub32_of_le (by omega) (Nat.zero_le ms)
    have hspan : climb.span 1 = 60000 := by decide
    have hend : ¬ climb.last.ms ≤ ms := not_le.mpr hms
    rw [KeyframeGroup.interpolateKeyframe, if_neg hend]
    simp only [KeyframeGroup.reading, hnext, hspan, hgone, if_neg (by decide : ¬ 60000 = 0)]
    simp only [KeyframeGroup.along, climb, curve, Spline.chord, Option.some.injEq]
    norm_num
    ring
  have hchart : charted true climb (30000 / 1000) = some (3 / 1000) := by
    rw [charted, hdrawn _ (by decide) (by decide)]
    norm_num
  have hrun : used true climb 30000 = some 3 := by
    rw [used, hdrawn _ (by decide) (by decide)]
    norm_num
  refine ⟨rfl, hchart, hrun, ?_⟩
  rintro ⟨v, hv, hv'⟩
  rw [hchart] at hv
  rw [hrun, ← hv] at hv'
  norm_num at hv'

end Menu

end TimelapsePlus
