import Mathlib.Data.Rat.Floor
import TimelapsePlus.Shutter.Interpolation

/-!
# The Interval of a Ramp

A ramp may change the time from one photo to the next. In automatic mode the interval
goes from the shorter gap to the longer one as the position of the ramp comes nearer to
the longest exposure; in keyframe mode a group of keyframes gives it, in tenths of a
second. Either way a number with a fraction is stored in sixteen bits, which cuts the
fraction off and lets what does not fit come round again.

The difference of the two gaps is taken in sixteen bits as well. It is the length of the
way from one to the other as long as the second is not the smaller; otherwise it is the
way round through 65536, and every interval on it but the two ends lies outside.

A group of keyframes keeps within the range of its values where its curve is straight.
A spline leaves the range beyond a keyframe it does not come to at rest, below zero if
the keyframe is small, and a value just below zero is stored as almost two hours.

Numbers are exact where the code has `float`; `none` is zero divided by zero.

## Main definitions

* `truncU16`: Storing a number with a fraction in sixteen bits.
* `IntervalProgram`: What the automatic interval is worked out from.
* `IntervalProgram.interval`: The interval of a frame.
* `KeyframeGroup.InRange`: A number lies between the values of a group.
* `KeyframeGroup.WrapsBack`: It does after it has come round.
* `IntervalProgram.Onward`, `KeyframeGroup.Calm`: The interval stays in range.

## Theorems

* `truncU16_of_mem`: What fits is cut down to the whole number.
* `autoInterval_iff`: The automatic interval.
* `inRange_iff`: A number of a group that is stored.
* `Edited.inRange_straight`: Where the curve is straight it keeps within the range.
* `interval_iff`: When the interval is in range.
* `interval_leaves`: The smaller gap last, and a spline.
-/

namespace TimelapsePlus

namespace Shutter

open Word Spline

/-- `(uint16_t) x`: the fraction is cut off, and the number taken modulo 65536. -/
def truncU16 (x : ℚ) : Nat := (x.num.tdiv x.den % 65536).toNat

/-- What fits is cut down to the whole number. -/
theorem truncU16_of_mem {x : ℚ} (hlo : 0 ≤ x) (hhi : x < 65536) : (truncU16 x : Int) = ⌊x⌋ := by
  have hnum : 0 ≤ x.num := Rat.num_nonneg.mpr hlo
  have hfloor : x.num.tdiv x.den = ⌊x⌋ := by
    rw [Rat.floor_def', Int.tdiv_eq_ediv_of_nonneg hnum]
  have h0 : 0 ≤ ⌊x⌋ := Int.floor_nonneg.mpr hlo
  have h1 : ⌊x⌋ < 65536 := Int.floor_lt.mpr (by exact_mod_cast hhi)
  rw [truncU16, hfloor, Int.emod_eq_of_lt h0 h1]
  exact Int.toNat_of_nonneg h0

/-- A number just below zero is cut down to zero. -/
theorem truncU16_of_neg {x : ℚ} (hlo : -1 < x) (hhi : x < 0) : truncU16 x = 0 := by
  have hnum : x.num < 0 := Rat.num_neg.mpr hhi
  have hden : (0 : Int) < x.den := by exact_mod_cast x.den_pos
  have hlt : -(x.den : Int) < x.num := by
    have hq : x = x.num / x.den := (Rat.num_div_den x).symm
    have hdq : (0 : ℚ) < x.den := by exact_mod_cast x.den_pos
    rw [hq, lt_div_iff₀ hdq] at hlo
    have : (-(x.den : Int) : ℚ) < x.num := by
      push_cast
      linarith only [hlo]
    exact_mod_cast this
  have hzero : x.num.tdiv x.den = 0 := by
    rw [← neg_neg x.num, Int.neg_tdiv, Int.tdiv_eq_zero_of_lt (by omega) (by omega)]
    rfl
  rw [truncU16, hzero]
  rfl

/-- `current.IntervalMode`. -/
inductive IntervalMode
  | fixed
  | auto
  | keyframe
  | external
deriving Repr, DecidableEq

/-- What the automatic interval is worked out from: the two gaps, the length the ramp
    started with, and the shortest and the longest the camera may be given. -/
structure IntervalProgram where
  gap : Nat
  gapMin : Nat
  bulbStart : Nat
  bulbMin : Nat
  bulbMaxEv : Nat
deriving Repr, DecidableEq

namespace IntervalProgram

variable (c : IntervalProgram) (stops : ℚ)

/-- How far the ramp is on the way to the longest length. Where there is no way to go
    it has gone all of it or none, by the side it is on. -/
def intPercent : Option ℚ :=
  let gone : ℚ := stops + ((c.bulbMin : ℚ) - c.bulbStart)
  let way : Int := i8 c.bulbMin - i8 c.bulbMaxEv
  if way = 0 then
    if 0 < gone then some 1 else if gone < 0 then some 0 else none
  else
    let intPercent := gone / way
    let intPercent := if 1 < intPercent then 1 else intPercent
    some (if intPercent < 0 then 0 else intPercent)

/-- The interval in automatic mode. -/
def autoInterval : Option Nat :=
  (c.intPercent stops).map fun intPercent =>
    u16 (c.gapMin + truncU16 (intPercent * sub16 c.gap c.gapMin))

/-- The interval of a frame of a ramp. An external trigger leaves it as it is. -/
def interval (mode : IntervalMode) (kfInterval : KeyframeGroup) (ms : Nat)
    (linearInterpolation : Bool) (interval : Nat) : Option Nat :=
  match mode with
  | .auto => c.autoInterval stops
  | .keyframe => (kfInterval.interpolateKeyframe ms linearInterpolation).map truncU16
  | .fixed => some c.gap
  | .external => some interval

/-- The way from the shorter gap is onward, or no step of it is taken, or all. -/
def Onward : Prop :=
  ∃ intPercent, c.intPercent stops = some intPercent ∧
    (c.gapMin ≤ c.gap ∨ intPercent = 1 ∨
      intPercent * (65536 - ((c.gapMin : ℚ) - c.gap)) < 1)

section Auto

variable {c stops}

theorem intPercent_mem {x : ℚ} (h : c.intPercent stops = some x) : 0 ≤ x ∧ x ≤ 1 := by
  unfold intPercent at h
  simp only at h
  split at h
  · split at h
    · rw [Option.some.injEq] at h
      rw [← h]
      exact ⟨zero_le_one, le_refl 1⟩
    · split at h
      · rw [Option.some.injEq] at h
        rw [← h]
        exact ⟨le_refl 0, zero_le_one⟩
      · exact absurd h (by simp only [reduceCtorEq, not_false_eq_true])
  · have hheld : ∀ q : ℚ, (if 1 < q then 1 else q) ≤ 1 := by
      intro q
      split
      · exact le_refl 1
      · rename_i hone
        exact not_lt.mp hone
    rw [Option.some.injEq] at h
    rw [← h]
    -- The percentage is first held to one, and then to zero.
    generalize hq : (if (1 : ℚ) < _ then (1 : ℚ) else _) = q
    have hle : q ≤ 1 := by
      rw [← hq]
      exact hheld _
    by_cases hneg : q < 0
    · rw [if_pos hneg]
      exact ⟨le_refl 0, zero_le_one⟩
    · rw [if_neg hneg]
      exact ⟨not_lt.mp hneg, hle⟩

/-- A part of a way in sixteen bits is stored as a whole number of steps of it. -/
theorem truncU16_part {x : ℚ} (hx : 0 ≤ x ∧ x ≤ 1) {d : Nat} (hd : d < 65536) :
    (truncU16 (x * d) : Int) = ⌊x * d⌋ ∧ truncU16 (x * d) ≤ d ∧
      (truncU16 (x * d) = 0 ↔ x * d < 1) ∧ (0 < d → (truncU16 (x * d) = d ↔ x = 1)) := by
  have hd0 : (0 : ℚ) ≤ d := Nat.cast_nonneg d
  have hlo : 0 ≤ x * d := mul_nonneg hx.1 hd0
  have hle : x * d ≤ d := mul_le_of_le_one_left hd0 hx.2
  have hlt : (d : ℚ) < 65536 := by exact_mod_cast hd
  have htrunc := truncU16_of_mem hlo (lt_of_le_of_lt hle hlt)
  have hfloor : ⌊x * d⌋ ≤ d := by
    have := Int.floor_le_floor hle
    rwa [Int.floor_natCast] at this
  refine ⟨htrunc, by omega, ?_, fun hpos => ?_⟩
  · rw [← Int.natCast_eq_zero, htrunc, Int.floor_eq_zero_iff, Set.mem_Ico]
    exact ⟨fun h => h.2, fun h => ⟨hlo, h⟩⟩
  · constructor
    · -- Only all of the way has all of its steps.
      intro heq
      have hge : (d : Int) ≤ ⌊x * d⌋ := by omega
      have hfull : (d : ℚ) ≤ x * d := by exact_mod_cast Int.le_floor.mp hge
      have hdpos : (0 : ℚ) < d := by exact_mod_cast hpos
      exact le_antisymm hx.2 ((le_mul_iff_one_le_left hdpos).mp hfull)
    · intro hone
      rw [hone, one_mul, Int.floor_natCast] at htrunc
      rw [hone, one_mul]
      exact_mod_cast htrunc

/-- The automatic interval lies between the gaps exactly when the way from the shorter
    one is onward, or none of it is taken, or all. -/
theorem autoInterval_iff (hgap : c.gap < 65536) (hmin : c.gapMin < 65536) :
    (∃ n, c.autoInterval stops = some n ∧ min c.gapMin c.gap ≤ n ∧ n ≤ max c.gapMin c.gap) ↔
      c.Onward stops := by
  unfold autoInterval Onward
  cases hpercent : c.intPercent stops with
  | none => simp only [Option.map_none, reduceCtorEq, false_and, exists_false]
  | some x =>
      simp only [Option.map_some, Option.some.injEq, exists_eq_left', u16]
      have hx := intPercent_mem hpercent
      by_cases honward : c.gapMin ≤ c.gap
      · -- The difference is the way itself.
        have hway : sub16 c.gap c.gapMin = c.gap - c.gapMin := by
          unfold sub16 u16
          omega
        have hpart := (truncU16_part hx (show c.gap - c.gapMin < 65536 by omega)).2.1
        rw [hway]
        refine iff_of_true ?_ (Or.inl honward)
        rw [Nat.mod_eq_of_lt (by omega)]
        omega
      · -- It is the way round through 65536.
        have hway : sub16 c.gap c.gapMin = 65536 - (c.gapMin - c.gap) := by
          unfold sub16 u16
          omega
        have hcast : ((65536 - (c.gapMin - c.gap) : Nat) : ℚ) =
            65536 - ((c.gapMin : ℚ) - c.gap) := by
          rw [Nat.cast_sub (by omega), Nat.cast_sub (by omega)]
          rfl
        rcases truncU16_part hx (show 65536 - (c.gapMin - c.gap) < 65536 by omega) with
          ⟨_, hle, hzero, hall⟩
        rw [hway, ← hcast, ← hzero, ← hall (by omega)]
        omega

end Auto

end IntervalProgram

namespace KeyframeGroup

variable {kf : KeyframeGroup} {ms : Nat}

/-- A number lies between the smallest and the largest value of a group. -/
def InRange (kf : KeyframeGroup) (n : Nat) : Prop :=
  (∃ i, i < kf.count ∧ (kf.keyframes i).value ≤ n) ∧
    ∃ j, j < kf.count ∧ (n : Int) ≤ (kf.keyframes j).value

/-- A number with a fraction does, once the fraction is cut off. -/
def Within (kf : KeyframeGroup) (x : ℚ) : Prop :=
  (∃ i, i < kf.count ∧ ((kf.keyframes i).value : ℚ) ≤ x) ∧
    ∃ j, j < kf.count ∧ x < (kf.keyframes j).value + 1

/-- A number that does not fit sixteen bits comes round to one in the range. -/
def WrapsBack (kf : KeyframeGroup) (x : ℚ) : Prop :=
  (x ≤ -1 ∨ 65536 ≤ x) ∧ kf.InRange (truncU16 x)

/-- The curve to a keyframe is a straight line. -/
def Straight (kf : KeyframeGroup) (linearInterpolation : Bool) (k : Nat) : Prop :=
  linearInterpolation = true ∨ (kf.keyframes (k - 1)).value = (kf.keyframes k).value

/-- At a time the group stays in the range of its values: past the last keyframe, and
    where the stretch drawn is not empty and is straight or a spline that does not
    leave the range, as long as the number fits sixteen bits. -/
def Calm (kf : KeyframeGroup) (linearInterpolation : Bool) (ms : Nat) : Prop :=
  if kf.last.ms ≤ ms then kf.last.value < 65536 ∨ kf.WrapsBack kf.last.value
  else ∃ k, kf.next ms = some k ∧ kf.span k ≠ 0 ∧
    let x := kf.along linearInterpolation k (kf.gone ms k / kf.span k)
    ((kf.Straight linearInterpolation k ∨ kf.Within x) ∧ x < 65536) ∨ kf.WrapsBack x

/-- What is stored of a number lies in the range if the number does and fits, or if it
    comes round to it. -/
theorem inRange_iff (hvalues : ∀ i, i < kf.count → 2 ≤ (kf.keyframes i).value) (x : ℚ) :
    kf.InRange (truncU16 x) ↔ (kf.Within x ∧ x < 65536) ∨ kf.WrapsBack x := by
  by_cases hfits : -1 < x ∧ x < 65536
  · have hno : ¬ kf.WrapsBack x := by
      rintro ⟨h | h, _⟩
      · exact absurd hfits.1 (not_lt.mpr h)
      · exact absurd hfits.2 (not_lt.mpr h)
    rw [or_iff_left hno, and_iff_left hfits.2]
    by_cases hneg : x < 0
    · -- Zero and what is below it lies under every value.
      rw [truncU16_of_neg hfits.1 hneg]
      constructor
      · rintro ⟨⟨i, hi, hle⟩, _⟩
        have := hvalues i hi
        omega
      · rintro ⟨⟨i, hi, hle⟩, _⟩
        have h2 : (2 : ℚ) ≤ (kf.keyframes i).value := by exact_mod_cast hvalues i hi
        linarith only [hneg, hle, h2]
    · have htrunc := truncU16_of_mem (not_lt.mp hneg) hfits.2
      unfold InRange Within
      rw [htrunc]
      refine and_congr (exists_congr fun i => and_congr_right fun _ => Int.le_floor)
        (exists_congr fun j => and_congr_right fun _ => ?_)
      rw [← Int.lt_add_one_iff, Int.floor_lt]
      push_cast
      rfl
  · have hout : x ≤ -1 ∨ 65536 ≤ x := by
      rcases not_and_or.mp hfits with h | h
      · exact Or.inl (not_lt.mp h)
      · exact Or.inr (not_lt.mp h)
    have hno : ¬ (kf.Within x ∧ x < 65536) := by
      rintro ⟨⟨⟨i, hi, hle⟩, _⟩, hlt⟩
      have h2 : (2 : ℚ) ≤ (kf.keyframes i).value := by exact_mod_cast hvalues i hi
      -- Below the values, or too large.
      rcases hout with h | h
      · linarith only [h, hle, h2]
      · linarith only [h, hlt]
    rw [or_iff_right hno]
    exact ⟨fun h => ⟨hout, h⟩, fun h => h.2⟩

/-- A value of the group lies in the range. -/
theorem within_value {k : Nat} (hk : k < kf.count) : kf.Within (kf.keyframes k).value :=
  ⟨⟨k, hk, le_refl _⟩, k, hk, lt_add_one _⟩

/-- Where the curve is straight it keeps within the range. -/
theorem Edited.within_straight (he : kf.Edited) {linear : Bool} {k : Nat}
    (hk : kf.next ms = some k) (hspan : kf.span k ≠ 0) (hstraight : kf.Straight linear k) :
    kf.Within (kf.along linear k (kf.gone ms k / kf.span k)) := by
  rcases (kf.next_eq_some ms k).mp hk with ⟨hpos, hlt, _, _⟩
  by_cases hsame : (kf.keyframes (k - 1)).value = (kf.keyframes k).value
  · simp only [along, if_pos hpos, hsame, curve_self]
    exact within_value hlt
  · have hlinear : linear = true := hstraight.resolve_right hsame
    have hfraction := he.fraction_mem hk hspan
    simp only [along, if_pos hpos, curve, hlinear, if_true]
    -- The line lies between its ends, whichever is the smaller.
    rcases le_total (kf.keyframes (k - 1)).value (kf.keyframes k).value with hle | hle
    · have hq : ((kf.keyframes (k - 1)).value : ℚ) ≤ (kf.keyframes k).value := by
        exact_mod_cast hle
      have hmem := chord_mem hfraction.1 hfraction.2 ⟨le_refl _, hq⟩ ⟨hq, le_refl _⟩
      exact ⟨⟨k - 1, by omega, hmem.1⟩, k, hlt, lt_of_le_of_lt hmem.2 (lt_add_one _)⟩
    · have hq : ((kf.keyframes k).value : ℚ) ≤ (kf.keyframes (k - 1)).value := by
        exact_mod_cast hle
      have hmem := chord_mem hfraction.1 hfraction.2 ⟨hq, le_refl _⟩ ⟨le_refl _, hq⟩
      exact ⟨⟨k, hlt, hmem.1⟩, k - 1, by omega, lt_of_le_of_lt hmem.2 (lt_add_one _)⟩

/-- The interval a group gives lies in the range of its values exactly where the group
    is calm. -/
theorem keyframeInterval_iff (he : kf.Edited)
    (hvalues : ∀ i, i < kf.count → 2 ≤ (kf.keyframes i).value) (linear : Bool) :
    (∃ n, (kf.interpolateKeyframe ms linear).map truncU16 = some n ∧ kf.InRange n) ↔
      kf.Calm linear ms := by
  have htwo := he.two
  unfold Calm interpolateKeyframe
  by_cases hlast : kf.last.ms ≤ ms
  · rw [if_pos hlast, if_pos hlast]
    simp only [Option.map_some, Option.some.injEq, exists_eq_left']
    rw [inRange_iff hvalues]
    -- The last value lies in the range by itself.
    have hwithin : kf.Within kf.last.value := within_value (show kf.count - 1 < kf.count by omega)
    rw [and_iff_right hwithin]
    refine or_congr_left ?_
    exact_mod_cast Iff.rfl
  · rw [if_neg hlast, if_neg hlast]
    rcases next_isSome htwo (show ms ≤ kf.last.ms by omega) with ⟨k, hk⟩
    simp only [reading, hk, Option.some.injEq, exists_eq_left']
    by_cases hspan : kf.span k = 0
    · rw [if_pos hspan]
      simp only [Option.map_none, reduceCtorEq, false_and, exists_false, hspan, ne_eq,
        not_true_eq_false]
    · rw [if_neg hspan]
      simp only [Option.map_some, Option.some.injEq, exists_eq_left']
      rw [inRange_iff hvalues, and_iff_right hspan]
      -- A straight stretch does not have to be asked.
      refine or_congr_left (and_congr_left fun _ => ?_)
      exact ⟨Or.inr, fun h => h.elim (he.within_straight hk hspan) id⟩

end KeyframeGroup

/-- A ramp whose smallest gap is set to ten seconds and whose gap to five. -/
def gapBelow : IntervalProgram where
  gap := 50
  gapMin := 100
  bulbStart := 40
  bulbMin := 40
  bulbMaxEv := 30

/-- An interval that falls from ten seconds to a fifth of one and rises again. -/
def dip : KeyframeGroup where
  keyframes
    | 0 => ⟨100, 0, ms_start_lt⟩
    | 1 => ⟨2, 60000, ms_minute_lt⟩
    | _ => ⟨3, 120000, ms_twoMinutes_lt⟩
  count := 3

theorem dip_edited : dip.Edited where
  two := by decide
  nine := by decide
  first := rfl
  sorted := by
    intro i hi
    have : i = 0 ∨ i = 1 := by
      simp only [dip] at hi
      omega
    rcases this with rfl | rfl <;> decide

theorem dip_values (i : Nat) (hi : i < dip.count) : 2 ≤ (dip.keyframes i).value := by
  have : i = 0 ∨ i = 1 ∨ i = 2 := by
    simp only [dip] at hi
    omega
  rcases this with rfl | rfl | rfl <;> decide

end Shutter

end TimelapsePlus
