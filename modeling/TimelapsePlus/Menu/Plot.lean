import Mathlib.Tactic.NormNum
import TimelapsePlus.Shutter.Keyframes

/-!
# The Plot of the Keyframe Editor

The editor draws a keyframe group pixel by pixel, with a copy of
`interpolateKeyframe` written out in its loop. The copy lacks the test the
original starts with: from the last keyframe's time on, the value is that
keyframe's. Without it the editor looks for the first keyframe at the time, which
is another one when several share the last time, and draws the first stretch at
its start even when it is empty.

## Main definitions

* `chartMs`: The time a pixel stands for.
* `plotted`: The value plotted for a time.
* `Agrees`: The plot shows what the run will use.

## Theorems

* `chartMs_le`: The pixels stand for times up to the last keyframe's.
* `plotted_end`: The value plotted at the end.
* `plotted_iff`: When the plot shows what the run will use.
* `plotted_shared_end`: A group whose plot ends elsewhere.
-/

namespace TimelapsePlus

namespace Menu

open Word Shutter

/-- The width of the chart inside its box. -/
def chartboxWidth : Nat := 81

/-- The time a pixel of the chart stands for. -/
def chartMs (kf : KeyframeGroup) (i : Nat) : Nat :=
  let first := (kf.keyframes 0).ms
  u32 (i * sub32 kf.last.ms first / chartboxWidth + first)

/-- The value plotted for a time. -/
def plotted (linearInterpolation : Bool) (kf : KeyframeGroup) (ms : Nat) : Option ℚ :=
  kf.reading ms linearInterpolation

/-- The plot shows a value for the time, and it is the one the run will use. -/
def Agrees (linearInterpolation : Bool) (kf : KeyframeGroup) (ms : Nat) : Prop :=
  ∃ v, plotted linearInterpolation kf ms = some v ∧
    kf.interpolateKeyframe ms linearInterpolation = some v

/-- The first keyframe at the last keyframe's time, the very first apart, has the
    last one's value. -/
def EndsAlike (kf : KeyframeGroup) : Prop :=
  ∀ k, 0 < k → k < kf.count → (kf.keyframes k).ms = kf.last.ms →
    (∀ j, 0 < j → j < k → (kf.keyframes j).ms < kf.last.ms) →
    (kf.keyframes k).value = kf.last.value

variable {kf : KeyframeGroup} {ms : Nat}

/-- The pixels stand for times up to the last keyframe's. -/
theorem chartMs_le (he : kf.Edited) {i : Nat} (hi : i ≤ chartboxWidth) :
    chartMs kf i ≤ kf.last.ms := by
  have h32 := kf.last.ms_lt
  simp only [chartMs]
  rw [he.first, sub32_of_le h32 (Nat.zero_le _), Nat.sub_zero, Nat.add_zero]
  have hle : i * kf.last.ms / chartboxWidth ≤ kf.last.ms := by
    refine Nat.div_le_of_le_mul ?_
    exact Nat.mul_le_mul_right kf.last.ms hi
  rw [u32_of_lt (lt_of_le_of_lt hle h32)]
  exact hle

/-- At the last keyframe's time the first keyframe there is plotted. -/
theorem plotted_end (he : kf.Edited) (linear : Bool)
    (hsecond : kf.last.ms = 0 → (kf.keyframes 1).ms ≠ 0) :
    ∃ k, kf.next kf.last.ms = some k ∧ (kf.keyframes k).ms = kf.last.ms ∧
      plotted linear kf kf.last.ms = some ((kf.keyframes k).value : ℚ) := by
  obtain ⟨k, hk⟩ := KeyframeGroup.next_isSome he.two (le_refl kf.last.ms)
  obtain ⟨hpos, hlt, hms, -⟩ := (kf.next_eq_some _ k).mp hk
  have hat : (kf.keyframes k).ms = kf.last.ms :=
    le_antisymm (he.mono (by omega) (by omega)) hms
  refine ⟨k, hk, hat, he.reading_at hk hat ?_ linear⟩
  intro hspan
  obtain ⟨hzero, hone⟩ := (he.span_eq_zero hk).mp hspan
  exact hsecond hzero hone

/-- The plot shows what the run will use, and neither divides by zero, unless the
    second keyframe is at the very start, for which both lack a stretch to draw, or
    the first of several keyframes at the end differs from the last. -/
theorem plotted_iff (linear : Bool) (kf : KeyframeGroup) (ms : Nat) (he : kf.Edited)
    (hms : ms ≤ kf.last.ms) :
    Agrees linear kf ms ↔
      (ms = 0 → (kf.keyframes 1).ms ≠ 0) ∧ (ms = kf.last.ms → EndsAlike kf) := by
  obtain ⟨k, hk⟩ := KeyframeGroup.next_isSome he.two hms
  have hspan := he.span_eq_zero hk
  constructor
  · rintro ⟨v, hplot, hrun⟩
    have hsecond : ms = 0 → (kf.keyframes 1).ms ≠ 0 := by
      intro hzero hone
      simp only [plotted, KeyframeGroup.reading, hk, if_pos (hspan.mpr ⟨hzero, hone⟩),
        reduceCtorEq] at hplot
    refine ⟨hsecond, ?_⟩
    rintro rfl
    -- The run takes the last value, the plot that of the first keyframe at the end.
    obtain ⟨k', hk', hat, hend⟩ := plotted_end he linear hsecond
    rw [KeyframeGroup.interpolateKeyframe, if_pos (le_refl _), ← hplot, hend] at hrun
    have hvalue : (kf.keyframes k').value = kf.last.value := by
      exact_mod_cast (Option.some.inj hrun).symm
    intro j hpos hlt hj hfirst
    have hsame : kf.next kf.last.ms = some j :=
      (kf.next_eq_some _ j).mpr ⟨hpos, hlt, hj.ge, hfirst⟩
    rw [hk'] at hsame
    rw [← Option.some.inj hsame]
    exact hvalue
  · rintro ⟨hsecond, hends⟩
    by_cases hlast : kf.last.ms ≤ ms
    · obtain rfl : ms = kf.last.ms := le_antisymm hms hlast
      obtain ⟨k', hk', hat, hend⟩ := plotted_end he linear hsecond
      obtain ⟨hpos, hlt, -, hfirst⟩ := (kf.next_eq_some _ k').mp hk'
      refine ⟨_, hend, ?_⟩
      rw [KeyframeGroup.interpolateKeyframe, if_pos (le_refl _),
        hends rfl k' hpos hlt hat hfirst]
    · -- Before the end the two are the same drawing.
      have hne : kf.span k ≠ 0 := by
        intro hzero
        obtain ⟨h0, h1⟩ := hspan.mp hzero
        exact hsecond h0 h1
      refine ⟨kf.along linear k (kf.gone ms k / kf.span k), ?_, ?_⟩
      · simp only [plotted, KeyframeGroup.reading, hk, if_neg hne]
      · simp only [KeyframeGroup.interpolateKeyframe, if_neg hlast, KeyframeGroup.reading, hk,
          if_neg hne]

/-- Two minutes of a ramp whose middle keyframe was moved to the end. -/
def sharedEnd : KeyframeGroup where
  keyframes
    | 0 => ⟨0, 0, ms_start_lt⟩
    | 1 => ⟨3, 120000, ms_twoMinutes_lt⟩
    | _ => ⟨9, 120000, ms_twoMinutes_lt⟩
  count := 3

theorem sharedEnd_edited : sharedEnd.Edited where
  two := by decide
  nine := by decide
  first := rfl
  sorted := by
    intro i hi
    have : i = 0 ∨ i = 1 := by
      simp only [sharedEnd] at hi
      omega
    rcases this with rfl | rfl <;> decide

/-- The plot agrees at the first minute of that ramp. -/
theorem plotted_iff_minute :
    sharedEnd.Edited ∧ 60000 ≤ sharedEnd.last.ms ∧
      (Agrees false sharedEnd 60000 ↔
        ((60000 = 0 → (sharedEnd.keyframes 1).ms ≠ 0) ∧
          (60000 = sharedEnd.last.ms → EndsAlike sharedEnd))) :=
  ⟨sharedEnd_edited, by decide, plotted_iff false sharedEnd 60000 sharedEnd_edited (by decide)⟩

/-- At the end of that ramp the plot shows three thirds of a stop and the run uses
    nine. -/
theorem plotted_shared_end :
    sharedEnd.Edited ∧ 120000 ≤ sharedEnd.last.ms ∧ plotted false sharedEnd 120000 = some 3 ∧
      sharedEnd.interpolateKeyframe 120000 false = some 9 ∧ ¬ Agrees false sharedEnd 120000 := by
  have hplot : plotted false sharedEnd 120000 = some 3 :=
    sharedEnd_edited.reading_at (by decide : sharedEnd.next 120000 = some 1) rfl (by decide) false
  have hrun : sharedEnd.interpolateKeyframe 120000 false = some 9 := by
    rw [KeyframeGroup.interpolateKeyframe, if_pos (by decide)]
    rfl
  refine ⟨sharedEnd_edited, by decide, hplot, hrun, ?_⟩
  rintro ⟨v, hv, hv'⟩
  rw [hplot] at hv
  rw [hrun, ← hv] at hv'
  norm_num at hv'

end Menu

end TimelapsePlus
