import TimelapsePlus.Lib.Spline
import TimelapsePlus.Lib.Word

/-!
# Keyframe Groups

A ramp by keyframes is given by a group of them, each a value and a time. Between
two keyframes the value follows a curve through them and their neighbours, or a
straight line when the settings ask for it. `interpolateKeyframe` looks for the
first keyframe, the very first apart, that is not before the time asked for, and
draws the stretch that leads to it from the keyframe before.

Times are 32-bit numbers of milliseconds, and a keyframe cannot be built with
another. Values are drawn in exact arithmetic where the code has `float`. A
division by zero has no value.

## Main definitions

* `Keyframe`, `KeyframeGroup`: The data.
* `curve`: The value on the way between two keyframes.
* `next`: The keyframe the time leads to.
* `reading`: The value drawn for a time.
* `interpolateKeyframe`: The value of the group at a time.
* `KeyframeGroup.Edited`: What the editor keeps of a group.

## Theorems

* `next_eq_some`: The keyframe found is the first that is not too early.
* `next_isSome`: Up to the last keyframe's time there is one.
* `Edited.stretch`: The stretch drawn in a group as the editor keeps it.
* `Edited.span_eq_zero`: It is empty only at the very start.
* `Edited.reading_at`: At the time of the keyframe found, the curve has its value.
-/

namespace TimelapsePlus

namespace Shutter

open Word Spline

/-- A keyframe: a value, and the millisecond it is for. -/
structure Keyframe where
  value : Int
  ms : Nat
  ms_lt : ms < 4294967296

theorem ms_start_lt : (0 : Nat) < 4294967296 := by decide
theorem ms_minute_lt : (60000 : Nat) < 4294967296 := by decide
theorem ms_twoMinutes_lt : (120000 : Nat) < 4294967296 := by decide

/-- A group of keyframes, of which the first `count` are in use. -/
structure KeyframeGroup where
  keyframes : Nat → Keyframe
  count : Nat

/-- The last keyframe in use. -/
def KeyframeGroup.last (kf : KeyframeGroup) : Keyframe := kf.keyframes (kf.count - 1)

/-- The value on the way from `p1` to `p2`. -/
def curve (linearInterpolation : Bool) (p0 p1 p2 p3 t : ℚ) : ℚ :=
  if linearInterpolation then chord p1 p2 t
  else if p1 = p2 then p1
  else catmullRom p0 p1 p2 p3 t

/-- The curve starts at the keyframe it comes from. -/
@[simp] theorem curve_zero (linear : Bool) (p0 p1 p2 p3 : ℚ) : curve linear p0 p1 p2 p3 0 = p1 := by
  unfold curve
  split_ifs
  · exact chord_zero p1 p2
  · rfl
  · exact catmullRom_zero p0 p1 p2 p3

/-- The curve ends at the keyframe it leads to. -/
@[simp] theorem curve_one (linear : Bool) (p0 p1 p2 p3 : ℚ) : curve linear p0 p1 p2 p3 1 = p2 := by
  unfold curve
  split_ifs with hlinear heq
  · exact chord_one p1 p2
  · exact heq
  · exact catmullRom_one p0 p1 p2 p3

/-- The curve between two equal keyframes is level. -/
theorem curve_self (linear : Bool) (p0 p p3 t : ℚ) : curve linear p0 p p p3 t = p := by
  unfold curve
  split_ifs with hlinear heq
  · simp only [chord, sub_self, mul_zero, zero_add]
  · rfl
  · exact absurd rfl heq

/-- A curve that has one value at four places starts and ends at it. -/
theorem curve_level {linear : Bool} {p0 p1 p2 p3 v t₁ t₂ t₃ t₄ : ℚ} (h12 : t₁ ≠ t₂)
    (h13 : t₁ ≠ t₃) (h14 : t₁ ≠ t₄) (h23 : t₂ ≠ t₃) (h24 : t₂ ≠ t₄) (h34 : t₃ ≠ t₄)
    (h1 : curve linear p0 p1 p2 p3 t₁ = v) (h2 : curve linear p0 p1 p2 p3 t₂ = v)
    (h3 : curve linear p0 p1 p2 p3 t₃ = v) (h4 : curve linear p0 p1 p2 p3 t₄ = v) :
    p1 = v ∧ p2 = v := by
  unfold curve at h1 h2 h3 h4
  by_cases hlinear : linear = true
  · rw [if_pos hlinear] at h1 h2
    exact chord_level h12 h1 h2
  · rw [if_neg hlinear] at h1 h2 h3 h4
    by_cases heq : p1 = p2
    · rw [if_pos heq] at h1
      exact ⟨h1, heq ▸ h1⟩
    · rw [if_neg heq] at h1 h2 h3 h4
      exact catmullRom_level h12 h13 h14 h23 h24 h34 h1 h2 h3 h4

namespace KeyframeGroup

variable (kf : KeyframeGroup) (ms : Nat)

/-- The first keyframe, the very first apart, that is not before the time. -/
def next : Option Nat :=
  (List.range kf.count).find? fun k => ms ≤ (kf.keyframes k).ms && 0 < k

/-- The keyframe found is the first that is not too early. -/
theorem next_eq_some (k : Nat) :
    kf.next ms = some k ↔
      0 < k ∧ k < kf.count ∧ ms ≤ (kf.keyframes k).ms ∧
        ∀ j, 0 < j → j < k → (kf.keyframes j).ms < ms := by
  unfold next
  rw [List.find?_range_eq_some]
  simp only [Bool.and_eq_true, decide_eq_true_eq, List.mem_range, Bool.not_eq_true',
    Bool.and_eq_false_iff, decide_eq_false_iff_not]
  constructor
  · rintro ⟨⟨hms, hpos⟩, hlt, hfirst⟩
    refine ⟨hpos, hlt, hms, ?_⟩
    intro j hj hjk
    rcases hfirst j hjk with h | h
    · exact not_le.mp h
    · exact absurd hj h
  · rintro ⟨hpos, hlt, hms, hfirst⟩
    refine ⟨⟨hms, hpos⟩, hlt, ?_⟩
    intro j hjk
    by_cases hj : 0 < j
    · exact .inl (not_le.mpr (hfirst j hj hjk))
    · exact .inr hj

/-- Up to the last keyframe's time there is a keyframe that is not too early. -/
theorem next_isSome {kf : KeyframeGroup} {ms : Nat} (htwo : 2 ≤ kf.count)
    (hms : ms ≤ kf.last.ms) : ∃ k, kf.next ms = some k := by
  by_contra hnone
  have h : kf.next ms = none := Option.eq_none_iff_forall_not_mem.mpr fun k hk => hnone ⟨k, hk⟩
  unfold next at h
  rw [List.find?_range_eq_none] at h
  have hlast := h (kf.count - 1) (by omega)
  simp only [Bool.not_eq_true', Bool.and_eq_false_iff, decide_eq_false_iff_not] at hlast
  rcases hlast with hlast | hlast
  · exact hlast hms
  · omega

/-- The value drawn on the stretch that leads to a keyframe, at a fraction of its
    length. The keyframes at the ends stand in for neighbours they lack. -/
def along (linearInterpolation : Bool) (ki : Nat) (t : ℚ) : ℚ :=
  let key3 := (kf.keyframes ki).value
  let key2 := if 0 < ki then (kf.keyframes (ki - 1)).value else key3
  let key1 := if 0 < ki - 1 then (kf.keyframes (ki - 2)).value else key2
  let key4 := if ki < kf.count - 1 then (kf.keyframes (ki + 1)).value else key3
  curve linearInterpolation key1 key2 key3 key4 t

/-- The time from the keyframe before, and the length of the stretch. -/
def gone (ki : Nat) : Nat := sub32 ms (kf.keyframes (ki - 1)).ms

@[inherit_doc gone]
def span (ki : Nat) : Nat := sub32 (kf.keyframes ki).ms (kf.keyframes (ki - 1)).ms

/-- The value drawn for a time. Where no keyframe is late enough the stretch is
    the empty one at the first keyframe, and as at any empty one the fraction is a
    division by zero. -/
def reading (linearInterpolation : Bool) : Option ℚ :=
  match kf.next ms with
  | none => none
  | some ki =>
    if kf.span ki = 0 then none
    else some (kf.along linearInterpolation ki (kf.gone ms ki / kf.span ki))

/-- The value of the group at a time. -/
def interpolateKeyframe (linearInterpolation : Bool) : Option ℚ :=
  if kf.last.ms ≤ ms then some kf.last.value
  else kf.reading ms linearInterpolation

/-- What the editor keeps of a group: between two and nine keyframes, the first at
    time zero, and none before the one in front of it. -/
structure Edited : Prop where
  two : 2 ≤ kf.count
  nine : kf.count ≤ 9
  first : (kf.keyframes 0).ms = 0
  sorted : ∀ i, i + 1 < kf.count → (kf.keyframes i).ms ≤ (kf.keyframes (i + 1)).ms

variable {kf ms}

/-- The stretch drawn starts at or before the time, and is as long as its two
    ends are apart. -/
theorem Edited.stretch (he : kf.Edited) {k : Nat} (hk : kf.next ms = some k) :
    (kf.keyframes (k - 1)).ms ≤ ms ∧
      kf.gone ms k = ms - (kf.keyframes (k - 1)).ms ∧
      kf.span k = (kf.keyframes k).ms - (kf.keyframes (k - 1)).ms := by
  obtain ⟨hpos, hlt, hms, hfirst⟩ := (kf.next_eq_some ms k).mp hk
  have hbefore : (kf.keyframes (k - 1)).ms ≤ ms := by
    by_cases hone : k = 1
    · -- The very first keyframe is at time zero.
      rw [hone, he.first]
      exact Nat.zero_le ms
    · exact (hfirst (k - 1) (by omega) (by omega)).le
  have h32 := (kf.keyframes k).ms_lt
  exact ⟨hbefore, sub32_of_le (lt_of_le_of_lt hms h32) hbefore,
    sub32_of_le h32 (hbefore.trans hms)⟩

/-- The stretch drawn is empty only at the very start, where the second keyframe
    is there too. -/
theorem Edited.span_eq_zero (he : kf.Edited) {k : Nat} (hk : kf.next ms = some k) :
    kf.span k = 0 ↔ ms = 0 ∧ (kf.keyframes 1).ms = 0 := by
  obtain ⟨hpos, hlt, hms, hfirst⟩ := (kf.next_eq_some ms k).mp hk
  obtain ⟨hbefore, -, hspan⟩ := he.stretch hk
  rw [hspan]
  constructor
  · intro hzero
    -- A later stretch starts before the time, so only the first can be empty.
    have hone : k = 1 := by
      by_contra hne
      have := hfirst (k - 1) (by omega) (by omega)
      omega
    subst hone
    have h0 := he.first
    simp only [Nat.sub_self] at hbefore hzero
    omega
  · rintro ⟨rfl, hzero⟩
    have hone : k = 1 := by
      by_contra hne
      have := hfirst 1 Nat.one_pos (by omega)
      omega
    subst hone
    rw [hzero, Nat.zero_sub]

/-- At the time of the keyframe found, the curve has its value. -/
theorem Edited.reading_at (he : kf.Edited) {k : Nat} (hk : kf.next ms = some k)
    (hms : (kf.keyframes k).ms = ms) (hspan : kf.span k ≠ 0) (linear : Bool) :
    kf.reading ms linear = some ((kf.keyframes k).value : ℚ) := by
  obtain ⟨-, hgone, hlength⟩ := he.stretch hk
  have hend : kf.gone ms k = kf.span k := by rw [hgone, hlength, hms]
  have hne : (kf.span k : ℚ) ≠ 0 := Nat.cast_ne_zero.mpr hspan
  simp only [reading, hk, if_neg hspan, along, hend, div_self hne, curve_one]

/-- Later keyframes are not before earlier ones. -/
theorem Edited.mono (he : kf.Edited) {i j : Nat} (hij : i ≤ j) (hj : j < kf.count) :
    (kf.keyframes i).ms ≤ (kf.keyframes j).ms := by
  induction j with
  | zero => rw [Nat.le_zero.mp hij]
  | succ j ih =>
      rcases Nat.lt_or_ge i (j + 1) with hlt | hge
      · exact (ih (by omega) (by omega)).trans (he.sorted j hj)
      · rw [Nat.le_antisymm hij hge]

end KeyframeGroup

end Shutter

end TimelapsePlus
