import TimelapsePlus.Shutter.Exposure
import TimelapsePlus.Shutter.Interval

/-!
# The Longest Exposure of an Interval

`calcBulbMax` leaves a gap between two frames. The time between frames and the gap
are tenths of a second in words of 16 bits, and so is their difference in
milliseconds, although it is stored in a word of 32: it is the difference modulo
65536. The scan then goes through the lengths of timed exposures, longest first, and
stops at the first that is not longer.

An interval shorter than the gap, and one that leaves more than a minute, come out as
some length below 65.5 seconds. The scan ends before the shortest length, so that an
interval with room for no other keeps the difference as it is.

## Main definitions

* `RampClock`: The time between frames.
* `calcBulbMax`: The longest exposure and its value.
* `room`: The time there is for an exposure.
* `KeepsGap`: The longest exposure leaves the gap, and is one of the lengths.
* `GapFits`: The intervals for which it does.

## Theorems

* `bulbProduct_eq`: What the words hold.
* `bulbTime_listed`, `bulbTime_anti`, `bulbTime_pos`: The lengths of timed exposures.
* `calcBulbMax_cases`: Where the scan stops.
* `isLongest_found_iff`, `isLongest_none_iff`: When what it stops with is the longest
  that leaves the gap.
-/

namespace TimelapsePlus

namespace Shutter

open Word Ptp

/-- What the time between two frames is taken from. -/
structure RampClock where
  running : Bool
  intervalMode : IntervalMode
  interval : Nat
  gap : Nat
deriving Repr, DecidableEq

/-- The time between two frames, in tenths of a second: the interval of the keyframes, or
    the one that was set. -/
def RampClock.tenths (t : RampClock) : Nat :=
  if t.running ∧ t.intervalMode = .keyframe then t.interval else t.gap

/-- The difference to the gap, in milliseconds. `BRAMP_GAP_PADDING` is unsigned, and so
    is what is worked out with it. -/
def bulbProduct (brampGap tenths : Nat) : Nat :=
  u16 (sub16 tenths (u16 (brampGap * 10)) * 100)

/-- `BulbMax` and `BulbMaxEv`. -/
structure BulbLimit where
  bulbMax : Nat
  maxEv : Nat
deriving Repr, DecidableEq

namespace Ramp

variable (env : Ramp)

/-- `calcBulbMax`. -/
def calcBulbMax (brampGap : Nat) (t : RampClock) : BulbLimit :=
  let product := bulbProduct brampGap t.tenths
  let values := List.range' bulbMaxEv (bulbMinEv env.conf - bulbMaxEv)
  match values.find? fun i : Nat => decide (env.bulbTime i ≤ product) with
  | some i =>
      let ev := max i 1
      ⟨env.bulbTime ev, ev⟩
  | none => ⟨product, 1⟩

end Ramp

/-- What the gap leaves of an interval, in milliseconds, or less than nothing. -/
def rest (brampGap tenths : Nat) : Int := 100 * ((tenths : Int) - 10 * brampGap)

/-- The time there is for an exposure. -/
def room (brampGap tenths : Nat) : Int := max 0 (rest brampGap tenths)

/-- A value is one of those a timed exposure may have. -/
def TimedEv (conf : Settings) (e : Nat) : Prop := bulbMaxEv ≤ e ∧ e ≤ bulbMinEv conf

namespace Ramp

variable (env : Ramp)

/-- The longest exposure leaves the gap, and it is the longest timed exposure that
    does, if there is any. -/
def KeepsGap (brampGap : Nat) (t : RampClock) : Prop :=
  ((env.calcBulbMax brampGap t).bulbMax : Int) ≤ room brampGap t.tenths ∧
    ∀ e : Nat, TimedEv env.conf e → (env.bulbTime e : Int) ≤ room brampGap t.tenths →
      (∀ e' : Nat, TimedEv env.conf e' → (env.bulbTime e' : Int) ≤ room brampGap t.tenths →
        env.bulbTime e' ≤ env.bulbTime e) →
      (env.calcBulbMax brampGap t).bulbMax = env.bulbTime e

/-- The intervals for which it does. With room for an exposure there is no length
    between what the gap leaves and that modulo 65536, and what is left modulo 65536 is
    not between the two shortest lengths; without any it comes to nothing modulo 65536. -/
def GapFits (brampGap tenths : Nat) : Prop :=
  (rest brampGap tenths < 0 ∧ rest brampGap tenths % 65536 = 0) ∨
    (0 ≤ rest brampGap tenths ∧
      (∀ e : Nat, TimedEv env.conf e →
        ¬ (rest brampGap tenths % 65536 < env.bulbTime e ∧
          (env.bulbTime e : Int) ≤ rest brampGap tenths)) ∧
      (bulbMaxEv < bulbMinEv env.conf →
        ¬ (env.bulbTime (bulbMinEv env.conf) < rest brampGap tenths % 65536 ∧
          rest brampGap tenths % 65536 < env.bulbTime ((bulbMinEv env.conf - 1 : Nat)))))

end Ramp

/-- The words hold what is left modulo 65536. -/
theorem bulbProduct_eq (brampGap tenths : Nat) :
    (bulbProduct brampGap tenths : Int) = rest brampGap tenths % 65536 := by
  unfold bulbProduct sub16 u16 rest
  omega

/-! ### The lengths -/

/-- The length of a value in the list. -/
def listedMs (e : Nat) : Nat :=
  ((bulbList.find? fun d => decide ((d.ev : Int) = e)).map BulbSettings.ms).getD 0

/-- Each value is in the list, with a length, and the next has a shorter one. -/
theorem listedMs_row : ∀ e < 62, bulbMaxEv ≤ e →
    (bulbList.find? fun d => decide ((d.ev : Int) = e)).map BulbSettings.ms =
      some (listedMs e) ∧
    0 < listedMs e ∧ (e < 61 → listedMs (e + 1) < listedMs e) := by
  decide +kernel

/-- The higher the value, the shorter it is. -/
theorem listedMs_anti {e e' : Nat} (he : e < 62) (hlt : e' < e) (h : bulbMaxEv ≤ e') :
    listedMs e < listedMs e' := by
  induction e, hlt using Nat.le_induction with
  | base => exact (listedMs_row e' (by omega) h).2.2 (by omega)
  | succ e hle ih =>
      exact ((listedMs_row e (by omega) (by omega)).2.2 (by omega)).trans (ih (by omega))

namespace Ramp

variable {env : Ramp} {e e' : Nat}

theorem bulbTime_listed (h : TimedEv env.conf e) : env.bulbTime e = listedMs e := by
  have hmin : bulbMinEv env.conf ≤ 61 := Nat.min_le_left _ _
  have hle : ¬ ((bulbMinEv env.conf : Int) < e) := by
    have hhi := h.2
    omega
  have hpos : ¬ ((e : Int) = 0) := by
    have hlo : 4 ≤ e := h.1
    omega
  unfold bulbTime listedTime
  rw [if_neg hpos, if_neg hle, (listedMs_row e (by have hhi := h.2; omega) h.1).1]

/-- Larger values are shorter. -/
theorem bulbTime_anti (h : TimedEv env.conf e) (h' : TimedEv env.conf e') (hlt : e' < e) :
    env.bulbTime e < env.bulbTime e' := by
  have hmin : bulbMinEv env.conf ≤ 61 := Nat.min_le_left _ _
  rw [bulbTime_listed h, bulbTime_listed h']
  exact listedMs_anti (by have hhi := h.2; omega) hlt h'.1

theorem bulbTime_pos (h : TimedEv env.conf e) : 0 < env.bulbTime e := by
  have hmin : bulbMinEv env.conf ≤ 61 := Nat.min_le_left _ _
  rw [bulbTime_listed h]
  exact (listedMs_row e (by have hhi := h.2; omega) h.1).2.1

/-- Values are in the order of their lengths. -/
theorem le_of_bulbTime_le (h : TimedEv env.conf e) (h' : TimedEv env.conf e')
    (hle : env.bulbTime e ≤ env.bulbTime e') : e' ≤ e := by
  by_contra hlt
  have hanti := bulbTime_anti h' h (by omega)
  omega

/-- The scan stops at the longest exposure that is not longer than the product, the last
    value left out, or goes through all. -/
theorem calcBulbMax_cases (env : Ramp) (brampGap : Nat) (t : RampClock) :
    (∃ i, bulbMaxEv ≤ i ∧ i < bulbMinEv env.conf ∧
        env.bulbTime i ≤ bulbProduct brampGap t.tenths ∧
        (∀ j : Nat, bulbMaxEv ≤ j → j < i → bulbProduct brampGap t.tenths < env.bulbTime j) ∧
        env.calcBulbMax brampGap t = ⟨env.bulbTime i, i⟩) ∨
      ((∀ j : Nat, bulbMaxEv ≤ j → j < bulbMinEv env.conf →
          bulbProduct brampGap t.tenths < env.bulbTime j) ∧
        env.calcBulbMax brampGap t = ⟨bulbProduct brampGap t.tenths, 1⟩) := by
  unfold calcBulbMax
  cases hfind : (List.range' bulbMaxEv (bulbMinEv env.conf - bulbMaxEv)).find? fun i : Nat =>
      decide (env.bulbTime i ≤ bulbProduct brampGap t.tenths) with
  | some i =>
      rcases List.find?_range'_eq_some.mp hfind with ⟨hle, hmem, hbefore⟩
      rw [List.mem_range'_1] at hmem
      have hone : max i 1 = i := Nat.max_eq_left (by have hlo : 4 ≤ i := hmem.1; omega)
      refine Or.inl ⟨i, hmem.1, by omega, of_decide_eq_true hle, fun j hlo hlt => ?_, ?_⟩
      · have hj := hbefore j hlo hlt
        rw [Bool.not_eq_true', decide_eq_false_iff_not] at hj
        exact Nat.lt_of_not_le hj
      · simp only [hfind, hone]
  | none =>
      refine Or.inr ⟨fun j hlo hlt => ?_, by simp only [hfind]⟩
      have hj := List.find?_eq_none.mp hfind j (List.mem_range'_1.mpr ⟨hlo, by omega⟩)
      rw [decide_eq_true_eq] at hj
      exact Nat.lt_of_not_le hj

/-- With some length short enough there is a longest. -/
theorem exists_longest (limit : Int) (h : TimedEv env.conf e)
    (hle : (env.bulbTime e : Int) ≤ limit) :
    ∃ k, TimedEv env.conf k ∧ (env.bulbTime k : Int) ≤ limit ∧ k ≤ e ∧
      ∀ e' : Nat, TimedEv env.conf e' → (env.bulbTime e' : Int) ≤ limit →
        env.bulbTime e' ≤ env.bulbTime k := by
  classical
  have hex : ∃ k : Nat, TimedEv env.conf k ∧ (env.bulbTime k : Int) ≤ limit := ⟨e, h, hle⟩
  have hspec := Nat.find_spec hex
  refine ⟨Nat.find hex, hspec.1, hspec.2, Nat.find_min' hex ⟨h, hle⟩, fun e' he' hle' => ?_⟩
  -- The least value is the longest.
  rcases Nat.lt_or_eq_of_le (Nat.find_min' hex ⟨he', hle'⟩) with hlt | heq
  · exact (bulbTime_anti he' hspec.1 hlt).le
  · rw [← heq]

/-- A length is the longest of a timed exposure that `left` leaves, if there is any. -/
def IsLongest (env : Ramp) (left : Int) (limit : Nat) : Prop :=
  (limit : Int) ≤ max 0 left ∧ ∀ e : Nat, TimedEv env.conf e →
    (env.bulbTime e : Int) ≤ max 0 left →
    (∀ e' : Nat, TimedEv env.conf e' → (env.bulbTime e' : Int) ≤ max 0 left →
      env.bulbTime e' ≤ env.bulbTime e) → limit = env.bulbTime e

/-- There is one, and it is no shorter than another that `left` leaves. -/
theorem IsLongest.exists_eq {left : Int} {limit : Nat} (h : env.IsLongest left limit)
    (he : TimedEv env.conf e) (hle : (env.bulbTime e : Int) ≤ left) :
    ∃ k, TimedEv env.conf k ∧ k ≤ e ∧ limit = env.bulbTime k ∧ env.bulbTime e ≤ limit := by
  rcases exists_longest left he hle with ⟨k, hk, hkle, hke, hkmax⟩
  have heq : limit = env.bulbTime k :=
    h.2 k hk (by omega) fun e' he' hle' => hkmax e' he' (by omega)
  exact ⟨k, hk, hke, heq, heq ▸ hkmax e he hle⟩

section Scan

variable {brampGap tenths product : Nat} (hproduct : (product : Int) = rest brampGap tenths % 65536)

include hproduct

/-- The scan has found a length. -/
theorem isLongest_found_iff {i : Nat} (hi : TimedEv env.conf i) (hlt : i < bulbMinEv env.conf)
    (hle : env.bulbTime i ≤ product)
    (hbefore : ∀ j : Nat, bulbMaxEv ≤ j → j < i → product < env.bulbTime j) :
    env.IsLongest (rest brampGap tenths) (env.bulbTime i) ↔ env.GapFits brampGap tenths := by
  have hlo := hi.1
  have hpos := bulbTime_pos hi
  unfold GapFits
  generalize rest brampGap tenths = left at *
  constructor
  · intro h
    have hroom := h.1
    refine Or.inr ⟨by omega, fun e he hbetween => ?_, fun _ hbetween => ?_⟩
    · rcases h.exists_eq he hbetween.2 with ⟨k, hk, hke, hik, hek⟩
      omega
    · have hlast : env.bulbTime ((bulbMinEv env.conf - 1 : Nat)) ≤ env.bulbTime i := by
        rcases Nat.lt_or_eq_of_le (Nat.le_sub_one_of_lt hlt) with h | h
        · exact (bulbTime_anti ⟨by omega, Nat.sub_le _ _⟩ hi h).le
        · rw [← h]
      omega
  · rintro (⟨hneg, hzero⟩ | ⟨hnonneg, hnone, _⟩)
    · omega
    · have hmod : left % 65536 ≤ left := by omega
      refine ⟨by omega, fun e he hroom hmax => ?_⟩
      have hie : env.bulbTime i ≤ env.bulbTime e := hmax i hi (by omega)
      rcases Nat.lt_or_eq_of_le (le_of_bulbTime_le hi he hie) with h | h
      · have hbetween := hbefore e he.1 h
        exact absurd ⟨by omega, by omega⟩ (hnone e he)
      · rw [h]

/-- It has gone through all. -/
theorem isLongest_none_iff
    (hall : ∀ j : Nat, bulbMaxEv ≤ j → j < bulbMinEv env.conf → product < env.bulbTime j) :
    env.IsLongest (rest brampGap tenths) product ↔ env.GapFits brampGap tenths := by
  unfold GapFits
  generalize rest brampGap tenths = left at *
  constructor
  · intro h
    have hroom := h.1
    rcases Int.lt_or_le left 0 with hneg | hnonneg
    · exact Or.inl ⟨hneg, by omega⟩
    · refine Or.inr ⟨hnonneg, fun e he hbetween => ?_, fun hmin hbetween => ?_⟩
      · rcases h.exists_eq he hbetween.2 with ⟨k, hk, hke, hik, hek⟩
        omega
      · have hlast : TimedEv env.conf (bulbMinEv env.conf) := ⟨hmin.le, le_rfl⟩
        have hmod : left % 65536 ≤ left := by omega
        rcases h.exists_eq hlast (by omega) with ⟨k, hk, hke, hik, hek⟩
        rcases Nat.lt_or_eq_of_le hke with hbefore | hsame
        · have hbig := hall k hk.1 hbefore
          omega
        · rw [hsame] at hik
          omega
  · rintro (⟨hneg, hzero⟩ | ⟨hnonneg, hnone, hshort⟩)
    · refine ⟨by omega, fun e he hroom _ => ?_⟩
      have hpos := bulbTime_pos he
      omega
    · have hmod : left % 65536 ≤ left := by omega
      refine ⟨by omega, fun e he hroom _ => ?_⟩
      have hle : env.bulbTime e ≤ product := by
        by_contra hgt
        exact hnone e he ⟨by omega, by omega⟩
      have hlast : e = bulbMinEv env.conf := by
        by_contra hne
        have hbig := hall e he.1 (Nat.lt_of_le_of_ne he.2 hne)
        omega
      subst hlast
      rcases Nat.lt_or_eq_of_le he.1 with hmore | honly
      · have hbig := hall (bulbMinEv env.conf - 1) (by omega) (by omega)
        have hnot := hshort hmore
        omega
      · -- With one length only it is too long for the words.
        have htime := bulbTime_listed he
        rw [← honly, show listedMs bulbMaxEv = 8192000 from rfl, honly] at htime
        omega

end Scan

/-- `calcBulbMax` leaves the gap, with the longest exposure that does, for some intervals
    and no others. -/
theorem calcBulbMax_keeps_iff (env : Ramp) (brampGap : Nat) (t : RampClock) :
    env.KeepsGap brampGap t ↔ env.GapFits brampGap t.tenths := by
  have hproduct := bulbProduct_eq brampGap t.tenths
  change env.IsLongest (rest brampGap t.tenths) (env.calcBulbMax brampGap t).bulbMax ↔ _
  rcases calcBulbMax_cases env brampGap t with ⟨i, hlo, hlt, hle, hbefore, heq⟩ | ⟨hall, heq⟩
  · rw [heq]
    exact isLongest_found_iff hproduct ⟨hlo, hlt.le⟩ hlt hle hbefore
  · rw [heq]
    exact isLongest_none_iff hproduct hall

end Ramp

/-- The settings after a reset, with no camera. -/
def factoryRamp : Ramp := ⟨Settings.factory, Camera.fresh .nikon, 0, shiftThirds⟩

/-- A gap of 6 s leaves 66 s of an interval of 72 s, and the longest exposure comes out
    shorter than half a second. The longest that leaves the gap is 64 s. -/
theorem calcBulbMax_not_keeps :
    ¬ ∀ (env : Ramp) (brampGap : Nat) (t : RampClock), t.gap < 65536 → t.interval < 65536 →
      env.KeepsGap brampGap t := by
  intro hall
  have hkeeps := hall factoryRamp 6 ⟨false, .fixed, 0, 720⟩ (by decide) (by decide)
  have hlimit : factoryRamp.calcBulbMax 6 ⟨false, .fixed, 0, 720⟩ = ⟨397, 47⟩ := by
    decide +kernel
  have hminute : factoryRamp.bulbTime (25 : Nat) = 64000 := by decide +kernel
  have hlonger : ∀ e' < 25, bulbMaxEv ≤ e' → 66000 < factoryRamp.bulbTime (e' : Nat) := by
    decide +kernel
  have hroom : room 6 (RampClock.tenths ⟨false, .fixed, 0, 720⟩) = 66000 := by decide
  have htimed : TimedEv factoryRamp.conf 25 := ⟨by decide, by decide⟩
  have hlongest := hkeeps.2 25 htimed (by rw [hminute, hroom]; decide) fun e' he' hle' => by
    rw [hroom] at hle'
    refine Nat.le_of_not_lt fun hlt => ?_
    rcases Nat.lt_or_ge e' 25 with hbefore | hafter
    · have hlong := hlonger e' hbefore he'.1
      omega
    · rcases Nat.lt_or_eq_of_le hafter with h | rfl
      · exact absurd hlt (Ramp.bulbTime_anti he' htimed h).not_gt
      · exact lt_irrefl _ hlt
  rw [hlimit, hminute] at hlongest
  exact absurd hlongest (by decide)

end Shutter

end TimelapsePlus
