import TimelapsePlus.Ptp.Access
import TimelapsePlus.Shutter.BulbLimit
import TimelapsePlus.Shutter.Ramping

/-!
# The Limits of a Ramp

How far a ramp may go is a sum of up to four ranges: from the length, the ISO and the
aperture it starts with to the last of each, and what a filter takes. The values are
bytes without a sign, the ranges and the sum are bytes with one.

Storing a number in such a byte only takes multiples of 256 from it, and so it does
not matter where in the sum it is done. The sum is right when it fits as a whole. It
need not: a filter is set with three digits, and a camera that chooses the ISO itself
says so with a value of 254.

## Main definitions

* `Ramp.limits`: What the limits are worked out from, for a camera and a timer.
* `RampSettings.calcRampTarget`: How far it is to the night exposure.
* `RampSettings.sumMax`, `sumMin`, `sumTarget`: The sums as they should be.
* `RampSettings.Exact`: They are what is calculated, and the ramp starts within them.
* `RampSettings.Fits`: They fit a byte with a sign.

## Theorems

* `i8_eq_self_iff`: What a byte with a sign holds.
* `calcRampMax_eq`, `calcRampMin_eq`, `calcRampTarget_eq`: What is calculated is the sum
  in such a byte.
* `Within.signs`: Values within their limits have ranges of no sign.
-/

namespace TimelapsePlus

namespace Shutter

open Word Ptp

/-- The limits among the settings, as the lookups of the camera read them. -/
def Settings.bounds (conf : Settings) : Access.Limits :=
  ⟨conf.isoMax, conf.apertureMax, conf.apertureMin, conf.camera.bulbMin⟩

/-- What the limits are worked out from. The lookups are those of the camera's lists, and
    every mode of a ramp has the bulb length in it. -/
def Ramp.limits (env : Ramp) (brampGap : Nat) (t : RampClock) (bulbStart nightND : Nat) :
    RampSettings :=
  let bounds := env.conf.bounds
  let camera := env.camera
  { bulb := true
    iso := env.conf.brampMode.iso
    aperture := env.conf.brampMode.aperture
    extendedRamp := env.conf.extendedRamp
    ready := camera.ready
    supportsIso := camera.supports.iso
    supportsAperture := camera.supports.aperture
    bulbStart := bulbStart
    bulbMaxEv := (env.calcBulbMax brampGap t).maxEv
    bulbMin := bulbMinEv env.conf
    isoNow := camera.iso
    isoMax := (Access.isoMax bounds camera.isoAvail.count).run (Access.cell camera.isoAvail)
    isoMin := (Access.isoMin camera.isoAvail.count).run (Access.cell camera.isoAvail)
    apertureNow := camera.aperture
    apertureMin :=
      (Access.apertureMin bounds camera.apertureAvail.count).run (Access.cell camera.apertureAvail)
    apertureMax :=
      (Access.apertureMax bounds camera.apertureAvail.count).run (Access.cell camera.apertureAvail)
    nightND := nightND }

namespace RampSettings

variable (c : RampSettings)

/-- `calcRampTarget`. -/
def calcRampTarget (targetShutter targetISO targetAperture : Int) : Int :=
  let bulbRange := if c.bulb then i8 (i8 c.bulbStart - targetShutter) else 0
  let isoRange := if c.iso then i8 (i8 c.isoNow - targetISO) else 0
  let apertureRange := if c.aperture then i8 (i8 c.apertureNow - targetAperture) else 0
  i8 (isoRange + apertureRange + bulbRange)

/-- A range that is counted or left out. -/
def counted (used : Bool) (range : Int) : Int := if used then range else 0

/-- How far the ramp may go up. -/
def sumMax : Int :=
  counted c.iso (c.isoNow - c.isoMax) + counted c.aperture (c.apertureNow - c.apertureMin) +
    counted c.bulb (c.bulbStart - c.bulbMaxEv) + (c.nightND * 3 / 10 : Nat)

/-- The shortest exposure of the ramp. -/
def shortestEv : Int :=
  if c.extendedRamp && c.ready then maxExtendedRampShutter else c.bulbMin

/-- How far it may go down. -/
def sumMin : Int :=
  -(counted (c.iso && c.supportsIso) (c.isoMin - c.isoNow) +
    counted (c.aperture && c.supportsAperture) (c.apertureMax - c.apertureNow) +
    counted c.bulb (c.shortestEv - c.bulbStart))

/-- How far it is to the night exposure. -/
def sumTarget (targetShutter targetISO targetAperture : Int) : Int :=
  counted c.iso (c.isoNow - targetISO) + counted c.aperture (c.apertureNow - targetAperture) +
    counted c.bulb (c.bulbStart - targetShutter)

/-- The settings the ramp starts with are within their own limits. -/
structure Within : Prop where
  iso : c.isoMax ≤ c.isoNow ∧ c.isoNow ≤ c.isoMin
  aperture : c.apertureMin ≤ c.apertureNow ∧ c.apertureNow ≤ c.apertureMax
  bulb : c.bulbMaxEv ≤ c.bulbStart ∧ (c.bulbStart : Int) ≤ c.shortestEv

/-- The limits are the sums of their ranges, and the ramp starts between them. -/
structure Exact (targetShutter targetISO targetAperture : Int) : Prop where
  max : c.calcRampMax = c.sumMax
  min : c.calcRampMin = c.sumMin
  target : c.calcRampTarget targetShutter targetISO targetAperture =
    c.sumTarget targetShutter targetISO targetAperture
  between : c.Within → c.calcRampMin ≤ 0 ∧ 0 ≤ c.calcRampMax

/-- A number a byte with a sign can hold. -/
def ByteSized (z : Int) : Prop := -128 ≤ z ∧ z ≤ 127

/-- The sums do not need more than such a byte. -/
structure Fits (targetShutter targetISO targetAperture : Int) : Prop where
  max : ByteSized c.sumMax
  min : ByteSized c.sumMin
  target : ByteSized (c.sumTarget targetShutter targetISO targetAperture)

theorem i8_eq_self_iff {z : Int} : i8 z = z ↔ ByteSized z := by
  constructor
  · intro h
    rw [← h]
    exact i8_mem z
  · exact fun h => i8_of_mem h.1 h.2

/-- A range in a byte. -/
theorem counted_i8 (used : Bool) (z : Int) :
    (if used then i8 z else 0) = i8 (counted used z) := by
  cases used with
  | false => rfl
  | true => rfl

theorem apart_eq (a b : Nat) : apart a b = i8 (a - b) := by
  unfold apart i8
  rw [Int.bmod_sub_bmod, Int.sub_bmod_bmod]

/-- It does not matter whether the summands are stored in bytes before they are added. -/
theorem i8_add_i8s (x y z w : Int) : i8 (i8 x + i8 y + i8 z + w) = i8 (x + y + z + w) := by
  calc i8 (i8 x + i8 y + i8 z + w) = i8 (i8 x + (i8 y + i8 z + w)) := by ring_nf
    _ = i8 (x + (i8 y + i8 z + w)) := i8_add_i8 _ _
    _ = i8 (i8 y + (i8 z + (x + w))) := by ring_nf
    _ = i8 (y + (i8 z + (x + w))) := i8_add_i8 _ _
    _ = i8 (i8 z + (x + y + w)) := by ring_nf
    _ = i8 (z + (x + y + w)) := i8_add_i8 _ _
    _ = i8 (x + y + z + w) := by ring_nf

theorem i8_neg_i8 (z : Int) : i8 (-i8 z) = i8 (-z) := by
  rw [← zero_sub, ← zero_sub]
  unfold i8
  exact Int.sub_bmod_bmod

/-- What is calculated is the sum in a byte. -/
theorem calcRampMax_eq : c.calcRampMax = i8 c.sumMax := by
  unfold calcRampMax sumMax
  simp only [apart_eq, counted_i8]
  rw [i8_add_i8s, add_comm, i8_add_i8, add_comm]

theorem calcRampMin_eq : c.calcRampMin = i8 c.sumMin := by
  have hbulb : (if c.extendedRamp && c.ready then i8 (i8 maxExtendedRampShutter - i8 c.bulbStart)
      else apart c.bulbMin c.bulbStart) = i8 (c.shortestEv - c.bulbStart) := by
    unfold shortestEv
    split
    · unfold i8
      rw [Int.bmod_sub_bmod, Int.sub_bmod_bmod]
    · exact apart_eq _ _
  have hsum := i8_add_i8s (counted (c.iso && c.supportsIso) (c.isoMin - c.isoNow))
    (counted (c.aperture && c.supportsAperture) (c.apertureMax - c.apertureNow))
    (counted c.bulb (c.shortestEv - c.bulbStart)) 0
  rw [add_zero, add_zero] at hsum
  unfold calcRampMin sumMin
  simp only [hbulb]
  simp only [apart_eq, counted_i8]
  rw [zero_sub, ← i8_neg_i8, hsum, i8_neg_i8]

theorem calcRampTarget_eq (targetShutter targetISO targetAperture : Int) :
    c.calcRampTarget targetShutter targetISO targetAperture =
      i8 (c.sumTarget targetShutter targetISO targetAperture) := by
  have hrange : ∀ (n : Nat) (target : Int), i8 (i8 n - target) = i8 (n - target) :=
    fun n target => i8_add_i8 n (-target)
  have hsum := i8_add_i8s (counted c.iso (c.isoNow - targetISO))
    (counted c.aperture (c.apertureNow - targetAperture))
    (counted c.bulb (c.bulbStart - targetShutter)) 0
  rw [add_zero, add_zero] at hsum
  unfold calcRampTarget sumTarget
  simp only [hrange, counted_i8]
  exact hsum

/-- Settings within their own limits have no range that is negative. -/
theorem Within.signs (h : c.Within) : c.sumMin ≤ 0 ∧ 0 ≤ c.sumMax := by
  have hcounted : ∀ (used : Bool) (z : Int), 0 ≤ z → 0 ≤ counted used z := by
    intro used z hz
    cases used with
    | false => exact le_rfl
    | true => exact hz
  have hiso := h.iso
  have haperture := h.aperture
  have hbulb := h.bulb
  unfold sumMin sumMax
  have h1 := hcounted c.iso (c.isoNow - c.isoMax) (by omega)
  have h2 := hcounted c.aperture (c.apertureNow - c.apertureMin) (by omega)
  have h3 := hcounted c.bulb (c.bulbStart - c.bulbMaxEv) (by omega)
  have h4 := hcounted (c.iso && c.supportsIso) (c.isoMin - c.isoNow) (by omega)
  have h5 := hcounted (c.aperture && c.supportsAperture) (c.apertureMax - c.apertureNow) (by omega)
  have h6 := hcounted c.bulb (c.shortestEv - c.bulbStart) (by omega)
  exact ⟨by omega, by omega⟩

/-- The limits are the sums of their ranges exactly when the sums fit a byte. -/
theorem exact_iff_fits (targetShutter targetISO targetAperture : Int) :
    c.Exact targetShutter targetISO targetAperture ↔
      c.Fits targetShutter targetISO targetAperture := by
  constructor
  · intro h
    refine ⟨i8_eq_self_iff.mp ?_, i8_eq_self_iff.mp ?_, i8_eq_self_iff.mp ?_⟩
    · rw [← calcRampMax_eq, h.max]
    · rw [← calcRampMin_eq, h.min]
    · rw [← calcRampTarget_eq, h.target]
  · intro h
    have hmax : c.calcRampMax = c.sumMax := c.calcRampMax_eq.trans (i8_eq_self_iff.mpr h.max)
    have hmin : c.calcRampMin = c.sumMin := c.calcRampMin_eq.trans (i8_eq_self_iff.mpr h.min)
    refine ⟨hmax, hmin, (c.calcRampTarget_eq _ _ _).trans (i8_eq_self_iff.mpr h.target), ?_⟩
    intro hwithin
    rw [hmax, hmin]
    exact hwithin.signs

end RampSettings

/-- The limits of a ramp do not wrap for some settings and no others. -/
theorem rampLimits_exact_iff (env : Ramp) (brampGap : Nat) (t : RampClock)
    (bulbStart nightND : Nat) (targetShutter targetISO targetAperture : Int) :
    (env.limits brampGap t bulbStart nightND).Exact targetShutter targetISO targetAperture ↔
      (env.limits brampGap t bulbStart nightND).Fits targetShutter targetISO targetAperture :=
  RampSettings.exact_iff_fits _ _ _ _

/-- With a filter of the largest number the menu takes, a ramp that could go 313 thirds up
    is said to go 57. -/
theorem rampLimits_not_exact :
    ¬ ∀ (env : Ramp) (brampGap : Nat) (t : RampClock) (bulbStart nightND : Nat)
      (targetShutter targetISO targetAperture : Int), nightND < 1000 →
      (env.limits brampGap t bulbStart nightND).Exact targetShutter targetISO targetAperture := by
  intro hall
  have hexact := hall factoryRamp 6 ⟨false, .fixed, 0, 600⟩ 40 999 40 43 8 (by decide)
  have hmax : (factoryRamp.limits 6 ⟨false, .fixed, 0, 600⟩ 40 999).calcRampMax = 57 := by
    decide +kernel
  have hsum : (factoryRamp.limits 6 ⟨false, .fixed, 0, 600⟩ 40 999).sumMax = 313 := by
    decide +kernel
  have heq := hexact.max
  rw [hmax, hsum] at heq
  exact absurd heq (by decide)

end Shutter

end TimelapsePlus
