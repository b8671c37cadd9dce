import Mathlib.Algebra.Order.Field.Rat
import Mathlib.Data.Nat.Notation
import TimelapsePlus.Lib.Run

/-!
# The Light Sensor's Samples

During an exposure ramp the light is sampled at a fixed period, and the last 32
samples give the reading and the slope the ramp follows. `Light::task` decides by
`Clock::Seconds` whether a sample is due: none has been taken yet, or the clock has
gone on by more than the period since the second the last one was taken in. That
no sample has been taken is remembered as second zero.

Readings are what the sensor gives, and come with the call. Arithmetic on them is
exact where the code has `float`, and the integration time is not zero, as none of
the settings is.

## Main definitions

* `arrayMedian50`: The average of the middle half of an array.
* `Light`: The state of the sampler.
* `Light.period`: The seconds between samples.
* `Light.Due`: A sample is due.
* `Light.store`: A sample is stored, and what is derived from the samples.
* `Light.task`, `Light.integrationStart`, `Light.stop`: The functions.

## Theorems

* `task_due`, `task_grace`, `task_waiting`: What a call does.
-/

namespace TimelapsePlus

namespace Shutter

/-- The average of what is left of an array when a quarter of it is taken off at
    either end of its order. -/
def arrayMedian50 (array : List ℚ) : ℚ :=
  let sorted := array.mergeSort
  let quarter := array.length / 4
  let middle := (sorted.drop quarter).take (array.length - quarter - quarter)
  middle.sum / middle.length

/-- The state of the sampler. -/
structure Light where
  initialized : Bool
  integrationActive : Bool
  paused : Bool
  skipTask : Bool
  wasPaused : Nat
  integration : Nat
  lastSeconds : Nat
  iev : List ℚ
  slope : ℚ
  lockedSlope : ℚ
  median : ℚ
  integrated : ℚ
  underThreshold : Bool

namespace Light

/-- `LIGHT_INTEGRATION_COUNT`. -/
def integrationCount : Nat := 32

/-- The sampler before its first use. -/
def off : Light where
  initialized := false
  integrationActive := false
  paused := false
  skipTask := false
  wasPaused := 0
  integration := 0
  lastSeconds := 0
  iev := []
  slope := 0
  lockedSlope := 0
  median := 0
  integrated := 0
  underThreshold := false

/-- The seconds between samples. -/
def period (l : Light) : Nat := l.integration * 60 / integrationCount

/-- The slope of the samples, in stops an hour. -/
def readIntegratedSlopeMedian (integrationActive : Bool) (iev : List ℚ) (integration : Nat) : ℚ :=
  if integrationActive then
    arrayMedian50 (List.zipWith
      (fun a b => (a - b) / ((integration : ℚ) / integrationCount)) iev iev.tail) * (60 / 3)
  else 0

/-- A sample is stored in place of the oldest, and the slope, the threshold and the
    averages follow. -/
def store (l : Light) (seconds : Nat) (ev : ℚ) : Light :=
  let iev := l.iev.tail ++ [ev]
  let slope := readIntegratedSlopeMedian l.integrationActive iev l.integration
  let night := decide (ev ≤ 20)
  let day := decide (20 + 5 < ev)
  { l with
    lastSeconds := seconds
    iev := iev
    slope := slope
    underThreshold := if night then true else if day then false else l.underThreshold
    lockedSlope :=
      if night then (if l.lockedSlope = 0 ∧ slope ≠ 0 then slope else l.lockedSlope)
      else if day then 0 else l.lockedSlope
    median := arrayMedian50 iev
    integrated := iev.sum / integrationCount }

/-- A sample is due: none has been taken, or the clock has gone on by more than the
    period. -/
def Due (l : Light) (seconds : Nat) : Prop :=
  l.lastSeconds = 0 ∨ l.lastSeconds + l.period < seconds

instance (l : Light) (seconds : Nat) : Decidable (l.Due seconds) :=
  inferInstanceAs (Decidable (_ ∨ _))

/-- `Light::task`, with the reading it would take. -/
def task (l : Light) (seconds : Nat) (ev : ℚ) : Light :=
  if ¬ (l.initialized = true ∧ l.integrationActive = true) then l
  else if l.skipTask = true then l
  else if l.paused = true then { l with wasPaused := 5 }
  else if 0 < l.wasPaused then { l with wasPaused := l.wasPaused - 1 }
  else if l.Due seconds then l.store seconds ev
  else l

/-- `Light::integrationStart`, with the readings it fills the array with. -/
def integrationStart (l : Light) (minutes : Nat) (readings : List ℚ) (seconds : Nat) (ev : ℚ) :
    Light :=
  let first := readings.headD 0
  task
    { l with
      initialized := true
      paused := false
      integration := minutes
      lastSeconds := 0
      iev := readings
      integrationActive := true
      slope := 0
      median := first
      integrated := first
      lockedSlope := 0 }
    seconds ev

/-- `Light::stop`. -/
def stop (l : Light) : Light :=
  { l with
    initialized := false
    integrationActive := false
    paused := false
    lastSeconds := 0
    lockedSlope := 0 }

/-- The sampler samples: it is integrating, and neither paused nor suspended while a
    bulb is timed. -/
structure Live (l : Light) : Prop where
  active : l.integrationActive = true
  awake : l.paused = false
  reading : l.skipTask = false

instance (l : Light) : Decidable l.Live :=
  decidable_of_iff (l.integrationActive = true ∧ l.paused = false ∧ l.skipTask = false)
    ⟨fun h => ⟨h.1, h.2.1, h.2.2⟩, fun h => ⟨h.active, h.awake, h.reading⟩⟩

variable {l : Light} {seconds : Nat} {ev : ℚ}

/-- Storing a sample leaves the sampler in its mode. -/
@[simp] theorem store_live : (l.store seconds ev).Live ↔ l.Live := by
  constructor
  · intro h
    exact ⟨h.active, h.awake, h.reading⟩
  · intro h
    exact ⟨h.active, h.awake, h.reading⟩

/-- For some calls after a pause a live sampler only counts them. -/
theorem task_grace (hlive : l.Live) (hinit : l.initialized = true) (hgrace : 0 < l.wasPaused) :
    l.task seconds ev = { l with wasPaused := l.wasPaused - 1 } := by
  unfold task
  rw [if_neg (not_not.mpr ⟨hinit, hlive.active⟩),
    if_neg (by rw [hlive.reading]; exact Bool.false_ne_true),
    if_neg (by rw [hlive.awake]; exact Bool.false_ne_true), if_pos hgrace]

/-- A live sampler stores a sample that is due. -/
theorem task_due (hlive : l.Live) (hinit : l.initialized = true) (hgrace : l.wasPaused = 0)
    (hdue : l.Due seconds) : l.task seconds ev = l.store seconds ev := by
  unfold task
  rw [if_neg (not_not.mpr ⟨hinit, hlive.active⟩),
    if_neg (by rw [hlive.reading]; exact Bool.false_ne_true),
    if_neg (by rw [hlive.awake]; exact Bool.false_ne_true),
    if_neg (by rw [hgrace]; exact Nat.lt_irrefl 0), if_pos hdue]

/-- It leaves alone what is not due. -/
theorem task_waiting (hlive : l.Live) (hinit : l.initialized = true) (hgrace : l.wasPaused = 0)
    (hdue : ¬ l.Due seconds) : l.task seconds ev = l := by
  unfold task
  rw [if_neg (not_not.mpr ⟨hinit, hlive.active⟩),
    if_neg (by rw [hlive.reading]; exact Bool.false_ne_true),
    if_neg (by rw [hlive.awake]; exact Bool.false_ne_true),
    if_neg (by rw [hgrace]; exact Nat.lt_irrefl 0), if_neg hdue]

/-- A sampler that is not live stores nothing. -/
theorem task_idle (hlive : ¬ l.Live) :
    l.task seconds ev = l ∨ l.paused = true ∧ l.task seconds ev = { l with wasPaused := 5 } := by
  unfold task
  by_cases hon : l.initialized = true ∧ l.integrationActive = true
  · rw [if_neg (not_not.mpr hon)]
    by_cases hskip : l.skipTask = true
    · exact .inl (if_pos hskip)
    · rw [if_neg hskip]
      by_cases hpaused : l.paused = true
      · exact .inr ⟨hpaused, if_pos hpaused⟩
      · exact absurd ⟨hon.2, Bool.not_eq_true _ ▸ hpaused, Bool.not_eq_true _ ▸ hskip⟩ hlive
  · exact .inl (if_pos hon)

end Light

end Shutter

end TimelapsePlus
