import Mathlib.Data.List.Chain
import TimelapsePlus.Ptp.Modes
import TimelapsePlus.Shutter.Exposure

/-!
# Switching between Bulb and Manual Mode

An extended ramp begins with shutter speeds and goes on with timed exposures, or the
other way round. Before each frame `task` looks at the length of the one before it and
switches the camera to bulb mode if it was longer than the shortest timed exposure, or
back to manual mode if it was shorter.

The length has been kept in the status, in 16 bits. So what is looked at is the length
modulo 65536, and for a frame of more than a minute that may be on the other side of
the limit.

## Main definitions

* `RampFrame`: A frame: the camera when it begins, and the length worked out for it.
* `Ramp.modeChange`: The switch before a frame.
* `Ramp.wantedChange`: The switch a length calls for.
* `Ramp.changes`: The switches of a run.
* `Ramp.SameSide`: A length and its low 16 bits are on one side of the limit.

## Theorems

* `modeChange_eq`: The switch is the one for the number that is looked at.
* `wantedChange_u16_iff`: When the low 16 bits call for the same switch.
* `changes_eq_iff`: The switches of a run are those its lengths call for exactly when
  that is so between any two frames.
-/

namespace TimelapsePlus

namespace Shutter

open Word Ptp

/-- A frame: the camera as it is when the frame begins, `timer.current.Mode & RAMP`, and
    the `bulb_length` that is worked out for it. -/
structure RampFrame where
  device : Device
  ramp : Bool
  bulbLength : Nat

/-- The two functions that switch the mode. -/
inductive ModeChange
  | bulbMode
  | manualMode
deriving Repr, DecidableEq

namespace Ramp

variable (env : Ramp)

/-- The shortest timed exposure. -/
def bulbMinTime : Nat := env.bulbTime (i8 (bulbMinEv env.conf))

/-- The switch before a frame, for the length in the status. -/
def modeChange (f : RampFrame) (bulbLengthU16 : Nat) : Option ModeChange :=
  let camera := f.device.session.camera
  if camera.ready ∧ f.ramp ∧ env.conf.extendedRamp ∧ camera.inBulbMode = false ∧
      f.device.modeSwitch ∧ env.bulbMinTime < bulbLengthU16 then
    some .bulbMode
  else if camera.ready ∧ f.ramp ∧ env.conf.extendedRamp ∧ camera.inBulbMode ∧
      f.device.modeSwitch ∧ bulbLengthU16 < env.bulbMinTime then
    some .manualMode
  else none

/-- The switches of a run that starts with some length in the status. Each frame stores
    its own there. -/
def changes (bulbLengthU16 : Nat) : List RampFrame → List (Option ModeChange)
  | [] => []
  | f :: fs => env.modeChange f bulbLengthU16 :: changes (u16 f.bulbLength) fs

/-- The mode may be switched before a frame. -/
def MaySwitch (f : RampFrame) : Prop :=
  f.device.session.camera.ready ∧ f.ramp ∧ env.conf.extendedRamp ∧ f.device.modeSwitch

instance (f : RampFrame) : Decidable (env.MaySwitch f) := inferInstanceAs (Decidable (_ ∧ _))

/-- The switch a length calls for: to bulb mode if it is longer than the shortest timed
    exposure, to manual mode if it is shorter, and none to the mode there is. -/
def wantedChange (f : RampFrame) (bulbLength : Nat) : Option ModeChange :=
  if env.MaySwitch f then
    match compare bulbLength env.bulbMinTime with
    | .gt => if f.device.session.camera.inBulbMode then none else some .bulbMode
    | .lt => if f.device.session.camera.inBulbMode then some .manualMode else none
    | .eq => none
  else none

/-- The switches the lengths of a run call for. -/
def wantedChanges (bulbLength : Nat) : List RampFrame → List (Option ModeChange)
  | [] => []
  | f :: fs => env.wantedChange f bulbLength :: wantedChanges f.bulbLength fs

/-- The low 16 bits of a length are on the side of the limit the length is on, as far as
    a frame cares: from manual mode it is left upward, from bulb mode downward. -/
def SameSide (f : RampFrame) (bulbLength : Nat) : Prop :=
  env.MaySwitch f →
    if f.device.session.camera.inBulbMode then
      bulbLength < env.bulbMinTime ∨ env.bulbMinTime ≤ u16 bulbLength
    else bulbLength ≤ env.bulbMinTime ∨ env.bulbMinTime < u16 bulbLength

variable {env} {f : RampFrame}

/-- What a length calls for, by the side of the limit it is on. -/
theorem wantedChange_of_may (hmay : env.MaySwitch f) (n : Nat) : env.wantedChange f n =
    if f.device.session.camera.inBulbMode then
      if n < env.bulbMinTime then some .manualMode else none
    else if env.bulbMinTime < n then some .bulbMode else none := by
  unfold wantedChange
  rw [if_pos hmay]
  rcases Nat.lt_trichotomy n env.bulbMinTime with hlt | heq | hgt
  · have hnot : ¬ env.bulbMinTime < n := by omega
    simp only [Nat.compare_eq_lt.mpr hlt, hlt, hnot, if_true, if_false]
  · have hnot : ¬ n < env.bulbMinTime ∧ ¬ env.bulbMinTime < n := by omega
    simp only [Nat.compare_eq_eq.mpr heq, hnot.1, hnot.2, if_false, ite_self]
  · have hnot : ¬ n < env.bulbMinTime := by omega
    simp only [Nat.compare_eq_gt.mpr hgt, hgt, hnot, if_true, if_false]

/-- The switch is the one for the number in the status. -/
theorem modeChange_eq (n : Nat) : env.modeChange f n = env.wantedChange f n := by
  by_cases hmay : env.MaySwitch f
  · have hall := hmay
    rcases hall with ⟨hready, hramp, hextended, hswitch⟩
    rw [wantedChange_of_may hmay]
    unfold modeChange
    cases hbulb : f.device.session.camera.inBulbMode with
    | false =>
        simp only [hready, hramp, hextended, hswitch, hbulb, true_and, Bool.false_eq_true,
          false_and, if_false]
    | true =>
        simp only [hready, hramp, hextended, hswitch, hbulb, true_and, Bool.true_eq_false,
          false_and, if_false, if_true]
  · unfold modeChange wantedChange
    rw [if_neg hmay, if_neg fun h => hmay ⟨h.1, h.2.1, h.2.2.1, h.2.2.2.2.1⟩,
      if_neg fun h => hmay ⟨h.1, h.2.1, h.2.2.1, h.2.2.2.2.1⟩]

/-- When the low 16 bits call for the same switch. -/
theorem wantedChange_u16_iff (n : Nat) :
    env.wantedChange f (u16 n) = env.wantedChange f n ↔ env.SameSide f n := by
  have hle : u16 n ≤ n := Nat.mod_le n 65536
  by_cases hmay : env.MaySwitch f
  · rw [wantedChange_of_may hmay, wantedChange_of_may hmay]
    unfold SameSide
    cases f.device.session.camera.inBulbMode with
    | false =>
        simp only [hmay, Bool.false_eq_true, if_false, forall_const]
        split
        · split
          · simp only [true_iff]
            omega
          · omega
        · split
          · simp only [reduceCtorEq, false_iff]
            omega
          · simp only [true_iff]
            omega
    | true =>
        simp only [hmay, if_true, forall_const]
        split
        · split
          · simp only [true_iff]
            omega
          · simp only [reduceCtorEq, false_iff]
            omega
        · split
          · omega
          · simp only [true_iff]
            omega
  · unfold wantedChange SameSide
    rw [if_neg hmay, if_neg hmay]
    exact ⟨fun _ h => absurd h hmay, fun _ => rfl⟩

/-- The switches from a frame on, whose length has been stored in the status. -/
theorem changes_u16_eq_iff (n : Nat) (fs : List RampFrame) :
    env.changes (u16 n) fs = env.wantedChanges n fs ↔
      (∀ g ∈ fs.head?, env.SameSide g n) ∧
        fs.IsChain fun f g => env.SameSide g f.bulbLength := by
  induction fs generalizing n with
  | nil => exact ⟨fun _ => ⟨fun g hg => absurd hg (by simp), .nil⟩, fun _ => rfl⟩
  | cons f fs ih =>
      unfold changes wantedChanges
      rw [List.cons.injEq, modeChange_eq, wantedChange_u16_iff, ih, List.isChain_cons,
        List.head?_cons]
      simp only [Option.mem_def, Option.some.injEq, forall_eq']

/-- The switches of a run are those for its real lengths exactly when no length is on
    another side than its low 16 bits. -/
theorem changes_eq_iff (env : Ramp) (start : Nat) (fs : List RampFrame) :
    env.changes start fs = env.wantedChanges start fs ↔
      fs.IsChain fun f g => env.SameSide g f.bulbLength := by
  cases fs with
  | nil => exact ⟨fun _ => .nil, fun _ => rfl⟩
  | cons f fs =>
      unfold changes wantedChanges
      rw [List.cons.injEq, modeChange_eq, changes_u16_eq_iff, List.isChain_cons]
      exact and_iff_right rfl

end Ramp

/-- An extended ramp with a camera that is in bulb mode. -/
def extendedRamp : Ramp where
  conf := { Settings.factory with extendedRamp := true }
  camera := Camera.fresh .nikon
  bulbMax := 0
  shiftBulb := shiftThirds

def bulbDevice : Device :=
  { Device.powerUp with
    session.camera := { Camera.fresh .nikon with modePTP := 4 }
    modeSwitch := true }

/-- After a frame of 65536 milliseconds the camera is taken out of bulb mode. -/
theorem changes_not_wanted :
    ¬ ∀ (env : Ramp) (start : Nat) (fs : List RampFrame), (∀ f ∈ fs, f.bulbLength < 4294967296) →
      env.changes start fs = env.wantedChanges start fs := by
  intro hall
  have heq := hall extendedRamp 1000 [⟨bulbDevice, true, 65536⟩, ⟨bulbDevice, true, 65536⟩]
    (by decide)
  have hchanges : extendedRamp.changes 1000
      [⟨bulbDevice, true, 65536⟩, ⟨bulbDevice, true, 65536⟩] = [none, some .manualMode] := rfl
  have hwanted : extendedRamp.wantedChanges 1000
      [⟨bulbDevice, true, 65536⟩, ⟨bulbDevice, true, 65536⟩] = [none, none] := rfl
  rw [hchanges, hwanted] at heq
  exact absurd heq (by decide)

end Shutter

end TimelapsePlus
