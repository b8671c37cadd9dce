import TimelapsePlus.Lib.Run
import TimelapsePlus.Shutter.Exposure

/-!
# An Exposure Ramp with Pauses

What a run of an exposure ramp carries from frame to frame: the aperture and the
ISO it has set, and `evShift`, the stops by which they differ from the run's
first frame, which the bulb length is calculated without. A pause adds to it.
While the run is paused the photographer shifts the exposure, by turning the
aperture ring or by the keys, and on resuming the shift is accepted.

A step is a call of `task`, a frame, or a key. What the step reads from outside
comes with it: the camera as it answers, the ramp's position rounded to a whole
stop, and for a frame the length asked for, which floating point arithmetic on
light readings decides. A frame also says how many rounds its loops are given,
and is no step when they are too few.

Three fields are not in the code: the aperture and ISO the run started with, and
the sum of the shifts accepted.

## Main definitions

* `Timer`: The state of a run.
* `View`: What a call of `task` reads.
* `Timer.begin`: The start of a run.
* `Timer.accept`: A shift is accepted on resuming.
* `Timer.task`: The part of `task` that pauses and resumes.
* `Label`, `Timer.step`: One step of the run.
* `Timer.Accounted`: What `evShift` should be.
-/

namespace TimelapsePlus

namespace Shutter

open Word Ptp

/-- The state of a run, between calls of `task`. -/
structure Timer where
  aperture : Nat
  iso : Nat
  evShift : Int
  apertureEvShift : Int
  aperturePausedStart : Int
  rampMax : Int
  rampMin : Int
  paused : Bool
  pausing : Nat
  apertureReady : Bool
  hasND : Bool
  showND : Bool
  apertureStart : Nat
  isoStart : Nat
  accepted : Int
deriving Repr, DecidableEq

/-- What a call of `task` reads: the camera, the camera again after an aperture
    may have been set, the ramp's position, and whether the run is a ramp, is in
    the middle of an exposure, and has come to where its filter is taken off. -/
structure View where
  camera : Camera
  cameraSet : Camera
  rampCurrent : Int
  ramp : Bool
  inBulb : Bool
  ndDue : Bool

namespace Timer

/-- A run starts: the camera's settings are read if it is there, and the ramp's
    limits are calculated. -/
def begin (t : Timer) (camera : Camera) (rampMax rampMin : Int) : Timer :=
  let aperture :=
    if camera.ready && camera.supports.aperture then camera.aperture else t.aperture
  let iso := if camera.ready && camera.supports.iso then camera.iso else t.iso
  { t with
    aperture := aperture
    iso := iso
    evShift := 0
    rampMax := rampMax
    rampMin := rampMin
    paused := false
    pausing := 0
    apertureStart := aperture
    isoStart := iso
    accepted := 0 }

/-- The run resumes, and the shift made while it was paused is accepted. -/
def accept (t : Timer) : Timer :=
  { t with
    paused := false
    pausing := 0
    evShift := i8 (t.evShift + t.apertureEvShift)
    rampMax := i8 (t.rampMax - t.apertureEvShift)
    rampMin := i8 (t.rampMin - t.apertureEvShift)
    apertureEvShift := 0
    aperturePausedStart := 0
    apertureReady := false
    accepted := t.accepted + t.apertureEvShift }

/-- This call of `task` ends the pause. -/
def Resumes (t : Timer) : Prop := t.paused = true ∧ 8 < t.pausing ∧ t.showND = false

instance (t : Timer) : Decidable t.Resumes := inferInstanceAs (Decidable (_ ∧ _ ∧ _))

/-- The end of a pause is put off for some calls, for the camera to come to
    rest, and for one more when a filter has to be taken off. -/
def resume (t : Timer) : Timer :=
  if t.Resumes then t.accept
  else if 0 < t.pausing ∧ t.paused = true then
    if 8 < t.pausing then { t with hasND := false, showND := false }
    else { t with apertureReady := false, pausing := t.pausing + 1 }
  else t

/-- While the run is paused, the shift follows the camera's aperture if there is
    one to follow, and is kept within the ramp's limits if not. -/
def whilePaused (t : Timer) (v : View) : Timer :=
  if t.aperturePausedStart = -1 ∧ v.camera.supports.aperture = true ∧ 0 < v.camera.aperture ∧
      v.camera.aperture ≠ 255 then
    { t with aperturePausedStart := i8 v.camera.aperture }
  else if v.camera.supports.aperture = true ∧ 0 < t.aperturePausedStart then
    { t with
      apertureEvShift := i8 (v.cameraSet.aperture - t.aperturePausedStart)
      apertureReady := true }
  else if t.showND then t
  else
    let darker := min t.apertureEvShift (i8 (t.rampMax - v.rampCurrent))
    { t with
      apertureReady := false
      apertureEvShift := max darker (i8 (t.rampMin - v.rampCurrent)) }

/-- A pause asked for starts between exposures. -/
def startPause (t : Timer) (v : View) : Timer :=
  if 0 < t.pausing ∧ v.inBulb = false then
    { t with
      apertureReady := false
      pausing := 0
      paused := true
      apertureEvShift := 0
      aperturePausedStart := if v.camera.supports.aperture = false ∧ v.ramp = true then -1 else 0 }
  else t

/-- The part of `task` before the running procedure. -/
def task (t : Timer) (v : View) : Timer :=
  let r := t.resume
  if r.paused then r.whilePaused v
  else
    let n := if r.hasND && v.ndDue then { r with showND := true } else r
    n.startPause v

/-- `shutter::pause`. -/
def pause (t : Timer) (p : Bool) : Timer :=
  if p then
    if t.paused then t else { t with pausing := 1 }
  else if 1 < t.pausing then t
  else { t with pausing := 1, paused := true }

/-- The keys that shift the exposure of a paused run. -/
def key (t : Timer) (up : Bool) : Timer :=
  if t.paused && !t.apertureReady && !t.showND then
    { t with apertureEvShift := i8 (if up then t.apertureEvShift - 1 else t.apertureEvShift + 1) }
  else t

/-- The exposure a frame hands to `calculateExposure`. -/
def exposure (t : Timer) (bulbLength : Nat) : Exposure :=
  ⟨bulbLength, t.aperture, t.iso, t.evShift⟩

/-- What `calculateExposure` leaves is kept. -/
def frame (t : Timer) (y : Exposure) : Timer :=
  { t with aperture := y.nextAperture, iso := y.nextISO, evShift := y.bulbChangeEv }

end Timer

/-- What happens next. -/
inductive Label
  | begin (camera : Camera) (rampMax rampMin : Int)
  | frame (env : Ramp) (bulbLength fuel : Nat)
  | task (v : View)
  | pause (p : Bool)
  | key (up : Bool)

namespace Timer

/-- One step of the run. -/
def step (t : Timer) : Label → Option Timer
  | .begin camera rampMax rampMin => some (t.begin camera rampMax rampMin)
  | .frame env bulbLength fuel =>
      (env.calculateExposure fuel (t.exposure bulbLength)).map t.frame
  | .task v => some (t.task v)
  | .pause p => some (t.pause p)
  | .key up => some (t.key up)

/-- `evShift` is the stops from the aperture and the ISO the run started with,
    and the shifts accepted. -/
def Accounted (t : Timer) : Prop :=
  t.evShift = ((t.aperture : Int) - t.apertureStart) + ((t.iso : Int) - t.isoStart) + t.accepted

instance (t : Timer) : Decidable t.Accounted := inferInstanceAs (Decidable (_ = _))

end Timer

end Shutter

end TimelapsePlus
