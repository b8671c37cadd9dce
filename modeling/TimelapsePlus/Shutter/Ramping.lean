import Mathlib.Algebra.Order.Field.Rat
import Mathlib.Tactic.NormNum
import TimelapsePlus.Shutter.Exposure
import TimelapsePlus.Shutter.Keyframes
import TimelapsePlus.Shutter.Task

/-!
# The Position of a Ramp

During a ramp the exposure is so many third stops away from the one it started with,
`rampStops`, and that may be no more and no less than the camera's settings leave room
for. Each photo moves the position on: a guided ramp by a rate that the keys set, an
automatic one by a rate that follows the light, and both are held at the limits. A ramp
by keyframes takes the value its group has at the time as it is.

A pause gives the limits a shift, when the aperture was changed in it or the keys asked
for one. The shift is taken from both of them when the run goes on, in eight bits.

Positions are exact where the code has `float`, and `none` is what is no number there: a
division of zero by zero. What the light, the clock and the camera say comes with the
call. The positions after the frames are kept in `frames`, which is not in the code.

## Main definitions

* `RampSettings`: What the limits of a run are worked out from.
* `Moment`, `Ramping`: What a frame is given, and the state of the ramp.
* `Ramping.follow`: The rate of an automatic ramp.
* `Ramping.frame`: The ramp of one photo.
* `Ramping.task`: A call of `task`, as far as the ramp and its pauses go.
* `KeyframeGroup.Keeps`: The curve of a group keeps within two limits.
* `Ramping.Ranged`: The positions after the frames lie in the limits.

## Theorems

* `i8_le_i8`: Two numbers that wrap alike keep their order.
* `KeyframeGroup.Keeps.value`: A curve that keeps within the limits has its value there.
* `held_mem`: What is held at the limits lies in them.
* `frame_ranged`, `task_ranged`: A frame, and a call of `task`.
* `run_ranged`: In every run the position is in its limits after each frame.
* `keyframes_overshoot`: A curve that leaves the limits between two keyframes.
-/

namespace TimelapsePlus

namespace Shutter

open Word Spline

/-- What the limits of a run are worked out from: which of the settings a ramp may
    change, and how far. -/
structure RampSettings where
  bulb : Bool
  iso : Bool
  aperture : Bool
  extendedRamp : Bool
  ready : Bool
  supportsIso : Bool
  supportsAperture : Bool
  bulbStart : Nat
  bulbMaxEv : Nat
  bulbMin : Nat
  isoNow : Nat
  isoMax : Nat
  isoMin : Nat
  apertureNow : Nat
  apertureMin : Nat
  apertureMax : Nat
  nightND : Nat
deriving Repr, DecidableEq

/-- `(int8_t) a - (int8_t) b`, in an `int8_t`. -/
def apart (a b : Nat) : Int := i8 (i8 a - i8 b)

/-- `calcRampMax`. -/
def RampSettings.calcRampMax (c : RampSettings) : Int :=
  let bulbRange := if c.bulb then apart c.bulbStart c.bulbMaxEv else 0
  let isoRange := if c.iso then apart c.isoNow c.isoMax else 0
  let apertureRange := if c.aperture then apart c.apertureNow c.apertureMin else 0
  let ndRange := i8 (c.nightND * 3 / 10 : Nat)
  i8 (isoRange + apertureRange + bulbRange + ndRange)

/-- `calcRampMin`. -/
def RampSettings.calcRampMin (c : RampSettings) : Int :=
  let bulbRange :=
    if c.bulb then
      if c.extendedRamp && c.ready then i8 (i8 maxExtendedRampShutter - i8 c.bulbStart)
      else apart c.bulbMin c.bulbStart
    else 0
  let isoRange := if c.iso && c.supportsIso then apart c.isoMin c.isoNow else 0
  let apertureRange :=
    if c.aperture && c.supportsAperture then apart c.apertureMax c.apertureNow else 0
  i8 (0 - (isoRange + apertureRange + bulbRange))

/-- What a frame is given: the time, the interval, and what the light sensor says. -/
structure Moment where
  ms : Nat
  interval : Nat
  lightReading : ℚ
  slope : ℚ
  lockedSlope : ℚ
  underThreshold : Bool

/-- `P_FACTOR`, `I_FACTOR` and `D_FACTOR`, and `conf.linearInterpolation`. -/
structure RampConf where
  pFactor : ℚ
  iFactor : ℚ
  dFactor : ℚ
  linearInterpolation : Bool

/-- The state of the ramp and of its pauses. -/
structure Ramping where
  conf : RampConf
  kfExposure : KeyframeGroup
  brampMethod : BrampMethod
  nightMode : NightMode
  nightND : Nat
  rampMax : Int
  rampMin : Int
  rampStops : Option ℚ
  rampTarget : ℚ
  nightTarget : Int
  lightStart : ℚ
  rampRate : Int
  pastErrors : List ℚ
  evShift : Int
  apertureEvShift : Int
  aperturePausedStart : Int
  apertureReady : Bool
  paused : Bool
  pausing : Nat
  hasND : Bool
  showND : Bool
  frames : List (Int × Option ℚ × Int)

/-- `(int8_t) x`: the fraction is cut off. -/
def truncI8 (x : ℚ) : Int := i8 (x.num.tdiv x.den)

namespace Ramping

/-! ### Frames -/

/-- The change of exposure that an automatic ramp is after, before the limits are looked
    at. -/
def aim (s : Ramping) (m : Moment) : ℚ :=
  if m.underThreshold = true ∧ s.nightMode ≠ .auto then
    if s.nightMode = .custom then s.nightTarget + (s.nightND * 3 : ℚ) / 10
    else s.lightStart - s.nightTarget
  else s.lightStart - m.lightReading

/-- The target, within the limits. -/
def target (s : Ramping) (m : Moment) : ℚ :=
  let x := s.aim m
  let x : ℚ := if s.rampMax < x then s.rampMax else x
  if x < s.rampMin then s.rampMin else x

/-- The rate an automatic ramp should have, from how far it is off and has been. -/
def control (s : Ramping) (m : Moment) (delta : ℚ) : ℚ :=
  if delta = 0 then 0
  else
    let pastError := s.pastErrors.sum / 10
    let rate := delta * s.conf.pFactor
    let rate := if m.underThreshold then rate else rate + pastError * s.conf.iFactor
    if 0 < m.lockedSlope ∧ s.nightMode ≠ .auto then
      if m.lockedSlope < rate then
        -- The night's target is reached within an hour and a half.
        max m.lockedSlope (delta / (9 / 2))
      else rate
    else rate + m.slope * s.conf.dFactor

/-- The rate of an automatic ramp. Where the target for the night is met, the ramp is
    guided from there. A position that is no number has no rate either. -/
def follow (s : Ramping) (m : Moment) : Ramping :=
  match s.rampStops with
  | none => { s with rampTarget := s.target m, rampRate := 0 }
  | some stops =>
    let delta := s.target m - stops
    let rate := truncI8 (s.control m delta)
    { s with
      rampTarget := s.target m
      pastErrors := s.pastErrors.tail ++ [delta]
      rampRate := rate
      brampMethod :=
        if rate = 0 ∧ m.underThreshold = true ∧ s.nightMode ≠ .auto ∧ stops = s.target m then
          .guided
        else s.brampMethod }

/-- The position moved on by the rate and held at the limits, which ends the rate. -/
def advance (s : Ramping) (interval : Nat) : Ramping :=
  match s.rampStops with
  | none => s
  | some stops =>
    let moved := stops + s.rampRate / (3600 / 3) * (interval / 10)
    if s.rampMax ≤ moved then { s with rampRate := 0, rampStops := some s.rampMax }
    else if moved ≤ s.rampMin then { s with rampRate := 0, rampStops := some s.rampMin }
    else { s with rampStops := some moved }

/-- The ramp of one photo. -/
def ramp (s : Ramping) (m : Moment) : Ramping :=
  match s.brampMethod with
  | .keyframe =>
    { s with
      rampStops := s.kfExposure.interpolateKeyframe m.ms s.conf.linearInterpolation }
  | .guided => s.advance m.interval
  | .auto => (s.follow m).advance m.interval

/-- The same, and where it has come to is noted. -/
def frame (s : Ramping) (m : Moment) : Ramping :=
  let t := s.ramp m
  { t with frames := t.frames ++ [(t.rampMin, t.rampStops, t.rampMax)] }

/-! ### Pauses -/

/-- `shutter::pause`. -/
def pause (s : Ramping) (p : Bool) : Ramping :=
  if p then if s.paused then s else { s with pausing := 1 }
  else if 1 < s.pausing then s
  else { s with pausing := 1, paused := true }

/-- A pause comes to its end, a few calls after it was to. The filter for the night is
    put on first. -/
def goOn (s : Ramping) : Ramping :=
  if 0 < s.pausing ∧ s.paused = true then
    if 8 < s.pausing then
      if s.showND then { s with hasND := false, showND := false }
      else
        { s with
          paused := false
          pausing := 0
          evShift := i8 (s.evShift + s.apertureEvShift)
          rampMax := i8 (s.rampMax - s.apertureEvShift)
          rampMin := i8 (s.rampMin - s.apertureEvShift)
          apertureEvShift := 0
          aperturePausedStart := 0
          apertureReady := false }
    else { s with apertureReady := false, pausing := s.pausing + 1 }
  else s

/-- The position as a whole number of third stops, away from zero. -/
def rampCurrent (s : Ramping) : Int :=
  match s.rampStops with
  | none => 0
  | some stops =>
    let n := truncI8 stops
    if n < stops then i8 (n + 1) else if stops < n then i8 (n - 1) else n

/-- What the camera says in a call: whether its aperture can be set, which one it has,
    which after it has been told to open up, and whether an exposure is going on. The
    ramp of a photo may begin in the call. -/
structure Call where
  supportsAperture : Bool
  aperture : Nat
  apertureSet : Nat
  runBulb : Bool
  moment : Option Moment

/-- A call in a pause. What the keys have asked for is kept within the limits. -/
def hold (s : Ramping) (c : Call) : Ramping :=
  if s.aperturePausedStart = -1 ∧ c.supportsAperture = true ∧ 0 < c.aperture ∧
      c.aperture ≠ 255 then
    { s with aperturePausedStart := i8 c.aperture }
  else if c.supportsAperture = true ∧ 0 < s.aperturePausedStart then
    { s with
      apertureEvShift := i8 (c.apertureSet - s.aperturePausedStart)
      apertureReady := true }
  else if s.showND then s
  else
    let shift :=
      if s.rampMax - s.rampCurrent < s.apertureEvShift then i8 (s.rampMax - s.rampCurrent)
      else s.apertureEvShift
    { s with
      apertureReady := false
      apertureEvShift :=
        if shift < s.rampMin - s.rampCurrent then i8 (s.rampMin - s.rampCurrent) else shift }

/-- The filter for the night is asked for when the ramp has come within a third stop of
    what it is worth. -/
def watchND (s : Ramping) : Ramping :=
  match s.rampStops with
  | none => s
  | some stops =>
    if s.hasND = true ∧ (s.nightND * 3 : ℚ) / 10 < stops + 1 then { s with showND := true } else s

/-- A pause begins once no exposure is going on. -/
def suspend (s : Ramping) (c : Call) : Ramping :=
  if 0 < s.pausing ∧ c.runBulb = false then
    { s with
      apertureReady := false
      pausing := 0
      paused := true
      apertureEvShift := 0
      aperturePausedStart := if c.supportsAperture then 0 else -1 }
  else s

/-- A call of `task` during a run. -/
def task (s : Ramping) (c : Call) : Ramping :=
  let s := s.goOn
  if s.paused then s.hold c
  else
    let s := s.watchND.suspend c
    match c.moment with
    | none => s
    | some m => s.frame m

/-! ### Everything else -/

/-- A run starts. -/
def start (s : Ramping) (c : RampSettings) (reading : ℚ) (nightTarget : Int) : Ramping :=
  { s with
    rampMax := c.calcRampMax
    rampMin := c.calcRampMin
    rampStops := some 0
    rampRate := 0
    pastErrors := List.replicate 10 0
    lightStart := reading
    nightTarget := if s.nightMode = .auto then 0 else nightTarget
    rampTarget :=
      match s.nightMode with
      | .auto => 0
      | .custom => nightTarget + (s.nightND * 3 : ℚ) / 10
      | .fixed => reading - nightTarget
    hasND := if s.nightMode = .custom then decide (0 < s.nightND) else s.hasND
    showND := if s.nightMode = .custom then false else s.showND
    paused := false
    pausing := 0
    evShift := 0 }

/-- `switchToGuided`. -/
def switchToGuided (s : Ramping) : Ramping := { s with rampRate := 0, brampMethod := .guided }

/-- `switchToAuto`. -/
def switchToAuto (s : Ramping) (reading : ℚ) : Ramping :=
  { s with lightStart := reading, brampMethod := .auto, nightMode := .auto }

/-- The key for the shift of a pause. -/
def shiftKey (s : Ramping) (up : Bool) : Ramping :=
  if s.paused = true ∧ s.apertureReady = false ∧ s.showND = false then
    { s with apertureEvShift := i8 (if up then s.apertureEvShift - 1 else s.apertureEvShift + 1) }
  else s

/-- `status.rampStops_f < x` and `status.rampStops_f > x`, which are both false of what is
    no number. -/
def below (s : Ramping) (x : ℚ) : Bool :=
  match s.rampStops with
  | none => false
  | some stops => stops < x

@[inherit_doc below]
def above (s : Ramping) (x : ℚ) : Bool :=
  match s.rampStops with
  | none => false
  | some stops => x < stops

/-- The keys for the rate of a guided ramp. -/
def rateKey (s : Ramping) (up : Bool) : Ramping :=
  if s.brampMethod ≠ .guided then s
  else if up then
    if s.rampRate < 50 ∧ (s.below s.rampMax = true ∨ s.rampRate < 0) then
      { s with rampRate := s.rampRate + 1 }
    else s
  else if -50 < s.rampRate ∧ (s.above s.rampMin = true ∨ 0 < s.rampRate) then
    { s with rampRate := s.rampRate - 1 }
  else s

/-- Before any run. -/
def off : Ramping where
  conf := ⟨0, 0, 0, false⟩
  kfExposure := ⟨fun _ => ⟨0, 0, ms_start_lt⟩, 2⟩
  brampMethod := .guided
  nightMode := .auto
  nightND := 0
  rampMax := 0
  rampMin := 0
  rampStops := some 0
  rampTarget := 0
  nightTarget := 0
  lightStart := 0
  rampRate := 0
  pastErrors := []
  evShift := 0
  apertureEvShift := 0
  aperturePausedStart := 0
  apertureReady := false
  paused := false
  pausing := 0
  hasND := false
  showND := false
  frames := []

end Ramping

/-- What happens next: a run starts, `task` is called, a key is pressed, or the programme
    or the settings are edited. -/
inductive RampEvent
  | start (c : RampSettings) (reading : ℚ) (nightTarget : Int)
  | task (c : Ramping.Call)
  | pause (p : Bool)
  | shiftKey (up : Bool)
  | rateKey (up : Bool)
  | switchToGuided
  | switchToAuto (reading : ℚ)
  | program (kf : KeyframeGroup) (method : BrampMethod) (nightMode : NightMode) (nightND : Nat)
  | settings (conf : RampConf)

/-- One event. -/
def Ramping.step (s : Ramping) : RampEvent → Option Ramping
  | .start c reading nightTarget => some (s.start c reading nightTarget)
  | .task c => some (s.task c)
  | .pause p => some (s.pause p)
  | .shiftKey up => some (s.shiftKey up)
  | .rateKey up => some (s.rateKey up)
  | .switchToGuided => some s.switchToGuided
  | .switchToAuto reading => some (s.switchToAuto reading)
  | .program kf method nightMode nightND =>
    some { s with
      kfExposure := kf, brampMethod := method, nightMode := nightMode, nightND := nightND }
  | .settings conf => some { s with conf := conf }

/-! ### Curves within limits -/

namespace KeyframeGroup

variable (kf : KeyframeGroup)

/-- The two keyframes a stretch goes between, and their neighbours. -/
def keys (ki : Nat) : ℚ × ℚ × ℚ × ℚ :=
  let key3 := (kf.keyframes ki).value
  let key2 := if 0 < ki then (kf.keyframes (ki - 1)).value else key3
  let key1 := if 0 < ki - 1 then (kf.keyframes (ki - 2)).value else key2
  let key4 := if ki < kf.count - 1 then (kf.keyframes (ki + 1)).value else key3
  (key1, key2, key3, key4)

/-- A stretch keeps within two limits: a straight one between its ends, a curve within
    its control polygon. -/
def StretchIn (ki : Nat) (linear : Bool) (lo hi : ℚ) : Prop :=
  if linear = true ∨ (kf.keys ki).2.1 = (kf.keys ki).2.2.1 then
    (lo ≤ (kf.keys ki).2.1 ∧ (kf.keys ki).2.1 ≤ hi) ∧
      (lo ≤ (kf.keys ki).2.2.1 ∧ (kf.keys ki).2.2.1 ≤ hi)
  else Hull (kf.keys ki).1 (kf.keys ki).2.1 (kf.keys ki).2.2.1 (kf.keys ki).2.2.2 lo hi

/-- The group keeps within two limits at a time: past its end its last keyframe does, and
    before that the stretch that is drawn, which starts no later and is not empty. -/
def Keeps (ms : Nat) (linear : Bool) (lo hi : ℚ) : Prop :=
  if kf.last.ms ≤ ms then lo ≤ kf.last.value ∧ kf.last.value ≤ hi
  else ∃ k, kf.next ms = some k ∧ (kf.keyframes (k - 1)).ms ≤ ms ∧ kf.span k ≠ 0 ∧
    kf.StretchIn k linear lo hi

variable {kf}

theorem along_eq (linear : Bool) (ki : Nat) (t : ℚ) :
    kf.along linear ki t =
      curve linear (kf.keys ki).1 (kf.keys ki).2.1 (kf.keys ki).2.2.1 (kf.keys ki).2.2.2 t := by
  unfold along keys
  push_cast
  rfl

/-- A stretch that keeps within the limits is drawn there. -/
theorem StretchIn.mem {ki : Nat} {linear : Bool} {lo hi t : ℚ}
    (h : kf.StretchIn ki linear lo hi) (ht0 : 0 ≤ t) (ht1 : t ≤ 1) :
    lo ≤ kf.along linear ki t ∧ kf.along linear ki t ≤ hi := by
  rw [along_eq]
  unfold StretchIn at h
  unfold curve
  by_cases hlinear : linear = true
  · rw [if_pos (.inl hlinear)] at h
    rw [if_pos hlinear]
    exact chord_mem ht0 ht1 h.1 h.2
  · by_cases heq : (kf.keys ki).2.1 = (kf.keys ki).2.2.1
    · rw [if_pos (.inr heq)] at h
      rw [if_neg hlinear, if_pos heq]
      exact h.1
    · rw [if_neg (not_or.mpr ⟨hlinear, heq⟩)] at h
      rw [if_neg hlinear, if_neg heq]
      exact catmullRom_mem h ht0 ht1

/-- The time is a part of the stretch it is on. -/
theorem fraction_mem {ms k : Nat} (hk : kf.next ms = some k)
    (hbefore : (kf.keyframes (k - 1)).ms ≤ ms) (hspan : kf.span k ≠ 0) :
    (0 : ℚ) ≤ kf.gone ms k / kf.span k ∧ (kf.gone ms k / kf.span k : ℚ) ≤ 1 := by
  obtain ⟨-, -, hms, -⟩ := (kf.next_eq_some ms k).mp hk
  have h32 := (kf.keyframes k).ms_lt
  have hgone : kf.gone ms k ≤ kf.span k := by
    unfold gone span
    rw [sub32_of_le (lt_of_le_of_lt hms h32) hbefore, sub32_of_le h32 (hbefore.trans hms)]
    omega
  have hpos : (0 : ℚ) < kf.span k := Nat.cast_pos.mpr (Nat.pos_of_ne_zero hspan)
  exact ⟨div_nonneg (Nat.cast_nonneg _) hpos.le, (div_le_one hpos).mpr (Nat.cast_le.mpr hgone)⟩

/-- A group that keeps within the limits has its value there. -/
theorem Keeps.value {ms : Nat} {linear : Bool} {lo hi : ℚ} (h : kf.Keeps ms linear lo hi) :
    ∃ q, kf.interpolateKeyframe ms linear = some q ∧ lo ≤ q ∧ q ≤ hi := by
  unfold Keeps at h
  unfold interpolateKeyframe
  by_cases hlast : kf.last.ms ≤ ms
  · rw [if_pos hlast] at h ⊢
    exact ⟨_, rfl, h⟩
  · rw [if_neg hlast] at h ⊢
    rcases h with ⟨k, hk, hbefore, hspan, hin⟩
    obtain ⟨ht0, ht1⟩ := fraction_mem hk hbefore hspan
    refine ⟨_, ?_, hin.mem ht0 ht1⟩
    simp only [reading, hk, if_neg hspan]

end KeyframeGroup

/-! ### Limits that move -/

/-- Two numbers wrap alike: neither does, or both do on the same side. -/
def WrapAlike (a b : Int) : Prop :=
  (-128 ≤ a ∧ b ≤ 127) ∨ (127 < a ∧ b < 384) ∨ (-384 ≤ a ∧ b < -128)

/-- Two numbers that wrap alike keep their order. -/
theorem i8_le_i8 {a b : Int} (h : WrapAlike a b) (hab : a ≤ b) : i8 a ≤ i8 b := by
  rcases h with ⟨ha, hb⟩ | ⟨ha, hb⟩ | ⟨ha, hb⟩
  · rw [i8_of_mem ha (by omega), i8_of_mem (by omega) hb]
    exact hab
  · -- Both have gone around once above.
    have hdown : ∀ z : Int, 127 < z → z < 384 → i8 z = z - 256 := by
      intro z hlo hhi
      rw [← i8_of_mem (z := z - 256) (by omega) (by omega)]
      exact (Int.sub_bmod_right z 256).symm
    rw [hdown a ha (by omega), hdown b (by omega) hb]
    omega
  · have hup : ∀ z : Int, -384 ≤ z → z < -128 → i8 z = z + 256 := by
      intro z hlo hhi
      rw [← i8_of_mem (z := z + 256) (by omega) (by omega)]
      exact (Int.add_bmod_right z 256).symm
    rw [hup a ha (by omega), hup b (by omega) hb]
    omega

namespace Ramping

/-- A position between its limits. -/
def Within (lo : Int) (stops : Option ℚ) (hi : Int) : Prop :=
  ∃ q, stops = some q ∧ (lo : ℚ) ≤ q ∧ q ≤ hi

/-- The position has been within its limits after each frame. -/
def Ranged (s : Ramping) : Prop := ∀ e ∈ s.frames, Within e.1 e.2.1 e.2.2

/-- What a run keeps: the position is a number, the limits are in order, and it has been
    between them after each frame. -/
structure Sound (s : Ramping) : Prop where
  number : ∃ q, s.rampStops = some q
  ordered : s.rampMin ≤ s.rampMax
  ranged : s.Ranged

/-- What leaves the position, the limits and the frames alone. -/
theorem Sound.congr {s t : Ramping} (h : s.Sound) (hstops : t.rampStops = s.rampStops)
    (hmin : t.rampMin = s.rampMin) (hmax : t.rampMax = s.rampMax)
    (hframes : t.frames = s.frames) : t.Sound where
  number := by
    rw [hstops]
    exact h.number
  ordered := by
    rw [hmin, hmax]
    exact h.ordered
  ranged := by
    unfold Ranged
    rw [hframes]
    exact h.ranged

/-! ### Frames -/

theorem follow_keeps (s : Ramping) (m : Moment) :
    (s.follow m).rampStops = s.rampStops ∧ (s.follow m).rampMin = s.rampMin ∧
      (s.follow m).rampMax = s.rampMax ∧ (s.follow m).frames = s.frames := by
  unfold follow
  split
  · exact ⟨rfl, rfl, rfl, rfl⟩
  · exact ⟨rfl, rfl, rfl, rfl⟩

/-- The limits and the frames are none of the ramp's business. -/
theorem ramp_keeps (s : Ramping) (m : Moment) : (s.ramp m).rampMin = s.rampMin ∧
    (s.ramp m).rampMax = s.rampMax ∧ (s.ramp m).frames = s.frames := by
  have hadvance : ∀ t : Ramping, ∀ n, (t.advance n).rampMin = t.rampMin ∧
      (t.advance n).rampMax = t.rampMax ∧ (t.advance n).frames = t.frames := by
    intro t n
    unfold advance
    cases t.rampStops with
    | none => exact ⟨rfl, rfl, rfl⟩
    | some q =>
        simp only
        split_ifs <;> exact ⟨rfl, rfl, rfl⟩
  unfold ramp
  cases s.brampMethod with
  | keyframe => exact ⟨rfl, rfl, rfl⟩
  | guided => exact hadvance s m.interval
  | auto =>
      obtain ⟨hmin, hmax, hframes⟩ := hadvance (s.follow m) m.interval
      obtain ⟨-, hmin', hmax', hframes'⟩ := s.follow_keeps m
      exact ⟨hmin.trans hmin', hmax.trans hmax', hframes.trans hframes'⟩

/-- What is held at the limits lies in them. -/
theorem held_mem {s : Ramping} (hordered : s.rampMin ≤ s.rampMax)
    (hnumber : ∃ q, s.rampStops = some q) (n : Nat) :
    Within s.rampMin (s.advance n).rampStops s.rampMax := by
  have hlimits : (s.rampMin : ℚ) ≤ s.rampMax := Int.cast_le.mpr hordered
  rcases hnumber with ⟨q, hq⟩
  unfold advance
  rw [hq]
  simp only
  split_ifs with hmax hmin
  · exact ⟨_, rfl, hlimits, le_refl _⟩
  · exact ⟨_, rfl, le_refl _, hlimits⟩
  · exact ⟨_, rfl, (not_le.mp hmin).le, (not_le.mp hmax).le⟩

/-- The group keeps within the limits, where the ramp is one by keyframes. -/
def Drawn (s : Ramping) (m : Moment) : Prop :=
  s.brampMethod = .keyframe →
    s.kfExposure.Keeps m.ms s.conf.linearInterpolation s.rampMin s.rampMax

/-- The ramp of a photo comes to lie in the limits. -/
theorem ramp_within {s : Ramping} (h : s.Sound) {m : Moment} (hdrawn : s.Drawn m) :
    Within s.rampMin (s.ramp m).rampStops s.rampMax := by
  unfold ramp
  cases hmethod : s.brampMethod with
  | keyframe => exact (hdrawn hmethod).value
  | guided => exact held_mem h.ordered h.number m.interval
  | auto =>
      obtain ⟨hstops, hmin, hmax, -⟩ := s.follow_keeps m
      have hheld := held_mem (s := s.follow m) (by rw [hmin, hmax]; exact h.ordered)
        (by rw [hstops]; exact h.number) m.interval
      rw [hmin, hmax] at hheld
      exact hheld

/-- A frame. -/
theorem frame_ranged {s : Ramping} (h : s.Sound) {m : Moment} (hdrawn : s.Drawn m) :
    (s.frame m).Sound := by
  obtain ⟨hmin, hmax, hframes⟩ := s.ramp_keeps m
  have hwithin := ramp_within h hdrawn
  refine ⟨hwithin.imp fun _ hq => hq.1, ?_, ?_⟩
  · show (s.ramp m).rampMin ≤ (s.ramp m).rampMax
    rw [hmin, hmax]
    exact h.ordered
  · intro e he
    rcases List.mem_append.mp he with hold | hnew
    · rw [hframes] at hold
      exact h.ranged e hold
    · rw [List.mem_singleton.mp hnew, hmin, hmax]
      exact hwithin

/-! ### Pauses -/

/-- A pause comes to its end in this call. -/
def Resumes (s : Ramping) : Prop := s.paused = true ∧ 8 < s.pausing ∧ s.showND = false

/-- The end of a pause keeps the limits in order if both wrap alike. -/
theorem goOn_sound {s : Ramping} (h : s.Sound)
    (hwrap : s.Resumes →
      WrapAlike (s.rampMin - s.apertureEvShift) (s.rampMax - s.apertureEvShift)) :
    s.goOn.Sound := by
  unfold goOn
  split_ifs with hpause hlong hnd
  · exact h.congr rfl rfl rfl rfl
  · refine ⟨h.number, ?_, h.ranged⟩
    have hordered := h.ordered
    exact i8_le_i8 (hwrap ⟨hpause.2, hlong, Bool.eq_false_iff.mpr hnd⟩) (by omega)
  · exact h.congr rfl rfl rfl rfl
  · exact h

theorem hold_sound {s : Ramping} (h : s.Sound) (c : Call) : (s.hold c).Sound := by
  unfold hold
  by_cases hfirst : s.aperturePausedStart = -1 ∧ c.supportsAperture = true ∧ 0 < c.aperture ∧
      c.aperture ≠ 255
  · rw [if_pos hfirst]
    exact h.congr rfl rfl rfl rfl
  · rw [if_neg hfirst]
    by_cases hset : c.supportsAperture = true ∧ 0 < s.aperturePausedStart
    · rw [if_pos hset]
      exact h.congr rfl rfl rfl rfl
    · rw [if_neg hset]
      by_cases hnd : s.showND = true
      · rw [if_pos hnd]
        exact h
      · rw [if_neg hnd]
        exact h.congr rfl rfl rfl rfl

/-- What leaves the whole ramp as it was, pauses apart. -/
structure Same (s t : Ramping) : Prop where
  stops : t.rampStops = s.rampStops
  min : t.rampMin = s.rampMin
  max : t.rampMax = s.rampMax
  frames : t.frames = s.frames
  method : t.brampMethod = s.brampMethod
  group : t.kfExposure = s.kfExposure
  conf : t.conf = s.conf

theorem watchND_same (s : Ramping) : s.Same s.watchND := by
  unfold watchND
  split
  · exact ⟨rfl, rfl, rfl, rfl, rfl, rfl, rfl⟩
  · split_ifs
    · exact ⟨rfl, rfl, rfl, rfl, rfl, rfl, rfl⟩
    · exact ⟨rfl, rfl, rfl, rfl, rfl, rfl, rfl⟩

theorem suspend_same (s : Ramping) (c : Call) : s.Same (s.suspend c) := by
  unfold suspend
  split_ifs <;> exact ⟨rfl, rfl, rfl, rfl, rfl, rfl, rfl⟩

theorem Same.sound {s t : Ramping} (hsame : s.Same t) (h : s.Sound) : t.Sound :=
  h.congr hsame.stops hsame.min hsame.max hsame.frames

theorem Same.drawn {s t : Ramping} (hsame : s.Same t) {m : Moment} (h : s.Drawn m) :
    t.Drawn m := by
  unfold Drawn
  rw [hsame.method, hsame.group, hsame.conf, hsame.min, hsame.max]
  exact h

/-- A call of `task` whose frame is drawn within the limits. -/
theorem task_ranged {s : Ramping} (h : s.Sound) {c : Call}
    (hwrap : s.Resumes →
      WrapAlike (s.rampMin - s.apertureEvShift) (s.rampMax - s.apertureEvShift))
    (hdrawn : s.goOn.paused = false → ∀ m, c.moment = some m → s.goOn.Drawn m) :
    (s.task c).Sound := by
  have hgoOn := goOn_sound h hwrap
  unfold task
  simp only
  by_cases hpaused : s.goOn.paused = true
  · rw [if_pos hpaused]
    exact hold_sound hgoOn c
  · rw [if_neg hpaused]
    have hwatch := s.goOn.watchND_same
    have hsuspend := s.goOn.watchND.suspend_same c
    have hready := hsuspend.sound (hwatch.sound hgoOn)
    cases hmoment : c.moment with
    | none => exact hready
    | some m =>
        exact frame_ranged hready
          (hsuspend.drawn (hwatch.drawn (hdrawn (Bool.eq_false_iff.mpr hpaused) m hmoment)))

/-! ### Runs -/

/-- What is asked of an event: that a run starts with its limits in order, that a shift
    takes both of them around or neither, and that a group of keyframes keeps within the
    limits at the time of each frame. -/
def Kept (s : Ramping) : RampEvent → Prop
  | .start c _ _ => c.calcRampMin ≤ c.calcRampMax
  | .task c =>
    (s.Resumes →
      WrapAlike (s.rampMin - s.apertureEvShift) (s.rampMax - s.apertureEvShift)) ∧
      (s.goOn.paused = false → ∀ m, c.moment = some m → s.goOn.Drawn m)
  | _ => True

/-- What an event keeps. -/
theorem step_sound {s t : Ramping} (l : RampEvent) (h : s.Sound) (hkept : s.Kept l)
    (hstep : s.step l = some t) : t.Sound := by
  cases l with
  | start c reading nightTarget =>
      obtain rfl := Option.some.inj hstep
      exact ⟨⟨0, rfl⟩, hkept, h.ranged⟩
  | task c =>
      obtain rfl := Option.some.inj hstep
      exact task_ranged h hkept.1 hkept.2
  | pause p =>
      obtain rfl := Option.some.inj hstep
      unfold pause
      split_ifs
      · exact h
      · exact h.congr rfl rfl rfl rfl
      · exact h
      · exact h.congr rfl rfl rfl rfl
  | shiftKey up =>
      obtain rfl := Option.some.inj hstep
      unfold shiftKey
      by_cases hkey : s.paused = true ∧ s.apertureReady = false ∧ s.showND = false
      · rw [if_pos hkey]
        exact h.congr rfl rfl rfl rfl
      · rw [if_neg hkey]
        exact h
  | rateKey up =>
      obtain rfl := Option.some.inj hstep
      unfold rateKey
      split_ifs
      · exact h
      · exact h.congr rfl rfl rfl rfl
      · exact h
      · exact h.congr rfl rfl rfl rfl
      · exact h
  | switchToGuided =>
      obtain rfl := Option.some.inj hstep
      exact h.congr rfl rfl rfl rfl
  | switchToAuto reading =>
      obtain rfl := Option.some.inj hstep
      exact h.congr rfl rfl rfl rfl
  | program kf method nightMode nightND =>
      obtain rfl := Option.some.inj hstep
      exact h.congr rfl rfl rfl rfl
  | settings conf =>
      obtain rfl := Option.some.inj hstep
      exact h.congr rfl rfl rfl rfl

/-- In a run whose events are all kept the position is within its limits after each
    frame. -/
theorem run_ranged (s : Ramping) (h : Run step Kept off s) : s.Ranged :=
  (h.invariant Sound (fun _ l _ hs hok hnext => step_sound l hs hok hnext)
    ⟨⟨0, rfl⟩, le_refl _, fun _ he => absurd he List.not_mem_nil⟩).ranged

/-- Room for ten third stops of exposure, none the other way. -/
def room : RampSettings where
  bulb := true
  iso := false
  aperture := false
  extendedRamp := false
  ready := true
  supportsIso := false
  supportsAperture := false
  bulbStart := 40
  bulbMaxEv := 30
  bulbMin := 40
  isoNow := 0
  isoMax := 0
  isoMin := 0
  apertureNow := 0
  apertureMin := 0
  apertureMax := 0
  nightND := 0

/-- From the longest exposure a third stop back: the curve is still rising where it
    leaves the second keyframe. -/
def crest : KeyframeGroup where
  keyframes := fun i =>
    if i = 0 then ⟨0, 0, ms_start_lt⟩
    else if i = 1 then ⟨10, 60000, ms_minute_lt⟩
    else ⟨9, 120000, ms_twoMinutes_lt⟩
  count := 3

/-- A call in which the ramp of a photo begins. -/
def photoAt (ms : Nat) : Call := ⟨false, 0, 0, false, some ⟨ms, 80, 0, 0, 0, false⟩⟩

/-- A run by keyframes with one photo. -/
def photoRun (ms : Nat) : List RampEvent :=
  [.program crest .keyframe .auto 0, .start room 0 0, .task (photoAt ms)]

/-- A photo at the end of the last stretch. -/
theorem run_ranged_end : ∃ s, Run step Kept off s ∧ s.frames = [(0, some 9, 10)] ∧ s.Ranged := by
  let s₁ : Ramping := { off with kfExposure := crest, brampMethod := .keyframe }
  have hkept : Kept (s₁.start room 0 0) (.task (photoAt 120000)) := by
    refine ⟨fun h => absurd h.1 Bool.false_ne_true, fun _ m hm _ => ?_⟩
    obtain rfl := Option.some.inj hm
    unfold KeyframeGroup.Keeps
    rw [if_pos (by decide +kernel)]
    decide +kernel
  have hrun : Run step Kept off ((s₁.start room 0 0).task (photoAt 120000)) :=
    .tail _ (.tail (.start room 0 0) (.tail (.program crest .keyframe .auto 0) .refl trivial rfl)
      (show room.calcRampMin ≤ room.calcRampMax by decide +kernel) rfl) hkept rfl
  exact ⟨_, hrun, by decide +kernel, run_ranged _ hrun⟩

/-- All keyframes lie within the limits, and the curve does not. -/
theorem keyframes_overshoot :
    (∀ i < 3, room.calcRampMin ≤ (crest.keyframes i).value ∧
      (crest.keyframes i).value ≤ room.calcRampMax) ∧
    ∃ s, Run step (fun _ _ => True) off s ∧ s.frames = [(0, some (1311 / 125), 10)] ∧
      ¬ s.Ranged := by
  refine ⟨by decide +kernel, ?_⟩
  have hframes : (steps step off (photoRun 72000)).map Ramping.frames =
      some [(0, some (1311 / 125), 10)] := by decide +kernel
  rcases Option.map_eq_some_iff.mp hframes with ⟨s, hsteps, hs⟩
  refine ⟨s, run_of_steps _ hsteps, hs, fun hranged => ?_⟩
  have hlast := hranged (0, some (1311 / 125), 10) (by rw [hs]; exact List.mem_singleton_self _)
  rcases hlast with ⟨q, hq, -, hle⟩
  rw [← Option.some.inj hq] at hle
  norm_num at hle

end Ramping

end Shutter

end TimelapsePlus
