import TimelapsePlus.Bluetooth.Orders
import TimelapsePlus.Lib.Trimmed
import TimelapsePlus.Shutter.Keyframes
import TimelapsePlus.Shutter.Motion

/-!
# The Motors of a Time-Lapse

In each gap every motor that is connected is moved to where its keyframes say it is to be,
by the clock of the motors. It is enabled before, which takes some commands the first time.
Then it is told to go so many steps, from where it is counted to be. The controller does not
know of positions.

Whatever else is done with the motors and the radio between the gaps, and whatever the module
sends: when the motors have been moved, the steps that can be read off what has been written,
and those for which no order could go out, add up to where the keyframes say the motor is.

A value that does not fit its word has no position here, and neither has one that is divided
by zero.

## Main definitions

* `Plan`: The keyframes of the motors, and their settings.
* `Gear`: The controller, the motors that are enabled, and their clock.
* `enable`, `disable`, `moveMotor`: The functions of the source.
* `GearMove`, `Gear.step`: What is done with the motors.

## Theorems

* `moveToPosition_position`: A move comes to the position it is for.
* `moveToPosition_beside`: It leaves the other motors alone.
* `step_sound`, `run_sound`: The orders and the positions, in every run.
* `gap_follows`: The motors are where their keyframes say.
-/

namespace TimelapsePlus

namespace Shutter

open Nmx Bluetooth

/-- `(int32_t)` of a value, if it has one. -/
def toPosition (x : ℚ) : Option Position :=
  if h : -2147483648 ≤ Trimmed.trunc x ∧ Trimmed.trunc x < 2147483648 then
    some ⟨Trimmed.trunc x, h.1, h.2⟩
  else none

/-- The settings of a motor. The speed and the acceleration are those of `conf.motionSpeed` and
    `conf.motionMicroSteps`, as floats, if there is a speed. -/
structure Axis where
  powerSave : UInt8
  microSteps : UInt8
  speed : Option (UInt32 × UInt32)
  backlash : UInt16

/-- The commands of `NMX::enable`, with `setSpeed` and `setAccel`. -/
def Axis.commands (a : Axis) : List (UInt8 × List UInt8) :=
  let microSteps : List (UInt8 × List UInt8) :=
    if a.microSteps ≠ 0 then [(0x6, [a.microSteps])] else []
  let speed : List (UInt8 × List UInt8) :=
    match a.speed with
    | none => []
    | some (speed, accel) =>
      [(0x7, [255, 255]), (0xD, (littleEndian speed).reverse), (0xE, (littleEndian accel).reverse)]
  let backlash : UInt8 × List UInt8 := (0x5, [(a.backlash >>> 8).toUInt8, a.backlash.toUInt8])
  (0x3, [1]) :: (0x2, [if a.powerSave ≠ 0 then 1 else 0]) :: (microSteps ++ speed ++ [backlash])

/-- The keyframes of the motors, with `conf.linearInterpolation`, and their settings. -/
structure Plan where
  kf : Which → KeyframeGroup
  linearInterpolation : Bool
  axis : Which → Axis

/-- Where the keyframes say a motor is. -/
def Plan.position (c : Plan) (w : Which) (ms : Nat) : Option Position :=
  ((c.kf w).interpolateKeyframe ms c.linearInterpolation).bind toPosition

/-- What a call meets with: so many questions whether a motor is running at most, and what the
    module does. -/
structure Meeting where
  polls : Nat
  arrivals : List Arrival
  wakes : List Wake

/-- The controller, with `enabled` of its motors, and the clock of the motors. -/
structure Gear where
  rig : Rig
  enabled : Which → Bool
  motion : Motion

/-- What is done with the motors. The first photo is taken, a gap begins, a motor is moved in
    it, or by `moveAxes`, or disabled, or it is something else that a motor or the driver is
    called for. -/
inductive GearMove
  | first
  | gap (g : Gap)
  | motor (w : Which) (e : Meeting)
  | axis (w : Which) (ms : Nat) (e : Meeting)
  | disable (w : Which) (e : Meeting)
  | other (l : Rig.Label)

namespace Gear

def meets (s : Gear) (e : Meeting) : Gear :=
  { s with rig := { s.rig with radio :=
      { s.rig.radio with arrivals := e.arrivals, wakes := e.wakes } } }

/-- Some commands to a motor, one after the other. -/
def send (s : Gear) (w : Which) (commands : List (UInt8 × List UInt8)) : Gear :=
  { s with rig := commands.foldl (fun r c => (r.sendCommand w c.1 c.2).1) s.rig }

/-- `NMX::enable`. -/
def enable (s : Gear) (a : Axis) (w : Which) : Gear :=
  if s.rig.radio.state = .connectedGm then s
  else if s.enabled w then s
  else ({ s with enabled := Function.update s.enabled w true } : Gear).send w a.commands

/-- `NMX::disable`. -/
def disable (s : Gear) (w : Which) : Gear :=
  ({ s with enabled := Function.update s.enabled w false } : Gear).send w [(0x2, [1]), (0x3, [0])]

/-- `moveMotor1` and its like. -/
def moveMotor (c : Plan) (s : Gear) (w : Which) (e : Meeting) (pos : Position) : Option Gear :=
  let s := (s.meets e).enable (c.axis w) w
  (s.rig.moveToPosition e.polls w pos).map fun r => { s with rig := r.1 }

/-- One of these. -/
def step (c : Plan) (s : Gear) : GearMove → Option Gear
  | .first => some { s with motion := .start }
  | .gap g => some { s with motion := s.motion.gap g }
  | .motor w e =>
      if s.rig.connected w then
        (c.position w s.motion.motionMS).bind (s.moveMotor c w e)
      else some s
  | .axis w ms e =>
      if s.rig.connected w then (c.position w ms).bind (s.moveMotor c w e) else some s
  | .disable w e => some ((s.meets e).disable w)
  | .other l => (s.rig.step l).map fun r => { s with rig := r }

/-- The module takes what it is given, and a Genie Mini has one motor. -/
def MeetsFit (c : Plan) (s : Gear) (w : Which) (e : Meeting) : Prop :=
  (∀ wake ∈ e.wakes, wake ≠ .never) ∧
    (((s.meets e).enable (c.axis w) w).rig.radio.state = .connectedGm → w = .motor1)

instance (c : Plan) (s : Gear) (w : Which) (e : Meeting) : Decidable (s.MeetsFit c w e) :=
  inferInstanceAs (Decidable (_ ∧ _))

def Fits (c : Plan) (s : Gear) : GearMove → Prop
  | .motor w e => s.MeetsFit c w e
  | .axis w _ e => s.MeetsFit c w e
  | .disable _ e => ∀ wake ∈ e.wakes, wake ≠ .never
  | .other l => s.rig.Fits l
  | _ => True

instance (c : Plan) (s : Gear) : (m : GearMove) → Decidable (s.Fits c m)
  | .first => .isTrue trivial
  | .gap _ => .isTrue trivial
  | .motor w e => inferInstanceAs (Decidable (s.MeetsFit c w e))
  | .axis w _ e => inferInstanceAs (Decidable (s.MeetsFit c w e))
  | .disable _ e => inferInstanceAs (Decidable (∀ wake ∈ e.wakes, wake ≠ .never))
  | .other l => inferInstanceAs (Decidable (s.rig.Fits l))

end Gear

/-! ### One motor is moved -/

section Moves

variable {r r' : Rig} {w : Which}

/-- Another motor is where it was, and the same motors are connected. -/
structure Beside (w : Which) (r r' : Rig) : Prop where
  connected : r'.connected = r.connected
  motors : ∀ w', w' ≠ w → r'.motors w' = r.motors w'

theorem Beside.refl (w : Which) (r : Rig) : Beside w r r := ⟨rfl, fun _ _ => rfl⟩

theorem Beside.trans {q : Rig} (h : Beside w r q) (h' : Beside w q r') : Beside w r r' where
  connected := h'.connected.trans h.connected
  motors := fun w' hw => (h'.motors w' hw).trans (h.motors w' hw)

theorem sendCommandGeneral_beside (w : Which) (r : Rig) (node motor command : UInt8)
    (data : List UInt8) : Beside w r (r.sendCommandGeneral node motor command data).1 := by
  unfold Rig.sendCommandGeneral
  split_ifs
  · exact .refl w r
  · exact ⟨rfl, fun _ _ => rfl⟩

theorem sendQueryGeneral_beside (w : Which) (r : Rig) (node motor command : UInt8) :
    Beside w r (r.sendQueryGeneral node motor command).1 := by
  have hsent := sendCommandGeneral_beside w r node motor command []
  unfold Rig.sendQueryGeneral
  simp only
  split_ifs
  · exact ⟨hsent.connected, hsent.motors⟩
  · exact hsent

theorem running_beside (w : Which) (r : Rig) : Beside w r (r.running w).1 := by
  unfold Rig.running
  split_ifs
  · exact .refl w r
  · exact sendQueryGeneral_beside w r _ _ _
  · exact .refl w r

theorem rest_beside (n : Nat) (h : Rig.rest w n r = some r') : Beside w r r' := by
  induction n generalizing r with
  | zero => cases h
  | succ n ih =>
      rw [Rig.rest] at h
      have hasked := running_beside w r
      by_cases hrunning : (r.running w).2 = true
      · rw [if_pos hrunning] at h
        exact hasked.trans (ih h)
      · rw [if_neg hrunning] at h
        rw [← Option.some.inj h]
        exact hasked

theorem advance_beside (r : Rig) (w : Which) (dir : UInt8) (steps : UInt32) :
    Beside w r (r.advance w dir steps) where
  connected := rfl
  motors := fun _ hw => Function.update_of_ne hw _ _

theorem move_beside {polls : Nat} {dir : UInt8} {steps : UInt32} {update ok : Bool}
    (h : r.move polls w dir steps update = some (r', ok)) : Beside w r r' := by
  unfold Rig.move at h
  by_cases hgm : r.radio.state = .connectedGm
  · rw [if_pos hgm, Option.some.injEq] at h
    have hsent : Beside w r (r.genieMove dir steps).1 := ⟨rfl, fun _ _ => rfl⟩
    rw [← (Prod.mk.inj h).1]
    split
    · exact hsent.trans (advance_beside _ w dir steps)
    · exact hsent
  · rw [if_neg hgm] at h
    rcases Option.map_eq_some_iff.mp h with ⟨q, hrest, hsent⟩
    have hq := rest_beside polls hrest
    have hmiss : Beside w q (q.miss w dir steps) := by
      unfold Rig.miss
      split
      · exact .refl w q
      · exact ⟨rfl, fun _ _ => rfl⟩
    have hr : _ = r' := congrArg Prod.fst hsent
    rw [← hr]
    refine hq.trans (Beside.trans ?_ (sendCommandGeneral_beside w _ _ _ _ _))
    split
    · exact hmiss.trans (advance_beside _ w dir steps)
    · exact .refl w q

theorem moveToPosition_beside {polls : Nat} {pos : Position} {ok : Bool}
    (h : r.moveToPosition polls w pos = some (r', ok)) : Beside w r r' := by
  unfold Rig.moveToPosition at h
  simp only at h
  split_ifs at h
  · exact move_beside h
  · exact move_beside h
  · rw [← (Prod.mk.inj (Option.some.inj h)).1]
    exact .refl w r

/-- A motor comes to the position it is moved to, by what is counted. -/
theorem moveToPosition_position {polls : Nat} {pos : Position} {ok : Bool}
    (h : r.moveToPosition polls w pos = some (r', ok)) : (r'.motors w).currentPos = pos := by
  have hwrap : Position.wrap pos.val = pos := position_ext (wrap_val.mpr ⟨pos.low, pos.high⟩)
  have hsteps : (r.motors w).currentPos.val + (r.motors w).steps (.moveToPosition pos) =
      pos.val := by
    show (r.motors w).currentPos.val + (pos.val - (r.motors w).currentPos.val) = _
    omega
  -- A motor that is moved goes the steps that are between.
  have hmoved : ∀ a : Air, (r'.motors w, ok) = (r.motors w).moveToPosition a pos →
      (r'.motors w).currentPos = pos := by
    intro a ha
    rcases (r.motors w).call_cases (.moveToPosition pos) a with hcall | ⟨hstay, hcall⟩
    · rw [hsteps, hwrap] at hcall
      rw [(Prod.mk.inj (ha.trans hcall)).1]
    · rw [(Prod.mk.inj (ha.trans hcall)).1]
      exact position_ext (by omega)
  unfold Rig.moveToPosition at h
  simp only at h
  split_ifs at h with hback hforth
  · rcases Rig.move_eq h with ⟨a, -, -, ha⟩
    exact hmoved a (ha.trans (if_pos hback).symm)
  · rcases Rig.move_eq h with ⟨a, -, -, ha⟩
    exact hmoved a (ha.trans ((if_neg hback).trans (if_pos hforth)).symm)
  · rw [← (Prod.mk.inj (Option.some.inj h)).1]
    exact position_ext (by omega)

end Moves

/-! ### Runs -/

namespace Gear

variable {c : Plan} {s s' : Gear} {w : Which} {e : Meeting} {p : Which → Position}

/-- No command of `enable` is a move. -/
theorem commands_fit (a : Axis) : ∀ o ∈ a.commands, o.1 ≠ 0xF ∧ o.2.length < 256 := by
  have hcons : ∀ (code : UInt8) (data : List UInt8) (l : List (UInt8 × List UInt8)),
      code ≠ 0xF → data.length ≤ 4 → (∀ o ∈ l, o.1 ≠ 0xF ∧ o.2.length < 256) →
        ∀ o ∈ (code, data) :: l, o.1 ≠ 0xF ∧ o.2.length < 256 := by
    intro code data l hcode hdata hl o ho
    rcases List.mem_cons.mp ho with rfl | hmem
    · exact ⟨hcode, hdata.trans_lt (by decide)⟩
    · exact hl o hmem
  have hnil : ∀ o ∈ ([] : List (UInt8 × List UInt8)), o.1 ≠ 0xF ∧ o.2.length < 256 :=
    fun o ho => absurd ho List.not_mem_nil
  have hone : 1 ≤ 4 := by decide
  have htwo : 2 ≤ 4 := by decide
  unfold Axis.commands
  refine hcons 0x3 _ _ (by decide) hone (hcons 0x2 _ _ (by decide) hone ?_)
  intro o ho
  rcases List.mem_append.mp ho with ho | ho
  · rcases List.mem_append.mp ho with ho | ho
    · split at ho
      · exact hcons 0x6 [a.microSteps] [] (by decide) hone hnil o ho
      · exact hnil o ho
    · cases hspeed : a.speed with
      | none =>
          rw [hspeed] at ho
          exact hnil o ho
      | some bits =>
          rw [hspeed] at ho
          exact hcons 0x7 [255, 255] _ (by decide) htwo
            (hcons 0xD (littleEndian bits.1).reverse _ (by decide) (Nat.le_refl 4)
              (hcons 0xE (littleEndian bits.2).reverse [] (by decide) (Nat.le_refl 4) hnil)) o ho
  · exact hcons 0x5 [(a.backlash >>> 8).toUInt8, a.backlash.toUInt8] [] (by decide) htwo hnil o ho

theorem send_sound (h : s.rig.Sound p) {commands : List (UInt8 × List UInt8)}
    (hfit : ∀ o ∈ commands, o.1 ≠ 0xF ∧ o.2.length < 256) : (s.send w commands).rig.Sound p := by
  unfold send
  simp only
  generalize s.rig = r at h
  induction commands generalizing r with
  | nil => exact h
  | cons o commands ih =>
      have hnow := hfit o List.mem_cons_self
      exact ih (fun o' ho' => hfit o' (List.mem_cons_of_mem o ho')) _
        (Rig.sendCommandGeneral_sound h _ _ hnow.1 hnow.2)

theorem send_kept (s : Gear) (w : Which) (commands : List (UInt8 × List UInt8)) :
    (s.send w commands).rig.motors = s.rig.motors ∧
      (s.send w commands).rig.connected = s.rig.connected := by
  unfold send
  simp only
  generalize s.rig = r
  induction commands generalizing r with
  | nil => exact ⟨rfl, rfl⟩
  | cons o commands ih =>
      have hnext := ih (r.sendCommand w o.1 o.2).1
      have hmotors := (Rig.sendCommandGeneral_kept r nodeAddress w.motorAddress o.1 o.2).1
      have hbeside := sendCommandGeneral_beside w r nodeAddress w.motorAddress o.1 o.2
      exact ⟨hnext.1.trans hmotors, hnext.2.trans hbeside.connected⟩

theorem meets_sound (h : s.rig.Sound p) (hwakes : ∀ wake ∈ e.wakes, wake ≠ .never) :
    (s.meets e).rig.Sound p :=
  ⟨⟨h.ready.1, hwakes⟩, fun hdata => h.tied hdata, h.lines, h.position⟩

theorem enable_sound (h : s.rig.Sound p) (a : Axis) (w : Which) : (s.enable a w).rig.Sound p := by
  unfold enable
  split_ifs
  · exact h
  · exact h
  · exact send_sound h (commands_fit a)

theorem enable_kept (s : Gear) (a : Axis) (w : Which) :
    (s.enable a w).rig.motors = s.rig.motors ∧
      (s.enable a w).rig.connected = s.rig.connected ∧ (s.enable a w).motion = s.motion := by
  unfold enable
  split_ifs
  · exact ⟨rfl, rfl, rfl⟩
  · exact ⟨rfl, rfl, rfl⟩
  · have hkept := send_kept { s with enabled := Function.update s.enabled w true } w a.commands
    exact ⟨hkept.1, hkept.2, rfl⟩

/-- A motor is moved to a position, and the others are left alone. -/
theorem moveMotor_moves {pos : Position} (h : s.moveMotor c w e pos = some s') :
    Beside w s.rig s'.rig ∧ s'.motion = s.motion ∧ (s'.rig.motors w).currentPos = pos := by
  unfold moveMotor at h
  rcases Option.map_eq_some_iff.mp h with ⟨⟨r, ok⟩, hmove, rfl⟩
  rcases enable_kept (s.meets e) (c.axis w) w with ⟨hmotors, hconnected, hmotion⟩
  have hbeside := moveToPosition_beside hmove
  refine ⟨⟨hbeside.connected.trans hconnected, fun w' hw => ?_⟩, hmotion,
    moveToPosition_position hmove⟩
  exact (hbeside.motors w' hw).trans (congrFun hmotors w')

theorem moveMotor_sound {pos : Position} (h : s.rig.Sound p) (hfits : s.MeetsFit c w e)
    (hmove : s.moveMotor c w e pos = some s') : s'.rig.Sound p := by
  unfold moveMotor at hmove
  rcases Option.map_eq_some_iff.mp hmove with ⟨⟨r, ok⟩, hmoved, rfl⟩
  exact Rig.moveToPosition_sound (enable_sound (meets_sound h hfits.1) _ _) _ _ _ hfits.2 hmoved

/-- Whatever is done, the orders are those that have been written, and the positions are the
    sums of their steps. -/
theorem step_sound {m : GearMove} (h : s.rig.Sound p) (hfits : s.Fits c m)
    (hstep : s.step c m = some s') : s'.rig.Sound p := by
  unfold step at hstep
  cases m with
  | first =>
      rw [← Option.some.inj hstep]
      exact h
  | gap g =>
      rw [← Option.some.inj hstep]
      exact h
  | motor w e =>
      simp only at hstep
      split at hstep
      · rcases Option.bind_eq_some_iff.mp hstep with ⟨pos, -, hmove⟩
        exact moveMotor_sound h hfits hmove
      · rw [← Option.some.inj hstep]
        exact h
  | axis w ms e =>
      simp only at hstep
      split at hstep
      · rcases Option.bind_eq_some_iff.mp hstep with ⟨pos, -, hmove⟩
        exact moveMotor_sound h hfits hmove
      · rw [← Option.some.inj hstep]
        exact h
  | disable w e =>
      rw [← Option.some.inj hstep]
      refine send_sound (meets_sound h hfits) ?_
      decide
  | other l =>
      rcases Option.map_eq_some_iff.mp hstep with ⟨r, hr, rfl⟩
      exact Rig.step_sound h hfits hr

theorem run_sound {start : Gear} (hstart : start.rig.Begun) (h : Run (step c) (Fits c) start s) :
    s.rig.Sound fun w => (start.rig.motors w).currentPos :=
  h.invariant (fun s => s.rig.Sound fun w => (start.rig.motors w).currentPos)
    (fun _ _ _ hs hfits hstep => step_sound hs hfits hstep) hstart.sound

/-- A motor that is connected comes to where its keyframes say. -/
theorem motor_moves (h : s.step c (.motor w e) = some s') :
    Beside w s.rig s'.rig ∧ s'.motion = s.motion ∧ (s.rig.connected w = true →
      c.position w s.motion.motionMS = some (s'.rig.motors w).currentPos) := by
  unfold step at h
  simp only at h
  split at h
  · rcases Option.bind_eq_some_iff.mp h with ⟨pos, hpos, hmove⟩
    rcases moveMotor_moves hmove with ⟨hbeside, hmotion, hcame⟩
    refine ⟨hbeside, hmotion, fun _ => ?_⟩
    rw [hpos, hcame]
  · next hoff =>
      rw [← Option.some.inj h]
      exact ⟨.refl w s.rig, rfl, fun hon => absurd hon hoff⟩

/-- What is done in a gap. -/
def inGap (g : Gap) (e : Which → Meeting) : List GearMove :=
  [.gap g, .motor .motor1 (e .motor1), .motor .motor2 (e .motor2), .motor .motor3 (e .motor3)]

/-- Each motor is moved, and the next ones leave it where it is. -/
theorem inGap_moves {g : Gap} {e : Which → Meeting}
    (h : Path (step c) (Fits c) s (inGap g e) s') (hconnected : s.rig.connected w = true) :
    c.position w (s.motion.gap g).motionMS = some (s'.rig.motors w).currentPos := by
  unfold inGap at h
  cases h with
  | cons _ _ _ hgap h =>
  cases h with
  | cons _ _ _ hone h =>
  cases h with
  | cons _ _ _ htwo h =>
  cases h with
  | cons _ _ _ hthree h =>
  cases h with
  | nil =>
      have hbegun := Option.some.inj hgap
      rcases motor_moves hone with ⟨hbeside1, hmotion1, hmoved1⟩
      rcases motor_moves htwo with ⟨hbeside2, hmotion2, hmoved2⟩
      rcases motor_moves hthree with ⟨hbeside3, hmotion3, hmoved3⟩
      rw [← hbegun] at hbeside1 hmotion1 hmoved1
      rw [hmotion1] at hmotion2 hmoved2
      rw [hmotion2] at hmoved3
      rw [hbeside1.connected] at hmoved2
      rw [hbeside2.connected, hbeside1.connected] at hmoved3
      cases w with
      | motor1 =>
          rw [hbeside3.motors .motor1 (by decide), hbeside2.motors .motor1 (by decide)]
          exact hmoved1 hconnected
      | motor2 =>
          rw [hbeside3.motors .motor2 (by decide)]
          exact hmoved2 hconnected
      | motor3 => exact hmoved3 hconnected

/-- From the time of the last keyframe on, this is where a motor is. -/
theorem position_last {ms : Nat} {pos : Position} (hms : (c.kf w).last.ms ≤ ms)
    (h : c.position w ms = some pos) : pos.val = (c.kf w).last.value := by
  unfold Plan.position KeyframeGroup.interpolateKeyframe at h
  rw [if_pos hms, Option.bind_some] at h
  unfold toPosition at h
  split at h
  · rw [← Option.some.inj h]
    exact le_antisymm (Trimmed.trunc_le le_rfl) (Trimmed.le_trunc le_rfl)
  · cases h

/-- A motor is to go a hundred steps a second for a minute. -/
def minute : Plan where
  kf := fun _ =>
    { keyframes := fun i => if i = 0 then ⟨0, 0, ms_start_lt⟩ else ⟨6000, 60000, ms_minute_lt⟩
      count := 2 }
  linearInterpolation := true
  axis := fun _ => { powerSave := 1, microSteps := 4, speed := none, backlash := 300 }

/-- The first motor is connected, and nothing has been done with it. -/
def begun : Gear where
  rig := { Rig.ready with connected := fun w => decide (w = .motor1) }
  enabled := fun _ => false
  motion := .start

theorem begun_begun : begun.rig.Begun where
  present := rfl
  waking := fun _ hwake => absurd hwake List.not_mem_nil
  tied := Radio.tied_cmd rfl
  sent := rfl
  given := rfl
  missed := fun _ => rfl

end Gear

end Shutter

end TimelapsePlus
