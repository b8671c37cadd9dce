import TimelapsePlus.Shutter.Task

/-!
# The Main Loop and the Interval

A turn of the main loop runs `updateConditions`, the menu, the intervalometer and,
last, the event the remote has sent. A ramp's number of photos is its duration over
its interval, and a programme can come with an interval of zero from the menu, from
the EEPROM and from the remote. `updateConditions` puts that right at the start of
a turn. So what the remote sets is right before the intervalometer looks at it, and
what the menu sets is not: the menu comes between the two.

While a run is on, the menu hides what would change its programme. But a screen that
comes up by itself, such as the calibration when a camera is connected, leaves the
menu where the run was started from, with a run still waiting for its alerts.

## Main definitions

* `Phase`: How far a turn of the main loop has come.
* `Desk`: The intervalometer, what is stored, and the main loop's place.
* `updateConditions`: The part of it that repairs the programme.
* `Action`: What a call of the menu, or the remote's event, does.
* `Happening`, `Desk.step`: One step.
* `Desk.Divides`: The intervalometer is about to divide by the interval.
* `Desk.Careful`: The menu does not take the interval from a run in its precheck.

## Theorems

* `step_repaired`: A step keeps the interval of a run about to start.
* `run_gap`: In a careful run the interval divided by is not zero.
* `gap_zero`: A run in its precheck whose interval is edited away.
-/

namespace TimelapsePlus

namespace Menu

open Shutter

/-- How far a turn of the main loop has come. -/
inductive Phase
  | conditions
  | menu
  | timer
  | called
deriving Repr, DecidableEq

/-- A programme with the field of it that only the menu looks at. -/
structure Stored where
  program : Program
  gapMin : Nat

/-- The intervalometer with its programme, the programmes stored in the EEPROM, the
    time a camera needs between bulbs, which the menu edits as a `char` and the
    calibration sets to 13 at most, and how far the main loop has come. -/
structure Desk where
  timer : Intervalometer
  gapMin : Nat
  stored : Nat → Stored
  brampGap : Fin 256
  phase : Phase

/-- What a call of the menu, or an event of the remote, does to the intervalometer. -/
inductive Action
  | nothing
  /-- Values of the programme are edited, or the whole programme is set. -/
  | edit (p : Stored)
  /-- A stored programme is loaded, or gone back to. -/
  | load (id : Nat)
  /-- The current programme is stored. -/
  | save (id : Nat)
  /-- The time between bulbs is edited, or calibrated. -/
  | pad (gap : Fin 256)
  | begin
  | stop
  | pause (p : Bool)
  | confirm
  | switchTo (method : BrampMethod)

/-- What happens next: one of the parts of the main loop is called; a call of `task`
    shows the menu while it waits, or goes on; or something happens beside them. -/
inductive Happening
  | conditions
  | menu (a : Action)
  | task (f : Found)
  | loading (a : Action)
  | goOn (f : Found)
  | remote (a : Action)
  | beside (o : Order)

namespace Desk

/-- `BRAMP_INTERVAL_MIN`. -/
def brampIntervalMin (s : Desk) : Nat := s.brampGap * 10 + 20

/-- `BRAMP_INTERVAL_VAR_MIN`. -/
def brampIntervalVarMin : Nat := 20

/-- `updateConditions`, as far as it changes the programme. -/
def updateConditions (s : Desk) : Desk :=
  let program := s.timer.program
  { s with
    timer := { s.timer with program := { program with
      gap :=
        if program.ramp && decide (program.gap < s.brampIntervalMin) then s.brampIntervalMin
        else program.gap } }
    gapMin :=
      if program.ramp && decide (s.gapMin < brampIntervalVarMin) then brampIntervalVarMin
      else s.gapMin }

/-- A programme is set. -/
def setProgram (s : Desk) (p : Stored) : Desk :=
  { s with timer := { s.timer with program := p.program }, gapMin := p.gapMin }

/-- The intervalometer does what it is told. -/
def order (s : Desk) (o : Order) : Option Desk :=
  (s.timer.step o).map fun timer => { s with timer := timer }

/-- What a call of the menu, or an event of the remote, does. -/
def act (s : Desk) : Action → Option Desk
  | .nothing => some s
  | .edit p => some (s.setProgram p)
  | .load id => some (s.setProgram (s.stored id))
  | .save id =>
    some { s with stored := Function.update s.stored id ⟨s.timer.program, s.gapMin⟩ }
  | .pad gap => some { s with brampGap := gap }
  | .begin => s.order .begin
  | .stop => s.order .stop
  | .pause p => s.order (.pause p)
  | .confirm => s.order .confirm
  | .switchTo method => s.order (.switchTo method)

/-- What happens to the intervalometer at any time, whatever the main loop does. -/
def Beside : Order → Bool
  | .tick _ | .resume | .pins _ _ | .connect _ _ => true
  | _ => false

/-- One step. -/
def step (s : Desk) : Happening → Option Desk
  | .conditions =>
    if s.phase = .conditions then some { s.updateConditions with phase := .menu } else none
  | .menu a =>
    if s.phase = .menu then (s.act a).map fun t => { t with phase := .timer } else none
  | .task f =>
    if s.phase = .timer then (s.order (.task f)).map fun t => { t with phase := .called }
    else none
  | .loading a =>
    if s.phase = .called ∧ s.timer.place = some .loading then s.act a else none
  | .goOn f => if s.phase = .called then s.order (.goOn f) else none
  | .remote a =>
    if s.phase = .called ∧ s.timer.atRest = true then
      (s.act a).map fun t => { t with phase := .conditions }
    else none
  | .beside o => if Beside o then s.order o else none

/-- The next call of `task` divides a ramp's duration by its interval. -/
def Divides (s : Desk) : Prop :=
  s.phase = .timer ∧ s.timer.toStart = true ∧ s.timer.program.ramp = true

instance (s : Desk) : Decidable s.Divides := inferInstanceAs (Decidable (_ ∧ _ ∧ _))

/-- A ramp programme has an interval. -/
def Spaced (p : Program) : Prop := p.ramp = true → p.gap ≠ 0

instance (p : Program) : Decidable (Spaced p) := inferInstanceAs (Decidable (_ → _))

/-- The menu leaves a run in its precheck no ramp without an interval. -/
def Careful (s : Desk) : Happening → Prop
  | .menu (.edit p) => s.timer.toStart = true → Spaced p.program
  | .menu (.load id) => s.timer.toStart = true → Spaced (s.stored id).program
  | _ => True

instance (s : Desk) (h : Happening) : Decidable (s.Careful h) :=
  match h with
  | .menu (.edit _) => inferInstanceAs (Decidable (_ → _))
  | .menu (.load _) => inferInstanceAs (Decidable (_ → _))
  | .menu .nothing | .menu (.save _) | .menu (.pad _) | .menu .begin | .menu .stop
  | .menu (.pause _) | .menu .confirm | .menu (.switchTo _) => inferInstanceAs (Decidable True)
  | .conditions | .task _ | .loading _ | .goOn _ | .remote _ | .beside _ =>
    inferInstanceAs (Decidable True)

/-- What careful steps keep: the programme is in order when the menu is called, and
    that of a run about to start when the intervalometer is. -/
def Repaired (s : Desk) : Prop :=
  match s.phase with
  | .menu => Spaced s.timer.program
  | .timer => s.timer.toStart = true → Spaced s.timer.program
  | _ => True

/-- `updateConditions` gives a ramp an interval. -/
theorem updateConditions_spaced (s : Desk) : Spaced s.updateConditions.timer.program := by
  intro hramp
  simp only [updateConditions] at hramp ⊢
  by_cases hsmall : s.timer.program.gap < s.brampIntervalMin
  · rw [hramp, decide_eq_true hsmall]
    unfold brampIntervalMin
    simp only [Bool.and_self, if_true]
    omega
  · rw [decide_eq_false hsmall, Bool.and_false, if_neg Bool.false_ne_true]
    unfold brampIntervalMin at hsmall
    omega

/-- What happens beside the main loop changes neither the programme nor whether a
    run is about to start. -/
theorem beside_same {s t : Intervalometer} {o : Order} (ho : Beside o = true)
    (hstep : s.step o = some t) : t.program = s.program ∧ t.toStart = s.toStart := by
  cases o with
  | tick io =>
      obtain rfl := Option.some.inj hstep
      exact ⟨rfl, rfl⟩
  | resume =>
      rcases Option.map_eq_some_iff.mp hstep with ⟨w, -, rfl⟩
      exact ⟨rfl, rfl⟩
  | pins cablePin syncPin =>
      obtain rfl := Option.some.inj hstep
      exact ⟨rfl, rfl⟩
  | connect link disabled =>
      obtain rfl := Option.some.inj hstep
      exact ⟨rfl, rfl⟩
  | _ => exact absurd ho Bool.false_ne_true

/-- An order of the menu that is no edit leaves the interval alone. -/
theorem order_spaced {s t : Desk} {o : Order} (ho : ∀ f, o ≠ .task f ∧ o ≠ .goOn f)
    (hs : Spaced s.timer.program) (hstep : s.order o = some t) : Spaced t.timer.program := by
  rcases Option.map_eq_some_iff.mp hstep with ⟨u, hu, rfl⟩
  by_cases hbeside : Beside o = true
  · simp only
    rw [(beside_same hbeside hu).1]
    exact hs
  · cases o with
    | task f => exact absurd rfl (ho f).1
    | goOn f => exact absurd rfl (ho f).2
    | pause p =>
        simp only [Intervalometer.step, Intervalometer.pause] at hu
        split_ifs at hu <;> obtain rfl := Option.some.inj hu <;> exact hs
    | confirm =>
        simp only [Intervalometer.step, Intervalometer.confirm] at hu
        split_ifs at hu <;> obtain rfl := Option.some.inj hu <;> exact hs
    | begin | stop =>
        simp only [Intervalometer.step] at hu
        split_ifs at hu
        obtain rfl := Option.some.inj hu
        exact hs
    | switchTo method =>
        simp only [Intervalometer.step] at hu
        by_cases hrest : s.timer.atRest = true
        · rw [if_pos hrest] at hu
          obtain rfl := Option.some.inj hu
          exact hs
        · rw [if_neg hrest] at hu
          exact absurd hu (by simp only [reduceCtorEq, not_false_eq_true])
    | tick | resume | pins | connect => exact absurd rfl hbeside

theorem order_phase {s t : Desk} {o : Order} (hstep : s.order o = some t) :
    t.phase = s.phase := by
  rcases Option.map_eq_some_iff.mp hstep with ⟨u, -, rfl⟩
  rfl

/-- A call of the menu leaves a run about to start its interval. -/
theorem act_spaced {s t : Desk} (a : Action) (hs : Spaced s.timer.program)
    (hcareful : s.Careful (.menu a)) (hact : s.act a = some t) :
    t.timer.toStart = true → Spaced t.timer.program := by
  cases a with
  | nothing =>
      obtain rfl := Option.some.inj hact
      exact fun _ => hs
  | save id =>
      obtain rfl := Option.some.inj hact
      exact fun _ => hs
  | pad gap =>
      obtain rfl := Option.some.inj hact
      exact fun _ => hs
  | edit p =>
      -- An edit neither starts a run nor stops one.
      obtain rfl := Option.some.inj hact
      exact hcareful
  | load id =>
      obtain rfl := Option.some.inj hact
      exact hcareful
  | begin => exact fun _ => order_spaced (o := .begin) (fun f => ⟨nofun, nofun⟩) hs hact
  | stop => exact fun _ => order_spaced (o := .stop) (fun f => ⟨nofun, nofun⟩) hs hact
  | pause p => exact fun _ => order_spaced (o := .pause p) (fun f => ⟨nofun, nofun⟩) hs hact
  | confirm => exact fun _ => order_spaced (o := .confirm) (fun f => ⟨nofun, nofun⟩) hs hact
  | switchTo method =>
      exact fun _ => order_spaced (o := .switchTo method) (fun f => ⟨nofun, nofun⟩) hs hact

theorem act_phase {s t : Desk} (a : Action) (hact : s.act a = some t) : t.phase = s.phase := by
  cases a with
  | begin | stop | pause | confirm | switchTo => exact order_phase hact
  | nothing | edit | load | save | pad =>
      obtain rfl := Option.some.inj hact
      rfl

/-- A careful step keeps the interval of a run about to start. -/
theorem step_repaired {s t : Desk} (h : Happening) (hs : s.Repaired) (hcareful : s.Careful h)
    (hstep : s.step h = some t) : t.Repaired := by
  cases h with
  | conditions =>
      simp only [step] at hstep
      split_ifs at hstep
      obtain rfl := Option.some.inj hstep
      exact updateConditions_spaced s
  | menu a =>
      simp only [step] at hstep
      split_ifs at hstep with hphase
      rcases Option.map_eq_some_iff.mp hstep with ⟨u, hact, rfl⟩
      unfold Repaired at hs
      rw [hphase] at hs
      have hspaced := act_spaced a hs hcareful hact
      exact hspaced
  | task f =>
      simp only [step] at hstep
      split_ifs at hstep
      rcases Option.map_eq_some_iff.mp hstep with ⟨u, -, rfl⟩
      trivial
  | loading a =>
      simp only [step] at hstep
      split_ifs at hstep with hphase
      unfold Repaired
      rw [act_phase a hstep, hphase.1]
      trivial
  | goOn f =>
      simp only [step] at hstep
      split_ifs at hstep with hphase
      unfold Repaired
      rw [order_phase hstep, hphase]
      trivial
  | remote a =>
      simp only [step] at hstep
      split_ifs at hstep
      rcases Option.map_eq_some_iff.mp hstep with ⟨u, -, rfl⟩
      trivial
  | beside o =>
      simp only [step] at hstep
      split_ifs at hstep with hbeside
      rcases Option.map_eq_some_iff.mp hstep with ⟨u, hu, rfl⟩
      obtain ⟨hprogram, hstart⟩ := beside_same hbeside hu
      unfold Repaired at hs ⊢
      simp only [hprogram, hstart]
      exact hs

/-- The main loop is entered, with whatever has been stored. -/
def boot (timer : Intervalometer) (gapMin : Nat) (stored : Nat → Stored)
    (brampGap : Fin 256) : Desk :=
  ⟨timer, gapMin, stored, brampGap, .conditions⟩

/-- In a run whose menus are careful, the interval that a ramp's duration is divided
    by is not zero. -/
theorem run_gap (timer : Intervalometer) (gapMin : Nat) (stored : Nat → Stored)
    (brampGap : Fin 256) (s : Desk)
    (h : Run step Careful (boot timer gapMin stored brampGap) s) (hs : s.Divides) :
    s.timer.program.gap ≠ 0 := by
  have hrepaired : s.Repaired :=
    h.invariant Repaired (fun _ l _ hinv hok hstep => step_repaired l hinv hok hstep) trivial
  unfold Repaired at hrepaired
  rw [hs.1] at hrepaired
  exact hrepaired hs.2.1 hs.2.2

/-- A ramp of four hours with the interval given. -/
def rampProgram (gap : Nat) : Program := { Program.plain with ramp := true, gap := gap }

/-- The main loop is entered with a ramp of ten photos set, and no camera. -/
def fresh : Desk :=
  boot (Intervalometer.idle (World.idle cableSettings 0 .none) (rampProgram 360)) 60
    (fun _ => ⟨rampProgram 360, 60⟩) 6

/-- A run is started from the menu. -/
theorem run_gap_begun : ∃ s, Run step Careful fresh s ∧ s.Divides ∧ s.timer.program.gap ≠ 0 := by
  have hallowed : allowed step Careful fresh [.conditions, .menu .begin] = true := by
    decide +kernel
  rcases run_of_allowed _ hallowed with ⟨s, hsteps, hrun⟩
  have hdivides : (steps step fresh [.conditions, .menu .begin]).map
      (fun s => decide s.Divides) = some true := by decide +kernel
  rw [hsteps] at hdivides
  have hs := of_decide_eq_true (Option.some.inj hdivides)
  exact ⟨s, hrun, hs, run_gap _ _ _ _ s hrun hs⟩

/-- A run waits in its precheck for an alert, the menu takes its interval away, and
    its duration is divided by zero. -/
theorem gap_zero : ∃ s, Run step (fun _ _ => True) fresh s ∧ s.Divides ∧
    s.timer.program.gap = 0 := by
  have hrun : (steps step fresh [.conditions, .menu .begin,
      .task { Found.plain with alert := true }, .remote .nothing,
      .conditions, .menu (.edit ⟨rampProgram 0, 60⟩)]).map
      (fun s => decide s.Divides && decide (s.timer.program.gap = 0)) = some true := by
    decide +kernel
  rcases Option.map_eq_some_iff.mp hrun with ⟨s, hsteps, hs⟩
  rw [Bool.and_eq_true] at hs
  exact ⟨s, run_of_steps _ hsteps, of_decide_eq_true hs.1, of_decide_eq_true hs.2⟩

end Desk

end Menu

end TimelapsePlus
