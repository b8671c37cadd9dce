import Mathlib.Logic.Function.Basic
import TimelapsePlus.Eeprom.Settings
import TimelapsePlus.Lib.Extremes
import TimelapsePlus.Math.Median
import TimelapsePlus.Menu.Alerts
import TimelapsePlus.Menu.BulbSearch

/-!
# Calibrating the Camera

The calibration opens and closes the shutter some times, and watches the PC sync input
to see when the camera does it. From the lags it takes the offsets that are added to an
exposure, from the time the camera is busy the gap between two exposures, and from a
search the shortest one.

Some of this is written to the settings as it is measured, and the offsets are worked
out and written when the test has failed as well. They are the medians of five samples.
Of a test that fails not all five are there, nor are they for a Sony, which is tested
three times, and what is left in memory takes the place of the others.

The gap is only ever raised, but in the first loop, and there only if the camera is busy
when it is first asked. And the search goes by the shortest exposure that is set, which
is the old one in the first loop.

What the hardware does in a loop is given: the milliseconds until the input changes, how
many starts end with an error, and how long the camera is busy. The floats of the medians
are rounded in any way that keeps the order and integers.

## Main definitions

* `Trial`, `Script`: What happens in a loop, and in a test.
* `await`, `gap`: A wait for the input, and the gap for a time.
* `trial`, `finish`, `autoConfigureCameraTiming`: A loop, what comes after the loops, and
  the function of the source.
* `stored`: What a test is for.
* `Calibrates`: A test that fails changes nothing, and one that passes stores what does
  not depend on what was there before.
* `Script.Passes`: The test passes.
* `Settled`: The settings from before make no difference to what is stored.
* `Script.gapFrom`, `Script.evFrom`: The gap and the exposure that five loops come to.

## Theorems

* `trial_ok`, `trial_not_ok`: What a loop does.
* `run_pass`, `run_samples`, `run_camera`: What the loops do.
* `finish_eq`: What comes after them.
* `alike_run`: The samples do not depend on the settings.
* `failure_changes`: A test that fails changes the settings.
* `sony_varies`: What is stored for a Sony depends on what was in memory.
* `calibrates_iff`: When a test is right about the settings.
* `failure_stores`: An offset is stored though the cable is not connected.
-/

namespace TimelapsePlus

namespace Menu

namespace Calibration

open Eeprom Extremes Math Trimmed

/-- `SHUTTER_TEST_TIMEOUT_MS`. -/
def testTimeout : Nat := 2500

/-- `SHUTTER_TEST_COUNT`. -/
def shutterTestCount : Nat := 5

instance : NeZero shutterTestCount := ⟨by decide⟩

/-- `SONY`. -/
def sony : UInt8 := 2

/-- What happens in a loop: when the input is clear; the starts that end with an error, and
    when the input changes after the one that does not, and after the end; for how long the
    camera is busy, if it is; and the same once more at the shortest exposure, with the clock
    after the start. -/
structure Trial where
  cleared : Option Nat
  errors : Nat
  opened : Option Nat
  closed : Option Nat
  busy : Option Nat
  retries : Nat
  started : UInt32
  reopened : Option Nat
  reclosed : Option Nat
  stillBusy : Option Nat

/-- What happens in a test: if the input is set to begin with, and the loops. -/
structure Script where
  auxInput : Bool
  trials : Fin shutterTestCount → Trial

/-- A wait for the input, if and when it changes: if that is in time, and the clock then. -/
def await : Option Nat → Bool × Nat
  | some ms => if ms ≤ testTimeout then (true, ms) else (false, testTimeout + 1)
  | none => (false, testTimeout + 1)

/-- The gap for a time. -/
def gap (ms : UInt32) : UInt16 := ((ms + 500) / 1000).toUInt16 + 1

/-- The gap for the time the camera is busy. -/
def busyGap (ms : Nat) : UInt16 := gap (UInt32.ofNat (if ms ≤ 12000 then ms else 12001))

/-- A gap that is longer is stored. -/
def raise (g b : UInt16) : UInt16 := if g < b then b else g

/-- The state of the loops. -/
structure Progress where
  pass : Bool
  camera : CameraSettings
  bOffsetArray : Fin shutterTestCount → Int16
  eLagArray : Fin shutterTestCount → UInt16

/-- What has to be as short as an exposure: the lag of the end, or what is left of that of
    the start. -/
def Trial.minTime (pcSync : Bool) (t : Trial) : Int :=
  let startLag := (await t.opened).2
  let endLag := (await t.closed).2
  max endLag (if pcSync = true then (endLag : Int) else startLag - endLag)

/-- The samples of a loop: the lag of the start less that of the end, and that of the end. -/
def Trial.offset (t : Trial) : Int16 :=
  Int16.ofInt (((await t.reopened).2 : Int) - (await t.reclosed).2)

def Trial.endLag (t : Trial) : UInt16 := UInt16.ofNat (await t.reclosed).2

variable (env : SearchEnv) (pcSync : Bool)

/-- The loop, when it has seen the shutter open and close once. -/
def retest (i : Fin shutterTestCount) (t : Trial) (s : Progress) : Progress :=
  let c := s.camera
  let brampGap := match t.busy with
    | some ms => if i = 0 ∨ c.brampGap < busyGap ms then busyGap ms else c.brampGap
    | none => c.brampGap
  let found := env.findMin c.bulbMin (t.minTime pcSync) 100 SearchEnv.bulbMinStatic
  let brampGap := raise brampGap (gap t.started)
  match found with
  | some bulbMin =>
    if t.retries < 50 ∧ (await t.reopened).1 = true ∧ (await t.reclosed).1 = true then
      let brampGap := match t.stillBusy with
        | some ms => raise brampGap (busyGap ms)
        | none => brampGap
      let bulbMin :=
        if i = 0 ∨ bulbMin < c.bulbMin.toNat then UInt8.ofNat bulbMin else c.bulbMin
      { pass := true
        camera := { c with brampGap := brampGap, bulbMin := bulbMin }
        bOffsetArray := Function.update s.bOffsetArray i t.offset
        eLagArray := Function.update s.eLagArray i t.endLag }
    else { s with pass := false, camera := { c with brampGap := brampGap } }
  | none => { s with pass := false, camera := { c with brampGap := brampGap } }

/-- One loop. -/
def trial (i : Fin shutterTestCount) (t : Trial) (s : Progress) : Progress :=
  if (await t.cleared).1 = true ∧ t.errors < 50 ∧ (await t.opened).1 = true ∧
      (await t.closed).1 = true then
    retest env pcSync i t s
  else { s with pass := false }

/-- The loops that are made, for the make of the camera. -/
def loops (make : UInt8) : List (Fin shutterTestCount) := if make = sony then [0, 1, 2] else [0, 1, 2, 3, 4]

/-- The loops, as long as the test passes. -/
def run (trials : Fin shutterTestCount → Trial) (is : List (Fin shutterTestCount)) (s : Progress) : Progress :=
  is.foldl (fun s i => if s.pass = true then trial env pcSync i (trials i) s else s) s

/-- What comes after the loops. The arrays have five elements, so they have medians. -/
def finish (R : Rounding 24) (s : Progress) : CameraSettings :=
  let tmpOffset := (arrayMedian50Int R (List.ofFn s.bOffsetArray) 5).getD 0
  let endOffset := (arrayMedian50UInt R (List.ofFn s.eLagArray) 5).getD 0
  let camera :=
    if tmpOffset < 0 then
      { s.camera with negBulbOffset := 1, bulbOffset := (0 - tmpOffset).toUInt16 }
    else { s.camera with negBulbOffset := 0, bulbOffset := tmpOffset.toUInt16 }
  let camera := { camera with bulbEndOffset := endOffset }
  if s.pass = true then { camera with autoConfigured := 1 } else camera

/-- What is in memory where the arrays are. -/
structure Memory where
  bOffsetArray : Fin shutterTestCount → Int16
  eLagArray : Fin shutterTestCount → UInt16

/-- The state the loops begin with. -/
def begin (c : CameraSettings) (m : Memory) (auxInput : Bool) : Progress :=
  ⟨!auxInput, c, m.bOffsetArray, m.eLagArray⟩

/-- What a call comes to: the settings, if there was a test and it passed, and what is
    returned. A test that has passed is also saved. -/
structure Outcome where
  camera : CameraSettings
  passed : Option Bool
  ret : Fn

/-- The loops of a test. -/
def test (script : Script) (c : CameraSettings) (m : Memory) : Progress :=
  run env pcSync script.trials (loops c.cameraMake) (begin c m script.auxInput)

/-- `autoConfigureCameraTiming`. -/
def autoConfigureCameraTiming (R : Rounding 24) (key : Key) (m : Memory) (script : Script)
    (c : CameraSettings) : Outcome :=
  match key with
  | .fr =>
      let s := test env pcSync script c m
      ⟨finish R s, some s.pass, .goOn⟩
  | .fl | .left => ⟨c, none, .cancel⟩
  | _ => ⟨c, none, .goOn⟩

/-- What a test is for. -/
structure Stored where
  brampGap : UInt16
  bulbMin : UInt8
  bulbOffset : UInt16
  negBulbOffset : UInt8
  bulbEndOffset : UInt16
  autoConfigured : UInt8

def stored (c : CameraSettings) : Stored :=
  ⟨c.brampGap, c.bulbMin, c.bulbOffset, c.negBulbOffset, c.bulbEndOffset, c.autoConfigured⟩

/-- A test, for a make of the camera: if it fails it changes nothing, and if it passes it
    does, and stores the same, whatever the settings were and whatever was in memory. -/
def Calibrates (R : Rounding 24) (make : UInt8) (script : Script) : Prop :=
  ∀ c m, c.cameraMake = make →
    let r := autoConfigureCameraTiming env pcSync R .fr m script c
    (r.passed = some false → r.camera = c) ∧
      (r.passed = some true → ∀ c' m', c'.cameraMake = make →
        let r' := autoConfigureCameraTiming env pcSync R .fr m' script c'
        r'.passed = some true ∧ stored r'.camera = stored r.camera)

/-- The settings of a camera of a make that nothing else is known of. -/
def blank (make : UInt8) : CameraSettings where
  cameraName := List.Vector.replicate 13 0
  cameraSerial := List.Vector.replicate 22 0
  cameraFPS := 0
  bulbMode := 0
  cameraMake := make
  halfPress := 0
  bulbOffset := 0
  negBulbOffset := 0
  interface := 0
  modeSwitch := 0
  bulbMin := 0
  nikonUSB := 0
  bulbEndOffset := 0
  autoConfigured := 0
  brampGap := 0
  canonLVOC := 0

/-- Without the key for it there is no test, and nothing is changed. -/
theorem camera_of_key {R : Rounding 24} {key : Key} (hkey : key ≠ .fr) (m : Memory)
    (script : Script) (c : CameraSettings) :
    (autoConfigureCameraTiming env pcSync R key m script c).camera = c := by
  cases key with
  | fr => exact absurd rfl hkey
  | none => rfl
  | fl => rfl
  | left => rfl
  | right => rfl
  | up => rfl
  | down => rfl

/-- A loop passes. -/
def Trial.ok (t : Trial) : Bool :=
  decide (((await t.cleared).1 = true ∧ t.errors < 50 ∧ (await t.opened).1 = true ∧
    (await t.closed).1 = true) ∧
      t.retries < 50 ∧ (await t.reopened).1 = true ∧ (await t.reclosed).1 = true)

/-- The test passes: the input is not set to begin with, and all loops pass. -/
def Script.Passes (script : Script) (make : UInt8) : Prop :=
  script.auxInput = false ∧ ∀ i ∈ loops make, (script.trials i).ok = true

/-- The gaps that are measured in a loop. -/
def Trial.gaps (t : Trial) : List UInt16 :=
  (t.busy.map busyGap).toList ++ [gap t.started] ++ (t.stillBusy.map busyGap).toList

/-- The settings from before make no difference: the camera is busy when it is first asked,
    or a gap was measured that none is longer than; and the time of the first loop is not
    between the lengths that the tables have for an exposure, or that of another outlasts
    it. -/
structure Settled (script : Script) : Prop where
  gap : (script.trials 0).busy ≠ none ∨ ∃ i, 65535 ∈ (script.trials i).gaps
  bulbMin : Agreed ((script.trials 0).minTime pcSync) ∨
    ∃ i, i ≠ 0 ∧ Outlasts ((script.trials i).minTime pcSync) ((script.trials 0).minTime pcSync)

/-- The gap that five loops come to from one that is set. -/
def Script.gapFrom (script : Script) (g : UInt16) : UInt16 :=
  ([0, 1, 2, 3, 4].flatMap fun i => (script.trials i).gaps).foldl raise
    (if (script.trials 0).busy ≠ none then 0 else g)

/-- The exposure they come to. -/
def Script.evFrom (script : Script) (b : UInt8) : Nat :=
  [1, 2, 3, 4].foldl (fun ev i => min ev (shortestEv 61 ((script.trials i).minTime pcSync)))
    (shortestEv b ((script.trials 0).minTime pcSync))

section Gap

theorem raise_toNat (g b : UInt16) : (raise g b).toNat = max g.toNat b.toNat := by
  unfold raise
  split
  · next hlt =>
      rw [UInt16.lt_iff_toNat_lt] at hlt
      exact (max_eq_right hlt.le).symm
  · next hge =>
      rw [UInt16.lt_iff_toNat_lt, not_lt] at hge
      exact (max_eq_left hge).symm

theorem foldl_raise_toNat (g : UInt16) (l : List UInt16) :
    (l.foldl raise g).toNat = l.foldl (fun m x => max m x.toNat) g.toNat := by
  induction l generalizing g with
  | nil => rfl
  | cons x l ih => rw [List.foldl_cons, List.foldl_cons, ih, raise_toNat]

/-- Two gaps come to the same if a longer one is measured. -/
theorem foldl_raise_eq_iff {g g' : UInt16} {l : List UInt16} :
    l.foldl raise g = l.foldl raise g' ↔ g = g' ∨ ∃ x ∈ l, g ≤ x ∧ g' ≤ x := by
  rw [← UInt16.toNat_inj, foldl_raise_toNat, foldl_raise_toNat, foldl_max_eq_iff, UInt16.toNat_inj]
  simp only [UInt16.le_iff_toNat_le]

/-- Every gap comes to what the shortest one does if the longest there is is measured. -/
theorem foldl_raise_settled {l : List UInt16} :
    (∀ g, l.foldl raise g = l.foldl raise 0) ↔ 65535 ∈ l := by
  constructor
  · intro h
    rcases foldl_raise_eq_iff.mp (h 65535) with hzero | ⟨x, hx, hle, -⟩
    · cases hzero
    · rw [UInt16.le_iff_toNat_le] at hle
      have hlt := x.toNat_lt
      have hlongest : (65535 : UInt16).toNat = 65535 := rfl
      rwa [← UInt16.toNat_inj.mp (show x.toNat = (65535 : UInt16).toNat by omega)]
  · intro h g
    refine foldl_raise_eq_iff.mpr (Or.inr ⟨65535, h, ?_, ?_⟩)
    · rw [UInt16.le_iff_toNat_le]
      exact Nat.le_of_lt_succ g.toNat_lt
    · rw [UInt16.le_iff_toNat_le]
      exact Nat.zero_le _

end Gap

section Trials

variable {env pcSync} {t : Trial} {i : Fin shutterTestCount} {s : Progress}

/-- A wait that is in time takes no longer than that. -/
theorem await_le {change : Option Nat} (h : (await change).1 = true) :
    (await change).2 ≤ testTimeout := by
  cases change with
  | none => cases h
  | some ms =>
      simp only [await] at h ⊢
      by_cases hms : ms ≤ testTimeout
      · rw [if_pos hms]
        exact hms
      · rw [if_neg hms] at h
        cases h

/-- All waits are in time, and there are not too many errors. -/
theorem ok_iff : t.ok = true ↔ ((await t.cleared).1 = true ∧ t.errors < 50 ∧
    (await t.opened).1 = true ∧ (await t.closed).1 = true) ∧
      t.retries < 50 ∧ (await t.reopened).1 = true ∧ (await t.reclosed).1 = true := by
  unfold Trial.ok
  exact decide_eq_true_iff

theorem minTime_le (hopened : (await t.opened).1 = true) (hclosed : (await t.closed).1 = true) :
    t.minTime pcSync ≤ 2500 := by
  have hstart := await_le hopened
  have hend := await_le hclosed
  unfold testTimeout at hstart hend
  unfold Trial.minTime
  -- The lag of the end is not negative, so what is left of that of the start is no longer.
  simp only
  split
  · omega
  · omega

theorem minTime_le_of_ok (pcSync : Bool) (hok : t.ok = true) : t.minTime pcSync ≤ 2500 :=
  minTime_le (ok_iff.mp hok).1.2.2.1 (ok_iff.mp hok).1.2.2.2

/-- The gap is that of the settings, or none if the camera is busy in the first loop, raised
    by those that are measured. -/
theorem foldl_gaps (t : Trial) (i : Fin shutterTestCount) (g : UInt16) :
    t.gaps.foldl raise (if i = 0 ∧ t.busy ≠ none then 0 else g) =
      let g := match t.busy with
        | some ms => if i = 0 ∨ g < busyGap ms then busyGap ms else g
        | none => g
      match t.stillBusy with
        | some ms => raise (raise g (gap t.started)) (busyGap ms)
        | none => raise g (gap t.started) := by
  have hzero : ∀ b, raise 0 b = b := by
    intro b
    refine UInt16.toNat_inj.mp ?_
    rw [raise_toNat, UInt16.toNat_zero, Nat.zero_max]
  unfold Trial.gaps
  cases t.busy with
  | none =>
      cases t.stillBusy with
      | none => simp
      | some ms => simp
  | some ms =>
      -- In the first loop the gap that is set is replaced, and raised by it in the others.
      by_cases hi : i = 0
      · cases t.stillBusy with
        | none => simp [hi, hzero]
        | some ms' => simp [hi, hzero]
      · cases t.stillBusy with
        | none => simp [hi, raise]
        | some ms' => simp [hi, raise]

/-- A loop that passes. -/
theorem trial_ok (hok : t.ok = true) :
    trial env pcSync i t s =
      { pass := true
        camera :=
          { s.camera with
            brampGap :=
              t.gaps.foldl raise (if i = 0 ∧ t.busy ≠ none then 0 else s.camera.brampGap)
            bulbMin :=
              if i = 0 ∨ shortestEv s.camera.bulbMin (t.minTime pcSync) < s.camera.bulbMin.toNat
              then UInt8.ofNat (shortestEv s.camera.bulbMin (t.minTime pcSync))
              else s.camera.bulbMin }
        bOffsetArray := Function.update s.bOffsetArray i t.offset
        eLagArray := Function.update s.eLagArray i t.endLag } := by
  have hwait := minTime_le_of_ok pcSync hok
  have hparts := ok_iff.mp hok
  unfold trial retest
  rw [if_pos hparts.1]
  simp only
  -- The search ends, as no wait is as long as the longest exposure.
  rw [findMin_eq env _ hwait, foldl_gaps]
  simp only [if_pos hparts.2]

/-- One that does not leaves the samples alone. -/
theorem trial_not_ok (env : SearchEnv) (pcSync : Bool) (i : Fin shutterTestCount) (s : Progress)
    (hok : ¬ t.ok = true) :
    (trial env pcSync i t s).pass = false ∧
      (trial env pcSync i t s).bOffsetArray = s.bOffsetArray ∧
      (trial env pcSync i t s).eLagArray = s.eLagArray := by
  rw [ok_iff] at hok
  unfold trial
  split
  · next hfirst =>
      unfold retest
      simp only
      split
      · rw [if_neg fun h => hok ⟨hfirst, h⟩]
        exact ⟨rfl, rfl, rfl⟩
      · exact ⟨rfl, rfl, rfl⟩
  · exact ⟨rfl, rfl, rfl⟩

end Trials

section Loops

variable {env pcSync} {trials : Fin shutterTestCount → Trial} {is : List (Fin shutterTestCount)}
  {s s' : Progress}

theorem trial_pass (i : Fin shutterTestCount) (t : Trial) (s : Progress) :
    (trial env pcSync i t s).pass = t.ok := by
  by_cases hok : t.ok = true
  · rw [trial_ok hok, hok]
  · rw [(trial_not_ok env pcSync i s hok).1]
    exact (Bool.eq_false_iff.mpr hok).symm

theorem run_cons_pass {i : Fin shutterTestCount} (hpass : s.pass = true) :
    run env pcSync trials (i :: is) s =
      run env pcSync trials is (trial env pcSync i (trials i) s) := by
  unfold run
  rw [List.foldl_cons, if_pos hpass]

/-- When a loop has failed there are no more of them. -/
theorem run_fail (hpass : s.pass = false) : run env pcSync trials is s = s := by
  unfold run
  induction is with
  | nil => rfl
  | cons i is ih => rw [List.foldl_cons, if_neg (by rw [hpass]; exact Bool.false_ne_true), ih]

/-- The loops pass if each of them does. -/
theorem run_pass :
    (run env pcSync trials is s).pass = true ↔
      s.pass = true ∧ ∀ i ∈ is, (trials i).ok = true := by
  induction is generalizing s with
  | nil => exact ⟨fun h => ⟨h, fun i hi => absurd hi List.not_mem_nil⟩, fun h => h.1⟩
  | cons i is ih =>
      by_cases hpass : s.pass = true
      · rw [run_cons_pass hpass, ih, trial_pass, List.forall_mem_cons]
        exact (and_iff_right hpass).symm
      · rw [run_fail (Bool.eq_false_iff.mpr hpass)]
        exact ⟨fun h => absurd h hpass, fun h => absurd h.1 hpass⟩

/-- Two tests have come to the same, as far as it does not depend on the settings. -/
structure Alike (s s' : Progress) : Prop where
  pass : s.pass = s'.pass
  bOffsetArray : s.bOffsetArray = s'.bOffsetArray
  eLagArray : s.eLagArray = s'.eLagArray

theorem alike_trial (h : Alike s s') (i : Fin shutterTestCount) (t : Trial) :
    Alike (trial env pcSync i t s) (trial env pcSync i t s') := by
  by_cases hok : t.ok = true
  · rw [trial_ok hok, trial_ok hok]
    exact ⟨rfl, congrArg (Function.update · i t.offset) h.bOffsetArray,
      congrArg (Function.update · i t.endLag) h.eLagArray⟩
  · have hleft := trial_not_ok env pcSync i s hok
    have hright := trial_not_ok env pcSync i s' hok
    exact ⟨hleft.1.trans hright.1.symm,
      hleft.2.1.trans (h.bOffsetArray.trans hright.2.1.symm),
      hleft.2.2.trans (h.eLagArray.trans hright.2.2.symm)⟩

/-- The samples do not depend on the settings, and nor does it if the test passes. -/
theorem alike_run (h : Alike s s') :
    Alike (run env pcSync trials is s) (run env pcSync trials is s') := by
  induction is generalizing s s' with
  | nil => exact h
  | cons i is ih =>
      by_cases hpass : s.pass = true
      · rw [run_cons_pass hpass, run_cons_pass (h.pass ▸ hpass)]
        exact ih (alike_trial h i (trials i))
      · have hfail := Bool.eq_false_iff.mpr hpass
        rw [run_fail hfail, run_fail (h.pass ▸ hfail)]
        exact h

/-- Every loop that is made leaves its samples, and the others are what was in memory. -/
theorem run_samples (hpass : s.pass = true) (hok : ∀ i ∈ is, (trials i).ok = true) (j : Fin shutterTestCount) :
    (run env pcSync trials is s).bOffsetArray j =
        (if j ∈ is then (trials j).offset else s.bOffsetArray j) ∧
      (run env pcSync trials is s).eLagArray j =
        (if j ∈ is then (trials j).endLag else s.eLagArray j) := by
  induction is generalizing s with
  | nil => exact ⟨(if_neg List.not_mem_nil).symm, (if_neg List.not_mem_nil).symm⟩
  | cons i is ih =>
      have hhead := hok i List.mem_cons_self
      have hrest := ih (s := trial env pcSync i (trials i) s) ((trial_pass i _ s).trans hhead)
        fun k hk => hok k (List.mem_cons_of_mem i hk)
      rw [run_cons_pass hpass, hrest.1, hrest.2, trial_ok hhead]
      simp only [Function.update_apply, List.mem_cons]
      by_cases hj : j ∈ is
      · simp only [hj, or_true, if_true, and_self]
      · by_cases heq : j = i
        · subst heq
          simp only [hj, true_or, if_true, if_false, and_self]
        · simp only [heq, hj, or_self, if_false, and_self]

/-- What the loops after the first leave in the settings: the gap raised, and the lowest of
    the exposures, which are those of the list. -/
theorem run_camera (env : SearchEnv) (pcSync : Bool) (hpass : s.pass = true) (hok : ∀ i ∈ is, (trials i).ok = true)
    (hlater : ∀ i ∈ is, i ≠ 0) (hmin : s.camera.bulbMin.toNat ≤ 61) :
    (run env pcSync trials is s).camera.brampGap =
        (is.flatMap fun i => (trials i).gaps).foldl raise s.camera.brampGap ∧
      (run env pcSync trials is s).camera.bulbMin.toNat =
        is.foldl (fun m i => min m (shortestEv 61 ((trials i).minTime pcSync)))
          s.camera.bulbMin.toNat := by
  induction is generalizing s with
  | nil => exact ⟨rfl, rfl⟩
  | cons i is ih =>
      have hhead := hok i List.mem_cons_self
      have hwait := minTime_le_of_ok pcSync hhead
      have hne := hlater i List.mem_cons_self
      -- The search goes by what is set, and what is lower of the two is the same.
      have hsame := min_shortest (k := s.camera.bulbMin.toNat)
        (shortestEv_spec s.camera.bulbMin hwait) (shortestEv_spec 61 hwait) le_rfl hmin
      have hstored : (trial env pcSync i (trials i) s).camera.bulbMin.toNat =
          min s.camera.bulbMin.toNat (shortestEv 61 ((trials i).minTime pcSync)) := by
        rw [trial_ok hhead, ← hsame]
        simp only [hne, false_or]
        by_cases hlt : shortestEv s.camera.bulbMin ((trials i).minTime pcSync) <
            s.camera.bulbMin.toNat
        · rw [if_pos hlt, min_eq_right hlt.le, UInt8.toNat_ofNat', Nat.mod_eq_of_lt (by omega)]
        · rw [if_neg hlt, min_eq_left (not_lt.mp hlt)]
      have hgap : (trial env pcSync i (trials i) s).camera.brampGap =
          (trials i).gaps.foldl raise s.camera.brampGap := by
        rw [trial_ok hhead]
        simp only [hne, false_and, if_false]
      have hrest := ih (s := trial env pcSync i (trials i) s) ((trial_pass i _ s).trans hhead)
        (fun k hk => hok k (List.mem_cons_of_mem i hk))
        (fun k hk => hlater k (List.mem_cons_of_mem i hk)) (by omega)
      rw [run_cons_pass hpass, hrest.1, hrest.2, hstored, hgap]
      exact ⟨by rw [List.flatMap_cons, List.foldl_append], List.foldl_cons⟩

end Loops

section Test

variable {env pcSync} {R : Rounding 24} {script : Script} {c c' : CameraSettings} {m m' : Memory}
  {s s' : Progress}

theorem begin_pass {auxInput : Bool} : (begin c m auxInput).pass = true ↔ auxInput = false := by
  unfold begin
  rw [Bool.not_eq_true']

theorem test_pass : (test env pcSync script c m).pass = true ↔ script.Passes c.cameraMake := by
  unfold test Script.Passes
  rw [run_pass, begin_pass]

/-- The samples of a test do not depend on the settings. -/
theorem test_alike (hmake : c.cameraMake = c'.cameraMake) :
    Alike (test env pcSync script c m) (test env pcSync script c' m) := by
  unfold test
  rw [hmake]
  exact alike_run ⟨rfl, rfl, rfl⟩

/-- Of a test that passes they are its own as far as there are loops. -/
theorem test_samples (env : SearchEnv) (pcSync : Bool) (h : script.Passes c.cameraMake) (j : Fin shutterTestCount) :
    (test env pcSync script c m).bOffsetArray j =
        (if j ∈ loops c.cameraMake then (script.trials j).offset else m.bOffsetArray j) ∧
      (test env pcSync script c m).eLagArray j =
        (if j ∈ loops c.cameraMake then (script.trials j).endLag else m.eLagArray j) :=
  run_samples (begin_pass.mpr h.1) h.2 j

theorem loops_of_ne {make : UInt8} (hmake : make ≠ sony) : loops make = [0, 1, 2, 3, 4] :=
  if_neg hmake

theorem mem_five : ∀ i : Fin shutterTestCount, i ∈ [0, 1, 2, 3, 4] := by
  decide

theorem mem_loops {make : UInt8} (hmake : make ≠ sony) (i : Fin shutterTestCount) :
    i ∈ loops make := by
  rw [loops_of_ne hmake]
  exact mem_five i

/-- Two tests that pass have come to the same, if neither has left out a loop. -/
theorem alike_of_passes (h : script.Passes c.cameraMake) (h' : script.Passes c'.cameraMake)
    (hmake : c.cameraMake ≠ sony) (hmake' : c'.cameraMake ≠ sony) :
    Alike (test env pcSync script c m) (test env pcSync script c' m') where
  pass := (test_pass.mpr h).trans (test_pass.mpr h').symm
  bOffsetArray := by
    funext j
    rw [(test_samples env pcSync h j).1, (test_samples env pcSync h' j).1, if_pos (mem_loops hmake j),
      if_pos (mem_loops hmake' j)]
  eLagArray := by
    funext j
    rw [(test_samples env pcSync h j).2, (test_samples env pcSync h' j).2, if_pos (mem_loops hmake j),
      if_pos (mem_loops hmake' j)]

/-- What a test of five loops leaves in the settings if it passes. -/
theorem test_camera (env : SearchEnv) (pcSync : Bool) (m : Memory)
    (h : script.Passes c.cameraMake) (hmake : c.cameraMake ≠ sony) :
    (test env pcSync script c m).camera.brampGap = script.gapFrom c.brampGap ∧
      (test env pcSync script c m).camera.bulbMin.toNat = script.evFrom pcSync c.bulbMin := by
  have hall := h.2
  rw [loops_of_ne hmake] at hall
  have hfirst := hall 0 List.mem_cons_self
  have hhigh := (shortestEv_spec c.bulbMin (minTime_le_of_ok pcSync hfirst)).high
  -- The first loop replaces the exposure, and the gap if the camera is busy.
  set s := trial env pcSync 0 (script.trials 0) (begin c m script.auxInput) with hs
  have hgap : s.camera.brampGap = (script.trials 0).gaps.foldl raise
      (if (script.trials 0).busy ≠ none then 0 else c.brampGap) := by
    rw [hs, trial_ok hfirst]
    simp only [true_and]
    rfl
  have hmin : s.camera.bulbMin.toNat =
      shortestEv c.bulbMin ((script.trials 0).minTime pcSync) := by
    rw [hs, trial_ok hfirst]
    simp only [true_or, if_true]
    rw [UInt8.toNat_ofNat']
    exact Nat.mod_eq_of_lt (Nat.lt_of_le_of_lt hhigh (by decide))
  have hlater : ∀ i ∈ [1, 2, 3, 4], (script.trials i).ok = true := fun i hi =>
    hall i (List.mem_cons_of_mem 0 hi)
  have hrest := run_camera env pcSync ((trial_pass 0 _ _).trans hfirst) hlater (by decide)
    (hmin.trans_le hhigh)
  unfold test
  rw [loops_of_ne hmake, run_cons_pass (begin_pass.mpr h.1), ← hs, hrest.1, hrest.2,
    hgap, hmin]
  exact ⟨List.foldl_append.symm, rfl⟩

/-- The medians of the samples. -/
def Progress.offset (R : Rounding 24) (s : Progress) : Int16 :=
  (arrayMedian50Int R (List.ofFn s.bOffsetArray) 5).getD 0

def Progress.endOffset (R : Rounding 24) (s : Progress) : UInt16 :=
  (arrayMedian50UInt R (List.ofFn s.eLagArray) 5).getD 0

/-- What is stored after the loops comes from the samples. That the test has passed only
    decides of whether it is noted. -/
theorem finish_eq (s : Progress) :
    finish R s =
      { s.camera with
        negBulbOffset := if s.offset R < 0 then 1 else 0
        bulbOffset := if s.offset R < 0 then (0 - s.offset R).toUInt16 else (s.offset R).toUInt16
        bulbEndOffset := s.endOffset R
        autoConfigured := if s.pass = true then 1 else s.camera.autoConfigured } := by
  unfold finish Progress.offset Progress.endOffset
  by_cases hneg : (arrayMedian50Int R (List.ofFn s.bOffsetArray) 5).getD 0 < 0
  · simp only [if_pos hneg]
    split
    · rfl
    · rfl
  · simp only [if_neg hneg]
    split
    · rfl
    · rfl

/-- What is stored by two tests alike is the same, but for the gap and the exposure. -/
theorem stored_finish (h : Alike s s') (hpass : s.pass = true)
    (hgap : s.camera.brampGap = s'.camera.brampGap)
    (hmin : s.camera.bulbMin = s'.camera.bulbMin) :
    stored (finish R s) = stored (finish R s') := by
  rw [finish_eq, finish_eq]
  unfold stored Progress.offset Progress.endOffset
  rw [← h.bOffsetArray, ← h.eLagArray, ← h.pass, ← hgap, ← hmin, if_pos hpass, if_pos hpass]

/-- A test that fails stores an offset, so it changes the settings with another one. -/
theorem failure_changes (env : SearchEnv) (pcSync : Bool) (R : Rounding 24) {make : UInt8}
    (hfail : ¬ script.Passes make) (m : Memory) : ∃ c, c.cameraMake = make ∧
      (autoConfigureCameraTiming env pcSync R .fr m script c).passed = some false ∧
      (autoConfigureCameraTiming env pcSync R .fr m script c).camera ≠ c := by
  set offset := (finish R (test env pcSync script (blank make) m)).bulbOffset
  set other : CameraSettings := { blank make with bulbOffset := offset + 1 }
  refine ⟨other, rfl, ?_, fun heq => ?_⟩
  · exact congrArg some (Bool.eq_false_iff.mpr fun hpass => hfail (test_pass.mp hpass))
  · -- The offset that is stored does not depend on the one that was there.
    have halike : Alike (test env pcSync script (blank make) m) (test env pcSync script other m) :=
      test_alike rfl
    have hstored : offset = (finish R (test env pcSync script other m)).bulbOffset := by
      change (finish R _).bulbOffset = _
      rw [finish_eq, finish_eq]
      unfold Progress.offset
      rw [← halike.bOffsetArray]
    have hsame : (finish R (test env pcSync script other m)).bulbOffset = offset + 1 :=
      congrArg CameraSettings.bulbOffset heq
    rw [← hstored, ← UInt16.toNat_inj, UInt16.toNat_add, UInt16.toNat_one] at hsame
    have hlt := offset.toNat_lt
    omega

/-- A Sony is tested three times. What is stored depends on what is in memory. -/
theorem sony_varies (env : SearchEnv) (pcSync : Bool) (R : Rounding 24)
    (hpass : script.Passes sony) : ∃ m m',
      stored (autoConfigureCameraTiming env pcSync R .fr m script (blank sony)).camera ≠
        stored (autoConfigureCameraTiming env pcSync R .fr m' script (blank sony)).camera := by
  have hlist : ∀ f : Fin shutterTestCount → UInt16, List.ofFn f = [f 0, f 1, f 2, f 3, f 4] :=
    fun _ => rfl
  -- Only the first three of the samples are those of loops.
  have hlags : ∀ lag, List.ofFn (test env pcSync script (blank sony)
      ⟨fun _ => 0, fun _ => lag⟩).eLagArray = [(script.trials 0).endLag, (script.trials 1).endLag,
        (script.trials 2).endLag, lag, lag] := by
    intro lag
    have hsamples := fun j => (test_samples env pcSync (c := blank sony)
      (m := ⟨fun _ => 0, fun _ => lag⟩) hpass j).2
    simp only [hlist, hsamples]
    rfl
  rcases arrayMedian50UInt_two R (script.trials 0).endLag (script.trials 1).endLag
    (script.trials 2).endLag with ⟨low, high, hlow, hhigh, hne⟩
  refine ⟨⟨fun _ => 0, fun _ => 0⟩, ⟨fun _ => 0, fun _ => 65535⟩, fun heq => hne ?_⟩
  have hsame := congrArg Stored.bulbEndOffset heq
  change (finish R _).bulbEndOffset = (finish R _).bulbEndOffset at hsame
  rw [finish_eq, finish_eq] at hsame
  unfold Progress.endOffset at hsame
  rw [hlags, hlags, hlow, hhigh] at hsame
  exact hsame

/-- What is stored by tests of five loops that pass is the same if the gap and the exposure
    that they come to are. -/
theorem stored_eq_iff (h : script.Passes c.cameraMake) (h' : script.Passes c'.cameraMake)
    (hmake : c.cameraMake ≠ sony) (hmake' : c'.cameraMake ≠ sony) :
    stored (finish R (test env pcSync script c m)) =
        stored (finish R (test env pcSync script c' m')) ↔
      script.gapFrom c.brampGap = script.gapFrom c'.brampGap ∧
        script.evFrom pcSync c.bulbMin = script.evFrom pcSync c'.bulbMin := by
  have hcamera := test_camera env pcSync m h hmake
  have hcamera' := test_camera env pcSync m' h' hmake'
  rw [← hcamera.1, ← hcamera'.1, ← hcamera.2, ← hcamera'.2, UInt8.toNat_inj]
  constructor
  · intro heq
    have hgap := congrArg Stored.brampGap heq
    have hmin := congrArg Stored.bulbMin heq
    rw [finish_eq, finish_eq] at hgap hmin
    exact ⟨hgap, hmin⟩
  · rintro ⟨hgap, hmin⟩
    exact stored_finish (alike_of_passes h h' hmake hmake') (test_pass.mpr h) hgap hmin

/-- When the gap comes to the same from any that is set. -/
theorem gap_settled_iff : (∀ g, script.gapFrom g = script.gapFrom 0) ↔
    (script.trials 0).busy ≠ none ∨ ∃ i, 65535 ∈ (script.trials i).gaps := by
  have hmem : 65535 ∈ ([0, 1, 2, 3, 4].flatMap fun i => (script.trials i).gaps) ↔
      ∃ i, 65535 ∈ (script.trials i).gaps := by
    rw [List.mem_flatMap]
    exact ⟨fun ⟨i, _, hi⟩ => ⟨i, hi⟩, fun ⟨i, hi⟩ => ⟨i, mem_five i, hi⟩⟩
  unfold Script.gapFrom
  by_cases hbusy : (script.trials 0).busy ≠ none
  · simp only [if_pos hbusy]
    exact ⟨fun _ => Or.inl hbusy, fun _ _ => trivial⟩
  · rw [← hmem, ← foldl_raise_settled, or_iff_right hbusy]
    simp only [if_neg hbusy]

/-- When the exposure does. -/
theorem bulbMin_settled_iff (hok : ∀ i, (script.trials i).ok = true) :
    (∀ b, script.evFrom pcSync b = script.evFrom pcSync 61) ↔
      Agreed ((script.trials 0).minTime pcSync) ∨ ∃ i, i ≠ 0 ∧
        Outlasts ((script.trials i).minTime pcSync) ((script.trials 0).minTime pcSync) := by
  have hwait := fun i => minTime_le_of_ok pcSync (hok i)
  have hlater : ∀ i : Fin shutterTestCount, i ∈ [1, 2, 3, 4] ↔ i ≠ 0 := by decide
  unfold Script.evFrom
  simp only [foldl_min_eq_iff, hlater]
  constructor
  · intro h
    rcases h 0 with heq | ⟨i, hi, hzero, hlist⟩
    · exact Or.inl ((agreed_iff (hwait 0)).mpr heq)
    · exact Or.inr ⟨i, hi, (outlasts_iff (hwait i) (hwait 0)).mpr ⟨hlist, hzero⟩⟩
  · rintro (hagreed | ⟨i, hi, houtlasts⟩) b
    · exact Or.inl (hagreed.shortestEv_eq (hwait 0) b)
    · have hle := (outlasts_iff (hwait i) (hwait 0)).mp houtlasts
      exact Or.inr ⟨i, hi, le_shortestEv b (hwait 0) hle.1 hle.2, hle.1⟩

end Test

/-- A test is right about the settings if and only if it passes, the camera is no Sony, and
    the settings from before make no difference to it. -/
theorem calibrates_iff (env : SearchEnv) (pcSync : Bool) (R : Rounding 24) (make : UInt8)
    (script : Script) : Calibrates env pcSync R make script ↔
      script.Passes make ∧ make ≠ sony ∧ Settled pcSync script := by
  constructor
  · intro h
    have hpasses : script.Passes make := by
      by_contra hfail
      rcases failure_changes env pcSync R hfail ⟨fun _ => 0, fun _ => 0⟩ with
        ⟨c, hmake, hfailed, hchanged⟩
      exact hchanged ((h c _ hmake).1 hfailed)
    -- All tests pass then, and store the same.
    have hsame : ∀ c c' m m', c.cameraMake = make → c'.cameraMake = make →
        stored (finish R (test env pcSync script c m)) =
          stored (finish R (test env pcSync script c' m')) := by
      intro c c' m m' hc hc'
      exact ((h c' m' hc').2 (congrArg some (test_pass.mpr (hc'.symm ▸ hpasses))) c m hc).2
    have hmake : make ≠ sony := by
      rintro rfl
      rcases sony_varies env pcSync R hpasses with ⟨m, m', hvaries⟩
      exact hvaries (hsame (blank sony) (blank sony) m m' rfl rfl)
    have hcomes : ∀ g b, script.gapFrom g = script.gapFrom 0 ∧
        script.evFrom pcSync b = script.evFrom pcSync 61 := fun g b =>
      (stored_eq_iff hpasses hpasses hmake hmake).mp
        (hsame { blank make with brampGap := g, bulbMin := b } { blank make with bulbMin := 61 }
          ⟨fun _ => 0, fun _ => 0⟩ ⟨fun _ => 0, fun _ => 0⟩ rfl rfl)
    exact ⟨hpasses, hmake, gap_settled_iff.mp fun g => (hcomes g 0).1,
      (bulbMin_settled_iff fun i => hpasses.2 i (mem_loops hmake i)).mp fun b => (hcomes 0 b).2⟩
  · rintro ⟨hpasses, hmake, hsettled⟩ c m rfl
    have hgap := gap_settled_iff.mpr hsettled.gap
    have hmin := (bulbMin_settled_iff fun i => hpasses.2 i (mem_loops hmake i)).mpr
      hsettled.bulbMin
    refine ⟨fun hfailed => ?_, fun _ c' m' hc' => ?_⟩
    · have hpassed : (test env pcSync script c m).pass = true := test_pass.mpr hpasses
      rw [Option.some.inj hfailed] at hpassed
      cases hpassed
    · have hpasses' : script.Passes c'.cameraMake := hc'.symm ▸ hpasses
      refine ⟨congrArg some (test_pass.mpr hpasses'), ?_⟩
      refine (stored_eq_iff hpasses' hpasses (hc'.symm ▸ hmake) hmake).mpr ⟨?_, ?_⟩
      · rw [hgap, hgap c.brampGap]
      · rw [hmin, hmin c.bulbMin]

/-- The PC sync cable is not connected: the input is clear, and remains so. -/
def unplugged : Script :=
  ⟨false, fun _ => ⟨some 0, 0, none, none, none, 0, 0, none, none, none⟩⟩

/-- Then the test fails in its first loop, and the offset that is stored is what was in
    memory. -/
theorem failure_stores : ∃ m,
    (autoConfigureCameraTiming ⟨Shutter.factoryRamp, fun _ => false⟩ false (.exact 24) .fr m
        unplugged (blank 1)).passed = some false ∧
      (autoConfigureCameraTiming ⟨Shutter.factoryRamp, fun _ => false⟩ false (.exact 24) .fr m
        unplugged (blank 1)).camera.bulbOffset = 7 ∧
      ¬ Calibrates ⟨Shutter.factoryRamp, fun _ => false⟩ false (.exact 24) 1 unplugged := by
  have hoffset : (autoConfigureCameraTiming ⟨Shutter.factoryRamp, fun _ => false⟩ false (.exact 24)
      .fr ⟨fun _ => 7, fun _ => 7⟩ unplugged (blank 1)).camera.bulbOffset = 7 := by
    decide +kernel
  refine ⟨⟨fun _ => 7, fun _ => 7⟩, rfl, hoffset, fun h => ?_⟩
  have hkept := (h (blank 1) ⟨fun _ => 7, fun _ => 7⟩ rfl).1 rfl
  rw [hkept] at hoffset
  cases hoffset

end Calibration

end Menu

end TimelapsePlus
