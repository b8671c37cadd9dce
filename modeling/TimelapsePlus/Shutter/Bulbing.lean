import TimelapsePlus.Shutter.Stop
import TimelapsePlus.Shutter.Ticks

/-!
# What a Run Keeps Open

A bulb is asked for by a call of `task`, started by a tick, ended by a tick, and
waited for by later calls of `task`. What may be open while it is exposed, the
flag that says so or a bulb of the camera, is to be shut when it is over. Which
of these it is does not matter to where a run can be: a `Watch` is anything that
may be open, with what is asked of the ticks and of the functions `task` calls.

What `task` does to the world while it starts no bulb is `World.Acts`. It leaves
the exposure and the ticks under way as they are.

## Main definitions

* `World.Acts`: What `task` does to the world while it starts no bulb.
* `Intervalometer.Bulbing`: The run is taking a bulb exposure.
* `Watch`: Something that may be open while a bulb is exposed.
* `Watch.Guarded`: It is open only then.
* `Watch.Spares`: The conditions on a step.

## Theorems

* `acts_clock`: The exposure is left as it is.
* `Watch.guarded_step`, `Watch.guarded_run`: A run keeps it so.
-/

namespace TimelapsePlus

namespace Shutter

open Word

namespace World

/-- What `task` does to the world while it starts no bulb. -/
inductive Acts (w : World) : World → Prop
  | refl : Acts w w
  | senseCable {v : World} (h : Acts w v) : Acts w v.senseCable
  | tare {v : World} (h : Acts w v) : Acts w v.tare
  | shutterClose {v : World} (h : Acts w v) : Acts w v.shutterClose
  | shutterOff {v : World} (h : Acts w v) : Acts w v.shutterOff
  | shutterOffQuick {v : World} (h : Acts w v) : Acts w v.shutterOffQuick
  | shutterHalf {v : World} (h : Acts w v) : Acts w v.shutterHalf
  | capture {v : World} (io : Io) (h : Acts w v) : Acts w (v.capture io).1
  | auxPulse {v : World} (h : Acts w v) : Acts w v.auxPulse
  | aux1Off {v : World} (h : Acts w v) : Acts w v.aux1Off
  | aux2Off {v : World} (h : Acts w v) : Acts w v.aux2Off
  | usbBulbEnd {v : World} (io : Io) (h : Acts w v) : Acts w (v.usbBulbEnd io)
  | unlink {v : World} (h : Acts w v) : Acts w v.unlink
  | relink {v : World} (link : Link) (h : Acts w v) : Acts w (v.relink link)

/-- An infrared code is being sent by a tick that starts a bulb, or that ends
    one. -/
def Sends (w : World) (kind : FrameKind) : Prop := ∃ f ∈ w.frames, f.kind = kind

theorem enter_sends (w : World) (kind : FrameKind) : w.enter.Sends kind ↔ w.Sends kind := by
  unfold Sends World.enter
  cases hframes : w.frames with
  | nil => simp only [List.not_mem_nil, false_and]
  | cons f fs => simp only [List.exists_mem_cons_iff]

theorem sends_of_frames {w v : World} (kind : FrameKind) (h : v.frames = w.frames) :
    v.Sends kind ↔ w.Sends kind := by
  unfold Sends
  rw [h]

/-- The exposure and the ticks under way are the same. -/
def SameExposure (w v : World) : Prop :=
  v.clock.newBulb = w.clock.newBulb ∧ v.clock.bulbRunning = w.clock.bulbRunning ∧
    v.frames = w.frames

theorem SameExposure.refl (w : World) : w.SameExposure w := ⟨rfl, rfl, rfl⟩

theorem SameExposure.trans {w v u : World} (h : w.SameExposure v) (h' : v.SameExposure u) :
    w.SameExposure u :=
  ⟨h'.1.trans h.1, h'.2.1.trans h.2.1, h'.2.2.trans h.2.2⟩

section Same

variable (w : World)

theorem callIn_same (time : Nat) (fn : Callback) : w.SameExposure (w.callIn time fn) := by
  have h := callIn_steady w time fn
  exact ⟨h.newBulb, h.bulbRunning, h.frames⟩

theorem shutterOff_same : w.SameExposure w.shutterOff := by
  unfold shutterOff
  split
  · exact .refl w
  · have h := w.shutterClose.callIn_same 20 .checkCable
    exact ⟨h.1, h.2.1, h.2.2⟩

theorem shutterOffQuick_same : w.SameExposure w.shutterOffQuick := by
  unfold shutterOffQuick
  split <;> exact ⟨rfl, rfl, rfl⟩

theorem shutterHalf_same : w.SameExposure w.shutterHalf := by
  unfold shutterHalf
  split
  · exact .refl w
  · split
    · exact w.shutterOff_same.trans (w.shutterOff.callIn_same _ _)
    · exact w.shutterOff_same

theorem shutterFull_same : w.SameExposure w.shutterFull := by
  unfold shutterFull
  split <;> exact ⟨rfl, rfl, rfl⟩

theorem usbCapture_same (io : Io) : w.SameExposure (w.usbCapture io) := by
  unfold usbCapture
  split <;> exact ⟨rfl, rfl, rfl⟩

theorem capture_same (io : Io) : w.SameExposure (w.capture io).1 := by
  have hfull : w.SameExposure { w with lastShutterError := false } := ⟨rfl, rfl, rfl⟩
  unfold capture
  simp only
  split
  · have hin := (hfull.trans (shutterFull_same _)).trans
      (callIn_same { w with lastShutterError := false }.shutterFull w.conf.captureTime .shutterOff)
    split
    · split <;> exact ⟨hin.1, hin.2.1, hin.2.2⟩
    · split
      · have husb := usbCapture_same { { w with lastShutterError := false }.shutterFull.callIn
          w.conf.captureTime .shutterOff with irShutterState := false, shutterState := false } io
        exact ⟨husb.1.trans hin.1, husb.2.1.trans hin.2.1, husb.2.2.trans hin.2.2⟩
      · exact ⟨hin.1, hin.2.1, hin.2.2⟩
  · exact hfull

theorem aux1On_same : w.SameExposure w.aux1On := by
  unfold aux1On
  split <;> exact ⟨rfl, rfl, rfl⟩

theorem aux2On_same : w.SameExposure w.aux2On := by
  unfold aux2On
  split <;> exact ⟨rfl, rfl, rfl⟩

theorem aux1Off_same : w.SameExposure w.aux1Off := by
  unfold aux1Off
  split <;> exact ⟨rfl, rfl, rfl⟩

theorem aux2Off_same : w.SameExposure w.aux2Off := by
  unfold aux2Off
  split <;> exact ⟨rfl, rfl, rfl⟩

theorem auxPulse_same : w.SameExposure w.auxPulse := by
  have hon := w.aux1On_same.trans w.aux1On.aux2On_same
  unfold auxPulse
  refine SameExposure.trans ?_ (callIn_same _ _ _)
  exact SameExposure.trans ⟨hon.1, hon.2.1, hon.2.2⟩ (callIn_same _ _ _)

theorem usbBulbEnd_same (io : Io) : w.SameExposure (w.usbBulbEnd io) := by
  unfold usbBulbEnd
  split
  · exact .refl w
  · split <;> exact ⟨rfl, rfl, rfl⟩

end Same

/-- What `task` does while it starts no bulb leaves the exposure as it is. -/
theorem acts_clock {w v : World} (h : w.Acts v) : w.SameExposure v := by
  induction h with
  | refl => exact .refl w
  | senseCable _ ih =>
      refine ih.trans ?_
      unfold senseCable
      split <;> exact ⟨rfl, rfl, rfl⟩
  | tare _ ih => exact ih
  | shutterClose _ ih => exact ih
  | shutterOff _ ih => exact ih.trans (shutterOff_same _)
  | shutterOffQuick _ ih => exact ih.trans (shutterOffQuick_same _)
  | shutterHalf _ ih => exact ih.trans (shutterHalf_same _)
  | capture io _ ih => exact ih.trans (capture_same _ io)
  | auxPulse _ ih => exact ih.trans (auxPulse_same _)
  | aux1Off _ ih => exact ih.trans (aux1Off_same _)
  | aux2Off _ ih => exact ih.trans (aux2Off_same _)
  | usbBulbEnd io _ ih => exact ih.trans (usbBulbEnd_same _ io)
  | unlink _ ih => exact ih
  | relink link _ ih => exact ih

theorem Acts.trans {w v u : World} (h : w.Acts v) (h' : v.Acts u) : w.Acts u := by
  induction h' with
  | refl => exact h
  | senseCable _ ih => exact .senseCable ih
  | tare _ ih => exact .tare ih
  | shutterClose _ ih => exact .shutterClose ih
  | shutterOff _ ih => exact .shutterOff ih
  | shutterOffQuick _ ih => exact .shutterOffQuick ih
  | shutterHalf _ ih => exact .shutterHalf ih
  | capture io _ ih => exact .capture io ih
  | auxPulse _ ih => exact .auxPulse ih
  | aux1Off _ ih => exact .aux1Off ih
  | aux2Off _ ih => exact .aux2Off ih
  | usbBulbEnd io _ ih => exact .usbBulbEnd io ih
  | unlink _ ih => exact .unlink ih
  | relink link _ ih => exact .relink link ih

end World

/-- The run is taking a bulb exposure. -/
structure Intervalometer.Bulbing (s : Intervalometer) : Prop where
  entered : s.enter = true
  launched : s.preChecked = 0
  state : s.runState = .bulb
  begun : s.oldState = some .bulb

/-- The run has been entered and its precheck is over. -/
def Intervalometer.Ready (s : Intervalometer) : Prop := s.enter = true ∧ s.preChecked = 0

theorem Intervalometer.Bulbing.ready {s : Intervalometer} (h : s.Bulbing) : s.Ready :=
  ⟨h.entered, h.launched⟩

/-- Something that may be open while a bulb is exposed. `up` says that it is open,
    `sane` is an invariant of the world that goes with it, and `ticks`, `resumes`
    and `ends` are what is asked of a tick, of the rest of one, and of the end of
    a run with a bulb still exposed. -/
structure Watch where
  up : World → Prop
  sane : World → Prop
  ticks : World → Io → Prop
  resumes : World → Prop
  ends : World → Io → Prop
  /-- It is open only while a bulb is to start or is running. -/
  up_exposed : ∀ w, sane w → up w → w.clock.newBulb = true ∨ w.clock.bulbRunning = true
  sane_acts : ∀ {w v}, w.Acts v → sane w → sane v
  up_acts : ∀ {w v}, w.Acts v → sane w → up v → up w
  sane_reset : ∀ w, sane w → ¬ up w → sane w.resetClock ∧ ¬ up w.resetClock
  sane_cancel : ∀ w, sane w → ¬ up w → sane w.cancelBulb ∧ ¬ up w.cancelBulb
  sane_primary : ∀ (w : World) (b : Bool), sane w → ¬ up w →
    sane { w with usbPrimary := b } ∧ ¬ up { w with usbPrimary := b }
  /-- A bulb is asked for, with the flag set or without. -/
  sane_bulb : ∀ w d, sane w → ¬ up w → w.frames = [] → sane (w.bulb d)
  sane_open : ∀ w d, sane w → ¬ up w → w.frames = [] → sane (w.flagOpen.bulb d)
  /-- The connection is given up for a bulb. -/
  sane_give : ∀ w, sane w → ¬ up w →
    sane w.flagOpen.shutterOffQuick.unlink ∧ ¬ up w.flagOpen.shutterOffQuick.unlink
  ends_shut : ∀ w io, sane w → ends w io → ¬ up (w.senseCable.shutterOff.usbBulbEnd io)
  sane_tick : ∀ w io, sane w → ticks w io → sane (w.count io)
  up_tick : ∀ w io, sane w → up (w.count io) → up w ∨ w.clock.newBulb = true
  sane_resume : ∀ w f fs, sane w → w.frames = f :: fs → resumes w → sane (w.resume f fs)
  up_resume : ∀ w f fs, sane w → w.frames = f :: fs → up (w.resume f fs) →
    up w ∨ f.kind = .start
  sane_pins : ∀ (w : World) (b c : Bool), sane w →
    sane { w with cablePin := b, syncPin := c } ∧ (up { w with cablePin := b, syncPin := c } → up w)
  sane_connect : ∀ (w : World) (link : Link), sane w →
    sane { w with link := { link with bulbOpen := link.bulbOpen && w.link.bulbOpen } } ∧
      (up { w with link := { link with bulbOpen := link.bulbOpen && w.link.bulbOpen } } → up w)

namespace Watch

open Intervalometer

variable (W : Watch)

/-- A call of `task` waits with a bulb asked for, or about to be. -/
def Opens : Place → Prop
  | .prepareOff | .prepareHalf | .starting => True
  | _ => False

/-- What is watched is open only in a bulb exposure, and a bulb is to start only
    when a call of `task` waits for it to start. -/
structure Guarded (s : Intervalometer) : Prop where
  sane : W.sane s.world
  up : W.up s.world → s.Bulbing
  waits : ∀ p, s.place = some p → p ≠ .starting → ¬ W.up s.world
  asked : s.world.clock.newBulb = true →
    s.place = some .starting ∧ (0 < s.left ∨ ∃ f ∈ s.world.frames, f.kind = .start)
  sending : (∃ f ∈ s.world.frames, f.kind = .start) → s.place = some .starting
  entered : s.place = some .loading → s.enter = true
  ready : ∀ p, s.place = some p → p ≠ .loading → s.Ready
  opening : ∀ p, s.place = some p → Opens p → s.Bulbing

/-- What is asked of a step: of a tick and of the rest of one, that a run that is
    stopped while a bulb is exposed shuts it, and that a start that is refused has
    opened nothing. -/
def Spares (s : Intervalometer) : Order → Prop
  | .tick io => W.ticks s.world io
  | .resume => W.resumes s.world
  | .task f => s.running = false → s.GoesOn → W.up s.world → W.ends s.world f.io
  | .goOn _ => s.place = some .starting → s.world.lastShutterError = true → ¬ W.up s.world
  | _ => True

/-- A call of `task` between two of its stages, from where a stop has been looked
    at. -/
structure Mid (f : Found) (s : Intervalometer) : Prop where
  idle : s.place = none
  frames : s.world.frames = []
  unasked : s.world.clock.newBulb = false
  sane : W.sane s.world
  up : W.up s.world → s.Bulbing ∨
    s.runState = .ended ∧ ¬ W.up (s.world.shutterOff.usbBulbEnd f.io)
  ready : s.runState = .ended ∨ s.Ready

variable {W}

/-- Nothing is open, and no bulb is asked for. -/
theorem guarded_of_shut {s : Intervalometer} (hsane : W.sane s.world) (hshut : ¬ W.up s.world)
    (hframes : s.world.frames = []) (hnew : s.world.clock.newBulb = false)
    (hentered : s.place = some .loading → s.enter = true)
    (hready : ∀ p, s.place = some p → p ≠ .loading → s.Ready)
    (hopening : ∀ p, s.place = some p → Opens p → s.Bulbing) : W.Guarded s := by
  refine ⟨hsane, fun h => absurd h hshut, fun _ _ _ => hshut, fun h => ?_, ?_, hentered, hready,
    hopening⟩
  · exact absurd (hnew.symm.trans h) Bool.noConfusion
  · rintro ⟨f, hf, _⟩
    rw [hframes] at hf
    exact absurd hf List.not_mem_nil

namespace Mid

variable {f : Found} {s t : Intervalometer}

/-- A run that does not end is guarded. -/
theorem guarded (h : W.Mid f s) (hne : s.runState ≠ .ended) : W.Guarded s := by
  have hidle : ∀ p, s.place ≠ some p := by
    intro p hp
    rw [h.idle] at hp
    exact absurd hp (by simp only [reduceCtorEq, not_false_eq_true])
  refine ⟨h.sane, fun hup => (h.up hup).resolve_right fun he => hne he.1,
    fun p hp => absurd hp (hidle p), fun hnew => ?_, ?_, fun hp => absurd hp (hidle _),
    fun p hp => absurd hp (hidle p), fun p hp => absurd hp (hidle p)⟩
  · exact absurd (h.unasked.symm.trans hnew) Bool.noConfusion
  · rintro ⟨f, hf, _⟩
    rw [h.frames] at hf
    exact absurd hf List.not_mem_nil

/-- Outside a bulb exposure nothing is open. -/
theorem shut (h : W.Mid f s) (hbulb : s.runState ≠ .bulb) (hend : s.runState ≠ .ended) :
    ¬ W.up s.world := by
  intro hup
  rcases h.up hup with hb | he
  · exact hbulb hb.state
  · exact hend he.1

theorem entered (h : W.Mid f s) (hend : s.runState ≠ .ended) : s.Ready :=
  h.ready.resolve_left hend

/-- With nothing open the run may go on to any state. -/
theorem moves (h : W.Mid f s) (hshut : ¬ W.up s.world) (hacts : s.world.Acts t.world)
    (hplace : t.place = none) (hready : t.Ready) : W.Mid f t := by
  rcases World.acts_clock hacts with ⟨hnew, _, hframes⟩
  exact ⟨hplace, hframes.trans h.frames, hnew.trans h.unasked, W.sane_acts hacts h.sane,
    fun hup => absurd (W.up_acts hacts h.sane hup) hshut, Or.inr hready⟩

/-- With nothing open a call may wait anywhere. -/
theorem stays (h : W.Mid f s) (hshut : ¬ W.up s.world) (hacts : s.world.Acts t.world)
    (hready : t.Ready) (hopening : ∀ p, t.place = some p → Opens p → t.Bulbing) :
    W.Guarded t := by
  rcases World.acts_clock hacts with ⟨hnew, _, hframes⟩
  exact guarded_of_shut (W.sane_acts hacts h.sane)
    (fun hup => hshut (W.up_acts hacts h.sane hup)) (hframes.trans h.frames)
    (hnew.trans h.unasked) (fun _ => hready.1) (fun _ _ _ => hready) hopening

end Mid

section Blocks

variable {f : Found} {s : Intervalometer}

/-- A wait that opens nothing. -/
theorem not_opens {t : Intervalometer} {p : Place} (hp : ¬ Opens p) (hplace : t.place = some p) :
    ∀ q, t.place = some q → Opens q → t.Bulbing := by
  intro q hq hopens
  rw [hplace, Option.some.injEq] at hq
  rw [← hq] at hopens
  exact absurd hopens hp

theorem no_opens {t : Intervalometer} (hplace : t.place = none) :
    ∀ q, t.place = some q → Opens q → t.Bulbing := by
  intro q hq
  rw [hplace] at hq
  exact absurd hq (by simp only [reduceCtorEq, not_false_eq_true])

theorem captured_mid (c : Shot) (h : W.Mid f s) (hshut : ¬ W.up s.world) (hready : s.Ready) :
    (s.captured c).Ends (W.Mid f) W.Guarded := by
  cases c with
  | photo =>
      simp only [captured]
      split
      · exact h.moves (t := { s with
          taken := if s.refused then s.taken else s.taken + 1
          runState := .next
          world := s.world.shutterHalf }) hshut (.shutterHalf .refl) h.idle hready
      · exact h.moves (t := { s with
          taken := if s.refused then s.taken else s.taken + 1
          runState := .next }) hshut .refl h.idle hready
  | manual =>
      exact h.stays (t := { s with place := some .manual, left := 10 }) hshut .refl hready
        (not_opens id rfl)
  | basic => exact h

theorem captureEnd_mid (c : Shot) (h : W.Mid f s) (hshut : ¬ W.up s.world) (hready : s.Ready) :
    (s.captureEnd c).Ends (W.Mid f) W.Guarded := by
  unfold captureEnd
  split
  · exact h.stays (t := { s with
      world := s.world.shutterOffQuick, place := some (.captureFinish c), left := 500 }) hshut
      (.shutterOffQuick .refl) hready (not_opens id rfl)
  · exact captured_mid c h hshut hready

theorem captureCore_mid (c : Shot) (h : W.Mid f s) (hshut : ¬ W.up s.world) (hready : s.Ready) :
    (s.captureCore c f).Ends (W.Mid f) W.Guarded := by
  have hacts : s.world.Acts (s.world.capture f.io).1 := .capture f.io .refl
  have hmid : W.Mid f { s with
      world := (s.world.capture f.io).1, refused := (s.world.capture f.io).1.lastShutterError } :=
    h.moves hshut hacts h.idle hready
  unfold captureCore
  simp only
  split
  · exact h.stays hshut hacts hready (not_opens (p := .shutterNow c) id rfl)
  · exact captureEnd_mid c hmid (fun hup => hshut (W.up_acts hacts h.sane hup)) hready

theorem capture_mid (c : Shot) (h : W.Mid f s) (hshut : ¬ W.up s.world) (hready : s.Ready) :
    (s.capture c f).Ends (W.Mid f) W.Guarded := by
  unfold capture
  split
  · exact h.stays (t := { s with
      world := s.world.shutterOffQuick.unlink, disabled := true
      place := some (.captureOff c), left := 1000 }) hshut (.unlink (.shutterOffQuick .refl)) hready
      (not_opens id rfl)
  · exact captureCore_mid c h hshut hready

/-- A bulb is asked for: the call waits for it to start. -/
theorem guarded_asked {t : Intervalometer} (hsane : W.sane t.world) (hbulbing : t.Bulbing)
    (hplace : t.place = some .starting) (hleft : 0 < t.left) :
    W.Guarded t := by
  refine ⟨hsane, fun _ => hbulbing, ?_, fun _ => ⟨hplace, Or.inl hleft⟩, fun _ => hplace,
    fun _ => hbulbing.entered, fun _ _ _ => hbulbing.ready, fun _ _ _ => hbulbing⟩
  intro p hp hne
  exact absurd (Option.some.inj (hp.symm.trans hplace)) hne

theorem bulbPrepare_mid (Q : Intervalometer → Prop) (h : W.Mid f s) (hshut : ¬ W.up s.world)
    (hbulbing : s.Bulbing) : s.bulbPrepare.Ends Q W.Guarded := by
  have hb : ∀ (w : World) (d : Bool) (p : Option Place) (n : Nat),
      ({ s with world := w, disabled := d, place := p, left := n } : Intervalometer).Bulbing :=
    fun _ _ _ _ => ⟨hbulbing.entered, hbulbing.launched, hbulbing.state, hbulbing.begun⟩
  unfold bulbPrepare
  simp only
  split
  · -- The connection is given up first, and the flag with it.
    rcases W.sane_give s.world h.sane hshut with ⟨hsane, hup⟩
    rcases World.shutterOffQuick_same s.world.flagOpen with ⟨hnew, _, hframes⟩
    exact guarded_of_shut (s := { s with
      world := s.world.flagOpen.shutterOffQuick.unlink, disabled := true
      place := some .prepareOff, left := 1000 }) hsane hup (hframes.trans h.frames)
      (hnew.trans h.unasked) (fun _ => (hb _ _ _ _).entered) (fun _ _ _ => (hb _ _ _ _).ready)
      (fun _ _ _ => hb _ _ _ _)
  · exact guarded_asked (t := { s with
      world := s.world.flagOpen.bulb s.bulbLength, place := some .starting, left := 10 })
      (W.sane_open s.world s.bulbLength h.sane hshut h.frames) (hb _ s.disabled _ _) rfl
      (Nat.succ_pos 9)

/-- What setting the camera up does to the world. -/
theorem expSetup_world (f : Found) (s : Intervalometer) :
    s.world.Acts (s.expSetup f).world ∧ (s.expSetup f).place = s.place ∧
      (s.expSetup f).enter = s.enter ∧ (s.expSetup f).preChecked = s.preChecked ∧
      (s.expSetup f).runState = s.runState ∧ (s.expSetup f).oldState = s.oldState := by
  unfold expSetup
  split
  · exact ⟨.shutterOffQuick (.shutterOff .refl), rfl, rfl, rfl, rfl, rfl⟩
  · split
    · exact ⟨.shutterOffQuick .refl, rfl, rfl, rfl, rfl, rfl⟩
    · exact ⟨.refl, rfl, rfl, rfl, rfl, rfl⟩

theorem bulbOver_guarded (h : W.Mid f s) (hshut : ¬ W.up s.world) (hready : s.Ready)
    (Q : Intervalometer → Prop) : s.bulbOver.Ends Q W.Guarded := by
  have hover : s.bulbOver = if (s.disabled && s.sony) = true then
      { s with
        exps := u8 (s.exps + 1)
        taken := if s.refused then s.taken else s.taken + 1
        world := s.world.shutterOffQuick }.rest .finishing 500
      else { s with
        exps := u8 (s.exps + 1)
        taken := if s.refused then s.taken else s.taken + 1 }.rest .settling 50 := rfl
  rw [hover]
  by_cases hsony : (s.disabled && s.sony) = true
  · rw [if_pos hsony]
    exact h.stays hshut (.shutterOffQuick .refl) hready (not_opens (p := .finishing) id rfl)
  · rw [if_neg hsony]
    exact h.stays hshut .refl hready (not_opens (p := .settling) id rfl)

theorem bulb_mid (h : W.Mid f s) : (s.bulb f).Ends (W.Mid f) W.Guarded := by
  unfold bulb
  split
  · rename_i hstate
    have hready : s.Ready := h.entered (by rw [hstate]; decide)
    split
    · -- A new exposure: nothing of the last one is open.
      rename_i hold
      have hshut : ¬ W.up s.world := by
        intro hup
        rcases h.up hup with hb | he
        · exact hold hb.begun
        · exact absurd (hstate.symm.trans he.1) (by decide)
      rcases expSetup_world f { s with oldState := some .bulb, bulbLength := f.bulbLength }
        with ⟨hacts, hplace, henter, hpre, hrs, hos⟩
      have hready' :
          (expSetup f { s with oldState := some .bulb, bulbLength := f.bulbLength }).Ready :=
        ⟨henter.trans hready.1, hpre.trans hready.2⟩
      have hmid := h.moves hshut hacts (hplace.trans h.idle) hready'
      have hshut' := fun hup => hshut (W.up_acts hacts h.sane hup)
      simp only
      split
      · exact hmid.stays (t := { expSetup f { s with
          oldState := some .bulb, bulbLength := f.bulbLength } with runState := .error }) hshut'
          .refl hready' (no_opens hmid.idle)
      · unfold expose
        split
        · exact capture_mid .manual hmid hshut' hready'
        · split
          · exact bulbPrepare_mid _ hmid hshut'
              ⟨hready'.1, hready'.2, hrs.trans hstate, hos⟩
          · exact capture_mid .basic hmid hshut' hready'
    · split
      · exact h
      · -- The bulb has ended, and what was open with it.
        rename_i hdone
        have hshut : ¬ W.up s.world := by
          intro hup
          rcases W.up_exposed s.world h.sane hup with hnew | hrun
          · exact absurd (h.unasked.symm.trans hnew) Bool.noConfusion
          · exact hdone hrun
        exact bulbOver_guarded h hshut hready _
  · exact h

theorem photo_mid (h : W.Mid f s) : (s.photo f).Ends (W.Mid f) W.Guarded := by
  unfold photo
  split
  · rename_i hdue
    rw [Bool.and_eq_true, decide_eq_true_eq] at hdue
    have hshut := h.shut (by rw [hdue.1]; decide) (by rw [hdue.1]; decide)
    have hready : s.Ready := h.entered (by rw [hdue.1]; decide)
    simp only
    split
    · exact h.moves (t := { s with
        lastPhotoEndMs := 0, oldState := some .photo, world := s.world.tare, runState := .bulb })
        hshut (.tare .refl) h.idle hready
    · exact capture_mid .photo (s := { s with
        lastPhotoEndMs := 0, oldState := some .photo, exps := u8 (s.exps + 1) })
        (h.moves hshut .refl h.idle hready) hshut hready
  · exact h

/-- What counting a photo does to the world. -/
theorem proceed_world (s : Intervalometer) :
    s.world.Acts s.proceed.conclude.report.world ∧ s.proceed.conclude.report.place = s.place ∧
      s.proceed.conclude.report.enter = s.enter ∧
      s.proceed.conclude.report.preChecked = s.preChecked := by
  have hproceed : s.world.Acts s.proceed.world ∧ s.proceed.place = s.place ∧
      s.proceed.enter = s.enter ∧ s.proceed.preChecked = s.preChecked := by
    unfold proceed
    split
    · exact ⟨.tare .refl, rfl, rfl, rfl⟩
    · split
      · exact ⟨.refl, rfl, rfl, rfl⟩
      · exact ⟨.tare .refl, rfl, rfl, rfl⟩
  have hconclude : s.proceed.conclude.world = s.proceed.world ∧
      s.proceed.conclude.place = s.proceed.place ∧ s.proceed.conclude.enter = s.proceed.enter ∧
      s.proceed.conclude.preChecked = s.proceed.preChecked := by
    unfold conclude
    split
    · split <;> exact ⟨rfl, rfl, rfl, rfl⟩
    · split <;> exact ⟨rfl, rfl, rfl, rfl⟩
  refine ⟨?_, hconclude.2.1.trans hproceed.2.1, hconclude.2.2.1.trans hproceed.2.2.1,
    hconclude.2.2.2.trans hproceed.2.2.2⟩
  rw [show s.proceed.conclude.report.world = s.proceed.conclude.world from rfl, hconclude.1]
  exact hproceed.1

theorem next_mid (h : W.Mid f s) : (s.next f).Ends (W.Mid f) W.Guarded := by
  unfold next
  split
  · rename_i hstate
    have hshut := h.shut (by rw [hstate]; decide) (by rw [hstate]; decide)
    have hready : s.Ready := h.entered (by rw [hstate]; decide)
    have ht : ∃ ms os, (if s.oldState = some .next then s
        else { s with oldState := some .next, lastPhotoEndMs := s.world.clock.totalMs }) =
          { s with oldState := os, lastPhotoEndMs := ms } := by
      split
      · exact ⟨s.lastPhotoEndMs, s.oldState, rfl⟩
      · exact ⟨_, _, rfl⟩
    rcases ht with ⟨ms, os, ht⟩
    simp only [ht]
    have hmid : W.Mid f { s with oldState := os, lastPhotoEndMs := ms } :=
      h.moves hshut .refl h.idle hready
    split
    · exact hmid.stays hshut .refl hready (no_opens h.idle)
    · split
      · exact hmid.stays (t := { s with
          oldState := os, lastPhotoEndMs := ms, runState := .error }) hshut .refl hready
          (no_opens h.idle)
      · rcases proceed_world { s with oldState := os, lastPhotoEndMs := ms }
          with ⟨hacts, hplace, henter, hpre⟩
        exact hmid.moves hshut hacts (hplace.trans h.idle)
          ⟨henter.trans hready.1, hpre.trans hready.2⟩
  · exact h

theorem gap_mid (h : W.Mid f s) : (s.gap f).Ends (W.Mid f) W.Guarded := by
  unfold gap
  split
  · rename_i hstate
    have hshut := h.shut (by rw [hstate]; decide) (by rw [hstate]; decide)
    have hready : s.Ready := h.entered (by rw [hstate]; decide)
    have ht : ∃ t : Intervalometer, (if s.oldState = some .gap then s
        else
          { s with
            oldState := some .gap
            world :=
              if decide (s.world.conf.auxPort = .dolly) ||
                  decide (s.world.conf.cameraPort = .dolly) then
                s.world.auxPulse
              else s.world }) = t ∧ s.world.Acts t.world ∧ t.place = none ∧ t.Ready := by
      refine ⟨_, rfl, ?_⟩
      split
      · exact ⟨.refl, h.idle, hready⟩
      · refine ⟨?_, h.idle, hready⟩
        simp only
        split
        · exact .auxPulse .refl
        · exact .refl
    rcases ht with ⟨t, heq, hacts, hplace, hready'⟩
    rw [heq]
    have hmid : W.Mid f t := h.moves hshut hacts hplace hready'
    have hshut' := fun hup => hshut (W.up_acts hacts h.sane hup)
    rcases f.focus with _ | _ | _
    · exact hmid
    · exact hmid.stays hshut' .refl hready' (no_opens hplace)
    · exact hmid.stays (t := { t with place := some .focusing, left := 200 }) hshut' .refl hready'
        (not_opens id rfl)
  · exact h

theorem gapWait_world (s : Intervalometer) :
    s.world.Acts s.gapWait.world ∧ s.gapWait.place = s.place ∧ s.gapWait.enter = s.enter ∧
      s.gapWait.preChecked = s.preChecked := by
  unfold gapWait
  split
  · exact ⟨.tare .refl, rfl, rfl, rfl⟩
  · split
    · exact ⟨.shutterHalf .refl, rfl, rfl, rfl⟩
    · exact ⟨.refl, rfl, rfl, rfl⟩

theorem gapSettled_mid (h : W.Mid f s) : (s.gapSettled f).Ends (W.Mid f) W.Guarded := by
  unfold gapSettled
  split
  · rename_i hstate
    have hshut := h.shut (by rw [hstate]; decide) (by rw [hstate]; decide)
    have hready : s.Ready := h.entered (by rw [hstate]; decide)
    rcases gapWait_world s with ⟨hacts, hplace, henter, hpre⟩
    have hready' : s.gapWait.Ready := ⟨henter.trans hready.1, hpre.trans hready.2⟩
    split
    · exact h
    · split
      · exact h.moves (t := { s.gapWait with runState := .externalTrigger }) hshut hacts
          (hplace.trans h.idle) hready'
      · exact h.moves hshut hacts (hplace.trans h.idle) hready'
  · exact h

theorem externalTrigger_mid (h : W.Mid f s) :
    (s.externalTrigger f).Ends (W.Mid f) W.Guarded := by
  unfold externalTrigger
  split
  · rename_i hstate
    have hshut := h.shut (by rw [hstate]; decide) (by rw [hstate]; decide)
    have hready : s.Ready := h.entered (by rw [hstate]; decide)
    split
    · exact h.moves (t := { s with runState := .externalTriggerRelease }) hshut .refl h.idle hready
    · split
      · exact h.moves (t := { s with runState := .ended }) hshut .refl h.idle hready
      · exact h
  · exact h

theorem externalTriggerRelease_mid (h : W.Mid f s) :
    (s.externalTriggerRelease f).Ends (W.Mid f) W.Guarded := by
  unfold externalTriggerRelease
  split
  · rename_i hstate
    have hshut := h.shut (by rw [hstate]; decide) (by rw [hstate]; decide)
    have hready : s.Ready := h.entered (by rw [hstate]; decide)
    split
    · split
      · exact h.moves (t := { s with runState := .ended }) hshut .refl h.idle hready
      · exact h
    · exact h.moves hshut (.tare .refl) h.idle hready
  · exact h

theorem errorCounted_guarded (h : W.Mid f s) (hshut : ¬ W.up s.world) (hready : s.Ready)
    (Q : Intervalometer → Prop) : s.errorCounted.Ends Q W.Guarded := by
  unfold errorCounted
  split
  · exact h.stays (t := { s with errorRetryCount := 0, runState := .next }) hshut .refl hready
      (no_opens h.idle)
  · exact h.stays (t := { s with errorRetryCount := s.errorRetryCount + 1 }) hshut .refl hready
      (no_opens h.idle)

theorem error_mid (h : W.Mid f s) : (s.error f).Ends (W.Mid f) W.Guarded := by
  unfold error
  split
  · rename_i hstate
    have hshut := h.shut (by rw [hstate]; decide) (by rw [hstate]; decide)
    have hready : s.Ready := h.entered (by rw [hstate]; decide)
    split
    · exact h.stays (t := { s with
        errorRetryCount := 0, oldState := some .error
        world := (s.world.shutterOff.usbBulbEnd f.io).shutterHalf
        place := some .nudging, left := 100 }) hshut
        (.shutterHalf (.usbBulbEnd f.io (.shutterOff .refl))) hready (not_opens id rfl)
    · exact errorCounted_guarded h hshut hready _
  · exact h

/-- The end of a run leaves nothing open. -/
theorem finish_guarded (h : W.Mid f s) : (s.finish f).Ends W.Guarded W.Guarded := by
  unfold finish
  split
  · rename_i hstate
    have hend : s.world.Acts (s.world.shutterOff.usbBulbEnd f.io) :=
      .usbBulbEnd f.io (.shutterOff .refl)
    have hacts : s.world.Acts (s.world.shutterOff.usbBulbEnd f.io).aux1Off.aux2Off :=
      .aux2Off (.aux1Off hend)
    have hsane := W.sane_acts hend h.sane
    -- A bulb still exposed is shut here, and nothing else can be open.
    have hshut : ¬ W.up (s.world.shutterOff.usbBulbEnd f.io) := by
      intro hup
      rcases h.up (W.up_acts hend h.sane hup) with hb | he
      · exact absurd (hstate.symm.trans hb.state) (by decide)
      · exact he.2 hup
    have hafter : (s.world.shutterOff.usbBulbEnd f.io).Acts
        (s.world.shutterOff.usbBulbEnd f.io).aux1Off.aux2Off := .aux2Off (.aux1Off .refl)
    rcases W.sane_primary _ false (W.sane_acts hafter hsane)
      (fun hup => hshut (W.up_acts hafter hsane hup)) with ⟨hsane', hshut'⟩
    rcases World.acts_clock hacts with ⟨hnew, _, hframes⟩
    refine guarded_of_shut hsane' hshut' (hframes.trans h.frames) (hnew.trans h.unasked) ?_ ?_ ?_
    · intro hp
      exact absurd (h.idle.symm.trans hp) (by simp only [reduceCtorEq, not_false_eq_true])
    · intro p hp
      exact absurd (h.idle.symm.trans hp) (by simp only [reduceCtorEq, not_false_eq_true])
    · exact no_opens h.idle
  · rename_i hstate
    exact h.guarded hstate

theorem delay_mid (h : W.Mid f s) : s.delay.Ends (W.Mid f) W.Guarded := by
  unfold delay
  split
  · rename_i hstate
    have hshut := h.shut (by rw [hstate]; decide) (by rw [hstate]; decide)
    have hready : s.Ready := h.entered (by rw [hstate]; decide)
    simp only
    split
    · -- The clock is reset, with no bulb running.
      have hsane := W.sane_acts (.tare .refl) h.sane
      rcases W.sane_reset s.world.tare hsane
        (fun hup => hshut (W.up_acts (.tare .refl) h.sane hup)) with ⟨hsane', hshut'⟩
      exact ⟨h.idle, h.frames, rfl, hsane', fun hup => absurd hup hshut', Or.inr hready⟩
    · split
      · exact h.stays (t := { s with
          oldState := some .delay, world := s.world.shutterHalf, place := some .waking
          left := 100 }) hshut (.shutterHalf .refl) hready (not_opens id rfl)
      · split
        · exact h.moves (t := { s with oldState := some .delay, runState := .externalTrigger })
            hshut .refl h.idle hready
        · exact h.moves (t := { s with oldState := some .delay }) hshut .refl h.idle hready
  · exact h

end Blocks

section Chains

variable {f : Found} {s : Intervalometer}

theorem chain_next (h : W.Mid f s) : W.Guarded (chain (fromNext f) s) := by
  have hsplit : fromNext f = [next f, gap f, gapSettled f, externalTrigger f,
      externalTriggerRelease f, error f] ++ [finish f] := rfl
  rw [hsplit]
  refine chain_append (W.Mid f) W.Guarded ?_ (fun t ht => ?_) h
  · intro g hg t ht
    simp only [List.mem_cons, List.not_mem_nil, or_false] at hg
    rcases hg with rfl | rfl | rfl | rfl | rfl | rfl
    · exact next_mid ht
    · exact gap_mid ht
    · exact gapSettled_mid ht
    · exact externalTrigger_mid ht
    · exact externalTriggerRelease_mid ht
    · exact error_mid ht
  · exact chain_then W.Guarded W.Guarded (finish_guarded ht) fun _ hu => hu

theorem chain_photo (h : W.Mid f s) : W.Guarded (chain (fromPhoto f) s) :=
  chain_then (W.Mid f) W.Guarded (photo_mid h) fun _ ht =>
    chain_then (W.Mid f) W.Guarded (bulb_mid ht) fun _ hu => chain_next hu

theorem chain_afterShot (c : Shot) (h : W.Mid f s) :
    W.Guarded (chain (afterShot f c) s) := by
  cases c with
  | photo => exact chain_then (W.Mid f) W.Guarded (bulb_mid h) fun _ ht => chain_next ht
  | manual => exact chain_next h
  | basic => exact chain_next h

/-- A call of `task` before a stop has been looked at. `go` says when a run that
    has been stopped is going to end. -/
structure Before (W : Watch) (f : Found) (go : Intervalometer → Prop) (s : Intervalometer) :
    Prop where
  idle : s.place = none
  frames : s.world.frames = []
  unasked : s.world.clock.newBulb = false
  sane : W.sane s.world
  up : W.up s.world → s.Bulbing
  stopped : s.running = false → go s → W.up s.world →
    ¬ W.up (s.world.shutterOff.usbBulbEnd f.io)

/-- The run is under way, or has been stopped. -/
def UnderWay (s : Intervalometer) : Prop := s.running = false ∨ s.Ready

theorem Before.guarded {go : Intervalometer → Prop} (h : Before W f go s) : W.Guarded s := by
  have hidle : ∀ p, s.place ≠ some p := by
    intro p hp
    rw [h.idle] at hp
    exact absurd hp (by simp only [reduceCtorEq, not_false_eq_true])
  refine ⟨h.sane, h.up, fun p hp => absurd hp (hidle p), fun hnew => ?_, ?_,
    fun hp => absurd hp (hidle _), fun p hp => absurd hp (hidle p),
    fun p hp => absurd hp (hidle p)⟩
  · exact absurd (h.unasked.symm.trans hnew) Bool.noConfusion
  · rintro ⟨g, hg, _⟩
    rw [h.frames] at hg
    exact absurd hg List.not_mem_nil

theorem resume_before (h : Before W f GoesOn s) (hway : UnderWay s) :
    s.resume.Ends (fun t => Before W f (fun u => u.paused = false) t ∧ UnderWay t) W.Guarded := by
  have hkeep : ∀ (p : Bool) (n : Nat) (a b : Bool), (p = false → s.GoesOn) →
      Before W f (fun u => u.paused = false)
        { s with paused := p, pausing := n, hasND := a, showND := b } ∧
      UnderWay { s with paused := p, pausing := n, hasND := a, showND := b } := by
    intro p n a b hgo
    exact ⟨⟨h.idle, h.frames, h.unasked, h.sane,
      fun hup => ⟨(h.up hup).entered, (h.up hup).launched, (h.up hup).state, (h.up hup).begun⟩,
      fun hrun hp => h.stopped hrun (hgo hp)⟩, hway⟩
  unfold resume
  split
  · rename_i hon
    rw [Bool.and_eq_true, decide_eq_true_eq] at hon
    have hpaused : s.paused = false → s.GoesOn := fun hno => Or.inl hno
    split
    · rename_i hlong
      split
      · exact hkeep s.paused s.pausing false false hpaused
      · rename_i hshow
        rw [Bool.not_eq_true] at hshow
        exact hkeep false 0 s.hasND s.showND fun _ => Or.inr ⟨hlong, hshow⟩
    · exact hkeep s.paused (s.pausing + 1) s.hasND s.showND hpaused
  · exact hkeep s.paused s.pausing s.hasND s.showND fun hno => Or.inl hno

theorem whilePaused_before (h : Before W f (fun u => u.paused = false) s) (hway : UnderWay s) :
    (s.whilePaused f).Ends (fun t => Before W f (fun _ => True) t ∧ UnderWay t) W.Guarded := by
  unfold whilePaused
  split
  · exact h.guarded
  · rename_i hpaused
    rw [Bool.not_eq_true] at hpaused
    split
    · exact ⟨⟨h.idle, h.frames, h.unasked, h.sane,
        fun hup => ⟨(h.up hup).entered, (h.up hup).launched, (h.up hup).state, (h.up hup).begun⟩,
        fun hrun _ => h.stopped hrun hpaused⟩, hway⟩
    · exact ⟨⟨h.idle, h.frames, h.unasked, h.sane, h.up, fun hrun _ => h.stopped hrun hpaused⟩,
        hway⟩

theorem startPause_before (h : Before W f (fun _ => True) s) (hway : UnderWay s) :
    s.startPause.Ends (fun t => Before W f (fun _ => True) t ∧ UnderWay t) W.Guarded := by
  unfold startPause
  split
  · exact ⟨⟨h.idle, h.frames, h.unasked, h.sane,
      fun hup => ⟨(h.up hup).entered, (h.up hup).launched, (h.up hup).state, (h.up hup).begun⟩,
      fun hrun _ => h.stopped hrun trivial⟩, hway⟩
  · exact ⟨h, hway⟩

/-- A run that has been stopped is to end, and what it has open is to be shut. -/
theorem cancel_mid (h : Before W f (fun _ => True) s) (hway : UnderWay s) :
    s.cancel.Ends (W.Mid f) W.Guarded := by
  unfold cancel
  split
  · rename_i hrun
    refine ⟨h.idle, h.frames, h.unasked, h.sane, fun hup => Or.inl (h.up hup), Or.inr ?_⟩
    exact hway.resolve_left fun hno => absurd (hrun.symm.trans hno) Bool.noConfusion
  · rename_i hrun
    rw [Bool.not_eq_true] at hrun
    exact ⟨h.idle, h.frames, h.unasked, h.sane,
      fun hup => Or.inr ⟨rfl, h.stopped hrun trivial hup⟩, Or.inl rfl⟩

theorem chain_resume (h : Before W f GoesOn s) (hway : UnderWay s) :
    W.Guarded (chain (fromResume f) s) := by
  refine chain_then _ W.Guarded (resume_before h hway) fun t ht => ?_
  refine chain_then _ W.Guarded (whilePaused_before ht.1 ht.2) fun u hu => ?_
  refine chain_then _ W.Guarded (startPause_before hu.1 hu.2) fun v hv => ?_
  refine chain_then (W.Mid f) W.Guarded (cancel_mid hv.1 hv.2) fun x hx => ?_
  exact chain_then (W.Mid f) W.Guarded (delay_mid hx) fun _ hy => chain_photo hy

/-- A run that is to start has nothing open. -/
theorem toStart_shut {go : Intervalometer → Prop} (h : Before W f go s)
    (hstart : s.toStart = true) : ¬ W.up s.world := by
  intro hup
  rw [toStart, Bool.and_eq_true, Bool.or_eq_true, Bool.not_eq_true', decide_eq_true_eq] at hstart
  have hb := h.up hup
  rcases hstart.2 with hno | hpos
  · exact absurd (hb.entered.symm.trans hno) Bool.noConfusion
  · have := hb.launched
    omega

theorem launch_before (h : Before W f GoesOn s) (hentered : s.toStart = true → s.enter = true) :
    s.launch.Ends (fun t => Before W f GoesOn t ∧ UnderWay t) W.Guarded := by
  unfold launch
  split
  · rename_i hstart
    split
    · exact h.guarded
    · -- The clock is reset, with no bulb running.
      have hshut := toStart_shut h hstart
      have hsane := W.sane_acts (.tare .refl) h.sane
      rcases W.sane_reset s.world.tare hsane
        (fun hup => hshut (W.up_acts (.tare .refl) h.sane hup)) with ⟨hsane', hshut'⟩
      have hclose : s.world.tare.resetClock.Acts s.world.tare.resetClock.shutterClose :=
        .shutterClose .refl
      have hshut'' := fun hup => hshut' (W.up_acts hclose hsane' hup)
      refine ⟨⟨h.idle, h.frames, rfl, W.sane_acts hclose hsane',
        fun hup => absurd hup hshut'', fun _ _ hup => absurd hup hshut''⟩,
        Or.inr ⟨hentered hstart, rfl⟩⟩
  · rename_i hstart
    refine ⟨h, ?_⟩
    by_cases hrun : s.running = true
    · refine Or.inr ?_
      rw [toStart, hrun, Bool.true_and, Bool.not_eq_true, Bool.or_eq_false_iff,
        Bool.not_eq_false', decide_eq_false_iff_not] at hstart
      exact ⟨hstart.1, by omega⟩
    · rw [Bool.not_eq_true] at hrun
      exact Or.inl hrun

theorem chain_launch (h : Before W f GoesOn s) (hentered : s.toStart = true → s.enter = true) :
    W.Guarded (chain (launch :: fromResume f) s) :=
  chain_then _ W.Guarded (launch_before h hentered) fun _ ht => chain_resume ht.1 ht.2

/-- What the initialization does before the alerts. -/
theorem prepare_before (h : Before W f GoesOn s) (hstart : s.toStart = true) :
    Before W f GoesOn s.prepare ∧ ¬ W.up s.prepare.world ∧ s.prepare.enter = true := by
  rcases W.sane_primary s.world (decide (s.world.conf.camera.interface = .auto) &&
    s.world.link.ready && s.world.link.supportsBulb) h.sane (toStart_shut h hstart)
    with ⟨hsane, hshut⟩
  exact ⟨⟨h.idle, h.frames, h.unasked, hsane, fun hup => absurd hup hshut,
    fun _ _ hup => absurd hup hshut⟩, hshut, rfl⟩

theorem startup_before (h : Before W f GoesOn s) :
    (s.startup f).Ends (fun t => Before W f GoesOn t ∧ (t.toStart = true → t.enter = true))
      W.Guarded := by
  unfold startup
  split
  · rename_i hstart
    rcases prepare_before h hstart with ⟨hprepared, hshut, henter⟩
    simp only
    split
    · exact hprepared.guarded
    · split
      · -- The camera is read, with nothing open.
        exact guarded_of_shut (s := { s.prepare.load with
          place := some .loading, left := if s.prepare.load.world.link.ready then 500 else 0 })
          hprepared.sane hshut hprepared.frames hprepared.unasked (fun _ => henter)
          (fun p hp hne => absurd (Option.some.inj hp).symm hne) (not_opens id rfl)
      · exact ⟨hprepared, fun _ => henter⟩
  · rename_i hstart
    exact ⟨h, fun hyes => absurd hyes hstart⟩

/-- A call of `task` keeps guard. -/
theorem guarded_task (f : Found) (h : W.Guarded s) (hrest : s.atRest = true)
    (hspares : W.Spares s (.task f)) : W.Guarded (s.task f) := by
  rw [atRest, Bool.and_eq_true, Option.isNone_iff_eq_none, List.isEmpty_iff] at hrest
  have hsense : s.world.Acts s.world.senseCable := .senseCable .refl
  rcases World.acts_clock hsense with ⟨hnew, _, hframes⟩
  have hunasked : s.world.clock.newBulb = false := by
    by_contra hasked
    rw [Bool.not_eq_false] at hasked
    exact absurd (hrest.1.symm.trans (h.asked hasked).1)
      (by simp only [reduceCtorEq, not_false_eq_true])
  have hbefore : Before W f GoesOn { s with world := s.world.senseCable } := by
    refine ⟨hrest.1, hframes.trans hrest.2, hnew.trans hunasked, W.sane_acts hsense h.sane,
      fun hup => ?_, fun hrun hgo hup => ?_⟩
    · have hb := h.up (W.up_acts hsense h.sane hup)
      exact ⟨hb.entered, hb.launched, hb.state, hb.begun⟩
    · exact W.ends_shut s.world f.io h.sane
        (hspares hrun hgo (W.up_acts hsense h.sane hup))
  rw [task, stages, List.cons_append, List.cons_append, List.cons_append, List.nil_append]
  refine chain_then (Before W f GoesOn) W.Guarded ?_ fun t ht => ?_
  · unfold arrive
    split
    · exact hbefore
    · exact hbefore.guarded
  · exact chain_then _ W.Guarded (startup_before ht) fun u hu => chain_launch hu.1 hu.2

/-- What a call of `task` has come back to when an exposure has been started. -/
theorem bulbStarted_mid (h : W.Mid f s) (hready : s.Ready)
    (hshut : s.world.lastShutterError = true → ¬ W.up s.world) :
    (s.bulbStarted f).Ends (W.Mid f) W.Guarded := by
  unfold bulbStarted
  split
  · rename_i herror
    rcases W.sane_cancel s.world h.sane (hshut herror) with ⟨hsane, hnone⟩
    have hguard : ∀ r, W.Guarded { s with
        world := s.world.cancelBulb, oldState := some .delay, runState := r } := by
      intro r
      refine guarded_of_shut hsane hnone h.frames rfl (fun _ => hready.1) ?_ (no_opens h.idle)
      exact fun _ _ _ => hready
    simp only
    split
    · exact hguard .error
    · exact hguard s.runState
  · exact ⟨h.idle, h.frames, h.unasked, h.sane, fun hup => (h.up hup).imp
      (fun hb => ⟨hb.entered, hb.launched, hb.state, hb.begun⟩) id, h.ready⟩

end Chains

/-- A call of `task` goes on and keeps guard. -/
theorem guarded_goOn (f : Found) (p : Place) {s : Intervalometer} (h : W.Guarded s)
    (hplace : s.place = some p) (hleft : s.left = 0) (hframes : s.world.frames = [])
    (hspares : W.Spares s (.goOn f)) : W.Guarded (s.goOn p f) := by
  have hunasked : s.world.clock.newBulb = false := by
    by_contra hasked
    rw [Bool.not_eq_false] at hasked
    rcases (h.asked hasked).2 with hwait | ⟨g, hg, _⟩
    · omega
    · rw [hframes] at hg
      exact absurd hg List.not_mem_nil
  -- Where a call waits the run is entered, and it is ready but in the precheck.
  have hmid : p ≠ .loading → W.Mid f { s with place := none } := by
    intro hne
    refine ⟨rfl, hframes, hunasked, h.sane, fun hup => Or.inl ?_, Or.inr (h.ready p hplace hne)⟩
    have hb := h.up hup
    exact ⟨hb.entered, hb.launched, hb.state, hb.begun⟩
  have hready : p ≠ .loading → s.Ready := h.ready p hplace
  have hshut : p ≠ .starting → ¬ W.up s.world := h.waits p hplace
  have hbulbing : Opens p → s.Bulbing := h.opening p hplace
  have hrelink : s.world.Acts (s.world.relink f.link) := .relink f.link .refl
  have hlinked : p ≠ .loading → p ≠ .starting →
      W.Mid f (enable { s with place := none } f) ∧ ¬ W.up (s.world.relink f.link) := by
    intro hne hne'
    refine ⟨(hmid hne).moves (hshut hne') hrelink rfl (hready hne), fun hup => ?_⟩
    exact hshut hne' (W.up_acts hrelink h.sane hup)
  unfold goOn
  cases p with
  | loading =>
      have hnone := hshut (by decide)
      exact chain_launch ⟨rfl, hframes, hunasked, h.sane, fun hup => absurd hup hnone,
        fun _ _ hup => absurd hup hnone⟩ fun _ => h.entered hplace
  | waking =>
      have hnone := hshut (by decide)
      refine chain_then (W.Mid f) W.Guarded ?_ fun t ht => chain_photo ht
      refine (hmid (by decide)).moves (t := { s with
        place := none
        world := if s.world.usbPrimary then s.world.shutterOff else s.world
        runState := if s.program.external then .externalTrigger else s.runState }) hnone ?_ rfl
        (hready (by decide))
      simp only
      split
      · exact .shutterOff .refl
      · exact .refl
  | captureOff c =>
      exact (hmid (by simp)).stays (t := { s with
        world := s.world.shutterHalf, place := some (.captureHalf c), left := 1500 })
        (hshut (by simp)) (.shutterHalf .refl) (hready (by simp)) (not_opens id rfl)
  | captureHalf c =>
      exact chain_then (W.Mid f) W.Guarded
        (captureCore_mid c (hmid (by simp)) (hshut (by simp)) (hready (by simp)))
        fun _ ht => chain_afterShot c ht
  | shutterNow c =>
      exact chain_then (W.Mid f) W.Guarded
        (captureEnd_mid c (hmid (by simp)) (hshut (by simp)) (hready (by simp)))
        fun _ ht => chain_afterShot c ht
  | captureFinish c =>
      rcases hlinked (by simp) (by simp) with ⟨hm, hnone⟩
      exact chain_then (W.Mid f) W.Guarded (s := enable { s with place := none } f)
        (captured_mid c hm hnone (hready (by simp))) fun _ ht => chain_afterShot c ht
  | manual =>
      exact chain_then (W.Mid f) W.Guarded
        (bulbStarted_mid (hmid (by decide)) (hready (by decide)) fun _ => hshut (by decide))
        fun _ ht => chain_next ht
  | prepareOff =>
      exact (hmid (by decide)).stays (t := { s with
        world := s.world.shutterHalf, place := some .prepareHalf, left := 1000 })
        (hshut (by decide)) (.shutterHalf .refl) (hready (by decide))
        fun _ _ _ => ⟨(hbulbing trivial).entered, (hbulbing trivial).launched,
          (hbulbing trivial).state, (hbulbing trivial).begun⟩
  | prepareHalf =>
      have hb := hbulbing trivial
      exact guarded_asked (t := { s with
        world := s.world.bulb s.bulbLength, place := some .starting, left := 10 })
        (W.sane_bulb s.world s.bulbLength h.sane (hshut (by decide)) hframes)
        ⟨hb.entered, hb.launched, hb.state, hb.begun⟩ rfl (Nat.succ_pos 9)
  | starting =>
      exact chain_then (W.Mid f) W.Guarded
        (bulbStarted_mid (hmid (by decide)) (hready (by decide)) (hspares hplace))
        fun _ ht => chain_next ht
  | finishing =>
      rcases hlinked (by decide) (by decide) with ⟨hm, hnone⟩
      exact hm.stays (t := { enable { s with place := none } f with
        place := some .settling, left := 50 }) hnone .refl (hready (by decide)) (not_opens id rfl)
  | settling =>
      have hm := hmid (by decide)
      have hnone := hshut (by decide)
      have hr := hready (by decide)
      refine chain_then W.Guarded W.Guarded ?_ fun t ht => ht
      unfold bulbSettled
      simp only
      split
      · exact hm.stays (t := { s with
          place := none, runState := .next, world := s.world.shutterHalf }) hnone
          (.shutterHalf .refl) hr (no_opens rfl)
      · exact hm.stays (t := { s with place := none, runState := .next }) hnone .refl hr
          (no_opens rfl)
  | focusing =>
      refine chain_then (W.Mid f) W.Guarded (gapSettled_mid (hmid (by decide))) fun t ht => ?_
      refine chain_then (W.Mid f) W.Guarded (externalTrigger_mid ht) fun u hu => ?_
      refine chain_then (W.Mid f) W.Guarded (externalTriggerRelease_mid hu) fun v hv => ?_
      refine chain_then (W.Mid f) W.Guarded (error_mid hv) fun x hx => ?_
      exact chain_then W.Guarded W.Guarded (finish_guarded hx) fun _ hy => hy
  | nudging =>
      exact (hmid (by decide)).stays (t := { s with
        world := s.world.shutterOff.unlink, disabled := true
        place := some .disabling, left := 600 }) (hshut (by decide)) (.unlink (.shutterOff .refl))
        (hready (by decide)) (not_opens id rfl)
  | disabling =>
      exact (hmid (by decide)).stays (t := { s with
        world := s.world.shutterOffQuick, place := some .enabling, left := 500 })
        (hshut (by decide)) (.shutterOffQuick .refl) (hready (by decide)) (not_opens id rfl)
  | enabling =>
      rcases hlinked (by decide) (by decide) with ⟨hm, hnone⟩
      exact chain_then W.Guarded W.Guarded (s := enable { s with place := none } f)
        (errorCounted_guarded hm hnone (hready (by decide)) _) fun _ ht => ht

/-- The start of a bulb is being sent. -/
def Sending (w : World) : Prop := w.Sends .start

/-- After a tick a bulb is still to start only when its start is being sent. -/
theorem count_asked (w : World) (io : Io) :
    ((w.count io).clock.newBulb = true → w.clock.newBulb = true ∧ Sending (w.count io)) ∧
      (Sending (w.count io) → Sending w ∨ w.clock.newBulb = true) := by
  have hstart : Sending w.starting ↔ Sending w := by
    rw [World.starting_eq]
    exact w.enter_sends .start
  have hend : Sending w.ending ↔ Sending w := w.enter_sends .start
  have hending : w.ending.clock.newBulb = w.clock.newBulb := rfl
  have hticked := w.count_ticked io
  generalize w.count io = u at hticked ⊢
  rcases hticked with
    ⟨v, hnew, _, _, hv⟩ | ⟨v, hnew, hv⟩ | ⟨v, hnew, _, _, hv⟩ | ⟨v, hnew, _, _, hv⟩ |
      ⟨hnew, _, _, _, _⟩ | ⟨hnew, _⟩
  · exact ⟨fun _ => ⟨hnew, _, List.mem_cons_self, rfl⟩, fun _ => Or.inr hnew⟩
  · exact ⟨fun h => absurd h Bool.false_ne_true, fun _ => Or.inr hnew⟩
  · refine ⟨fun h => ?_, fun h => Or.inl ?_⟩
    · have hv' : v.clock.newBulb = w.clock.newBulb := by rw [hv.clock, hending]
      exact absurd ((hv'.trans hnew).symm.trans h) Bool.noConfusion
    · rcases h with ⟨g, hg, hkind⟩
      rcases List.mem_cons.mp hg with rfl | hg
      · exact FrameKind.noConfusion hkind
      · exact hend.mp ((World.sends_of_frames .start hv.frames).mp ⟨g, hg, hkind⟩)
  · refine ⟨fun h => ?_, fun h => Or.inl (hend.mp ((World.sends_of_frames .start hv.frames).mp h))⟩
    have hv' : v.clock.newBulb = w.clock.newBulb := by rw [hv.clock, hending]
    exact absurd ((hv'.trans hnew).symm.trans h) Bool.noConfusion
  · exact ⟨fun h => absurd (hnew.symm.trans h) Bool.noConfusion,
      fun h => Or.inl ((w.enter_sends .start).mp h)⟩
  · have hsteady := w.passing_steady
    generalize w.passing.service = u at hsteady ⊢
    refine ⟨fun h => ?_, fun h => Or.inl ?_⟩
    · have hv' : u.clock.newBulb = w.clock.newBulb :=
        hsteady.newBulb.trans w.passing_newBulb
      exact absurd ((hv'.trans hnew).symm.trans h) Bool.noConfusion
    · exact (w.enter_sends .start).mp
        ((World.sends_of_frames .start (hsteady.frames.trans w.passing_frames)).mp h)

/-- So after the rest of one. -/
theorem resume_asked (w : World) (f : Frame) (fs : List Frame) :
    ((w.resume f fs).clock.newBulb = true → w.clock.newBulb = true ∧ f.kind = .stop) ∧
      (w.resume f fs).frames = fs := by
  have h := w.resume_resumed f fs
  generalize w.resume f fs = u at h ⊢
  cases hkind : f.kind with
  | start =>
      rw [hkind] at h
      cases h with
      | start v hv => exact ⟨fun h => absurd h Bool.false_ne_true, hv.frames⟩
  | stop =>
      rw [hkind] at h
      cases h with
      | stop v hv =>
          refine ⟨fun h => ⟨?_, rfl⟩, hv.frames⟩
          have hv' : v.clock.newBulb = w.clock.newBulb := by rw [hv.clock]
          exact hv'.symm.trans h

/-- A step keeps guard. -/
theorem guarded_step {s t : Intervalometer} (a : Order) (h : W.Guarded s) (hspares : W.Spares s a)
    (hstep : s.step a = some t) : W.Guarded t := by
  cases a with
  | tick io =>
      rw [step, Option.some.injEq] at hstep
      rw [← hstep]
      rcases count_asked s.world io with ⟨hnew, hsend⟩
      have hup : W.up (s.world.count io) → W.up s.world ∨ s.world.clock.newBulb = true :=
        W.up_tick s.world io h.sane
      have hb : ∀ n, s.Bulbing →
          ({ s with world := s.world.count io, left := n } : Intervalometer).Bulbing :=
        fun _ hb => ⟨hb.entered, hb.launched, hb.state, hb.begun⟩
      refine ⟨W.sane_tick s.world io h.sane hspares, fun hopen => hb _ ?_, fun p hp hne hopen => ?_,
        fun hasked => ⟨(h.asked (hnew hasked).1).1, Or.inr (hnew hasked).2⟩, fun hsending => ?_,
        h.entered, h.ready, fun p hp hopens => hb _ (h.opening p hp hopens)⟩
      · rcases hup hopen with hup | hasked
        · exact h.up hup
        · exact h.opening .starting (h.asked hasked).1 trivial
      · rcases hup hopen with hup | hasked
        · exact h.waits p hp hne hup
        · exact hne (Option.some.inj (hp.symm.trans (h.asked hasked).1))
      · rcases hsend hsending with hold | hasked
        · exact h.sending hold
        · exact (h.asked hasked).1
  | resume =>
      rw [step, Option.map_eq_some_iff] at hstep
      rcases hstep with ⟨w, hw, rfl⟩
      rw [World.step] at hw
      cases hframes : s.world.frames with
      | nil =>
          rw [hframes] at hw
          exact absurd hw (by simp only [reduceCtorEq, not_false_eq_true])
      | cons f fs =>
          simp only [hframes, Option.ite_none_right_eq_some, Option.some.injEq] at hw
          rcases hw with ⟨_, rfl⟩
          rcases resume_asked s.world f fs with ⟨hnew, hrest⟩
          have hsending : f.kind = .start → s.place = some .starting := fun hkind =>
            h.sending ⟨f, by rw [hframes]; exact List.mem_cons_self, hkind⟩
          have hdeeper : Sending (s.world.resume f fs) → Sending s.world := by
            rintro ⟨g, hg, hkind⟩
            rw [hrest] at hg
            exact ⟨g, by rw [hframes]; exact List.mem_cons_of_mem f hg, hkind⟩
          have hb : s.Bulbing →
              ({ s with world := s.world.resume f fs } : Intervalometer).Bulbing :=
            fun hb => ⟨hb.entered, hb.launched, hb.state, hb.begun⟩
          refine ⟨W.sane_resume s.world f fs h.sane hframes hspares, fun hopen => hb ?_,
            fun p hp hne hopen => ?_, fun hasked => ?_, fun hs => h.sending (hdeeper hs),
            h.entered, h.ready, fun p hp hopens => hb (h.opening p hp hopens)⟩
          · rcases W.up_resume s.world f fs h.sane hframes hopen with hup | hkind
            · exact h.up hup
            · exact h.opening .starting (hsending hkind) trivial
          · rcases W.up_resume s.world f fs h.sane hframes hopen with hup | hkind
            · exact h.waits p hp hne hup
            · exact hne (Option.some.inj (hp.symm.trans (hsending hkind)))
          · rcases hnew hasked with ⟨hold, hstop⟩
            rcases h.asked hold with ⟨hplace, hwait⟩
            refine ⟨hplace, hwait.imp_right ?_⟩
            rintro ⟨g, hg, hkind⟩
            rw [hframes] at hg
            rcases List.mem_cons.mp hg with rfl | hg
            · exact absurd (hstop.symm.trans hkind) (by decide)
            · exact ⟨g, by rw [hrest]; exact hg, hkind⟩
  | pins cablePin syncPin =>
      rw [step, Option.some.injEq] at hstep
      rw [← hstep]
      rcases W.sane_pins s.world cablePin syncPin h.sane with ⟨hsane, hup⟩
      have hb : ∀ w, s.Bulbing → ({ s with world := w } : Intervalometer).Bulbing :=
        fun _ hb => ⟨hb.entered, hb.launched, hb.state, hb.begun⟩
      exact ⟨hsane, fun hopen => hb _ (h.up (hup hopen)),
        fun p hp hne hopen => h.waits p hp hne (hup hopen), h.asked, h.sending, h.entered, h.ready,
        fun p hp hopens => hb _ (h.opening p hp hopens)⟩
  | connect link disabled =>
      rw [step, Option.some.injEq] at hstep
      rw [← hstep]
      rcases W.sane_connect s.world link h.sane with ⟨hsane, hup⟩
      have hb : ∀ w b, s.Bulbing →
          ({ s with world := w, disabled := b } : Intervalometer).Bulbing :=
        fun _ _ hb => ⟨hb.entered, hb.launched, hb.state, hb.begun⟩
      exact ⟨hsane, fun hopen => hb _ _ (h.up (hup hopen)),
        fun p hp hne hopen => h.waits p hp hne (hup hopen), h.asked, h.sending, h.entered, h.ready,
        fun p hp hopens => hb _ _ (h.opening p hp hopens)⟩
  | task f =>
      rw [step, Option.ite_none_right_eq_some, Option.some.injEq] at hstep
      rw [← hstep.2]
      exact guarded_task f h hstep.1 hspares
  | goOn f =>
      rw [step] at hstep
      cases hplace : s.place with
      | none =>
          rw [hplace] at hstep
          exact absurd hstep (by simp only [reduceCtorEq, not_false_eq_true])
      | some p =>
          simp only [hplace, Option.ite_none_right_eq_some, Option.some.injEq] at hstep
          rcases hstep with ⟨⟨hleft, hframes⟩, rfl⟩
          exact guarded_goOn f p h hplace hleft hframes hspares
  | begin =>
      rw [step, Option.ite_none_right_eq_some, Option.some.injEq] at hstep
      rw [← hstep.2]
      have hb : s.Bulbing → s.begin.Bulbing :=
        fun hb => ⟨hb.entered, hb.launched, hb.state, hb.begun⟩
      exact ⟨h.sane, fun hup => hb (h.up hup), h.waits, h.asked, h.sending, h.entered, h.ready,
        fun p hp hopens => hb (h.opening p hp hopens)⟩
  | stop =>
      rw [step, Option.ite_none_right_eq_some, Option.some.injEq] at hstep
      rw [← hstep.2]
      have hb : s.Bulbing → s.stop.Bulbing :=
        fun hb => ⟨hb.entered, hb.launched, hb.state, hb.begun⟩
      exact ⟨h.sane, fun hup => hb (h.up hup), h.waits, h.asked, h.sending, h.entered, h.ready,
        fun p hp hopens => hb (h.opening p hp hopens)⟩
  | pause p =>
      rw [step, Option.ite_none_right_eq_some, Option.some.injEq] at hstep
      rw [← hstep.2]
      have hset : ∀ (a : Bool) (n : Nat),
          W.Guarded ({ s with paused := a, pausing := n } : Intervalometer) := by
        intro a n
        have hb : s.Bulbing → ({ s with paused := a, pausing := n } : Intervalometer).Bulbing :=
          fun hb => ⟨hb.entered, hb.launched, hb.state, hb.begun⟩
        exact ⟨h.sane, fun hup => hb (h.up hup), h.waits, h.asked, h.sending, h.entered, h.ready,
          fun p hp hopens => hb (h.opening p hp hopens)⟩
      unfold pause
      split
      · split
        · exact h
        · exact hset s.paused 1
      · split
        · exact h
        · exact hset true 1
  | confirm =>
      rw [step, Option.ite_none_right_eq_some, Option.some.injEq] at hstep
      rcases hstep with ⟨hrest, rfl⟩
      rw [atRest, Bool.and_eq_true, Option.isNone_iff_eq_none] at hrest
      have hidle : ∀ p, s.place ≠ some p := by
        intro p hp
        exact absurd (hrest.1.symm.trans hp) (by simp only [reduceCtorEq, not_false_eq_true])
      unfold confirm
      split
      · exact h
      · -- The precheck is under way, with nothing open.
        rename_i hpre
        exact ⟨h.sane, fun hup => absurd (h.up hup).launched hpre,
          fun p hp => absurd hp (hidle p), h.asked, h.sending, h.entered,
          fun p hp => absurd hp (hidle p), fun p hp => absurd hp (hidle p)⟩
  | switchTo method =>
      rw [step, Option.ite_none_right_eq_some, Option.some.injEq] at hstep
      rw [← hstep.2]
      have hb : ∀ p, s.Bulbing → ({ s with program := p } : Intervalometer).Bulbing :=
        fun _ hb => ⟨hb.entered, hb.launched, hb.state, hb.begun⟩
      exact ⟨h.sane, fun hup => hb _ (h.up hup), h.waits, h.asked, h.sending, h.entered, h.ready,
        fun p hp hopens => hb _ (h.opening p hp hopens)⟩

/-- A run keeps guard. -/
theorem guarded_run {s t : Intervalometer} (h : Run step W.Spares s t) (hs : W.Guarded s) :
    W.Guarded t :=
  h.invariant W.Guarded (fun _ a _ hg hspares hstep => guarded_step a hg hspares hstep) hs

/-- Between runs nothing is open. -/
theorem guarded_idle {w : World} (p : Program) (hsane : W.sane w) (hshut : ¬ W.up w)
    (hframes : w.frames = []) (hnew : w.clock.newBulb = false) : W.Guarded (idle w p) :=
  guarded_of_shut hsane hshut hframes hnew
    (fun h => absurd h (by simp only [idle, reduceCtorEq, not_false_eq_true]))
    (fun _ h => absurd h (by simp only [idle, reduceCtorEq, not_false_eq_true]))
    (fun _ h => absurd h (by simp only [idle, reduceCtorEq, not_false_eq_true]))

end Watch

end Shutter

end TimelapsePlus
