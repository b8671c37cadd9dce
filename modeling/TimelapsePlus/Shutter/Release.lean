import Mathlib.Data.Finset.Card
import Mathlib.Data.Fintype.Basic
import TimelapsePlus.Shutter.Firing

/-!
# Every Output Is Released

Three functions drive an output and leave it to a callback to release it: taking
a picture, pressing the button for a camera that opens and closes its shutter on
a press, and the pulse of the auxiliary ports. A request is dropped when no slot
of the queue is free, and a request for a time of zero takes a slot and is never
serviced. So the release is pending when the function returns if the request was
taken and is for some time, or if a release was pending already.

## Main definitions

* `World.capture`, `World.auxPulse`: `shutter_capture` and `aux_pulse`.
* `World.Pending`: Some callback of a kind is pending.
* `World.Releases`: It is, it stays so until it is called, and it is called.
* `World.frees`: How many slots are free.

## Theorems

* `pending_releases`: A pending callback is called after finitely many ticks.
* `callIn_pending_iff`: What a request adds.
* `releases_iff`: The outputs that are released.
* `aux_stuck`: A pulse that is never released.
-/

namespace TimelapsePlus

namespace Shutter

open Word

/-- The callbacks that let the shutter button go. -/
def Callback.LetsGo (fn : Callback) : Prop := fn = .shutterOff ∨ fn = .shutterHalf

/-- How long the button is pressed for a picture. -/
def Settings.captureTime (conf : Settings) : Nat :=
  if conf.camera.cameraMake = .sony then conf.pressTime else 200

namespace World

/-- `PTP::capture`. -/
def usbCapture (w : World) (io : Io) : World :=
  if w.link.staticReady then
    { w with link := { w.link with busy := true }, lastShutterError := io.captureError }
  else w

/-- `shutter_capture`, when the delays for a Sony camera are over, and whether it
    sends an infrared code. -/
def capture (w : World) (io : Io) : World × Bool :=
  let v := { w with lastShutterError := false }
  if w.conf.camera.interface.hasCable || w.conf.camera.interface.hasUsb then
    let u := { v.shutterFull.callIn w.conf.captureTime .shutterOff with
      irShutterState := false, shutterState := false }
    if w.cableConnected then
      (if w.link.supportsCapture then { u with link := { u.link with busy := true } } else u, false)
    else if w.link.supportsCapture then (u.usbCapture io, false)
    else (u, w.conf.camera.interface.hasIr)
  else (v, true)

/-- The length of a pulse, which is 100 when it has never been set. -/
def pulse (time : Nat) : Nat := if time = 65535 then 100 else time

/-- `aux_pulse`. -/
def auxPulse (w : World) : World :=
  let v := { w.aux1On.aux2On with
    conf.dollyPulse := pulse w.conf.dollyPulse
    conf.dollyPulse2 := pulse w.conf.dollyPulse2 }
  (v.callIn v.conf.dollyPulse .aux1Off).callIn v.conf.dollyPulse2 .aux2Off

/-- A callback of some kind is pending. -/
def Pending (w : World) (P : Callback → Prop) : Prop := ∃ i fn, P fn ∧ w.Pends i fn

/-- A callback of some kind is pending, stays so until it is called, and is called
    after finitely many ticks, so many more for each bulb that is asked for. -/
def Releases (w : World) (P : Callback → Prop) : Prop :=
  ∃ i fn, P fn ∧ w.Pends i fn ∧
    (∀ as v, Path step (fun _ _ => True) w as v → w.Called v fn ∨ v.Pends i fn) ∧
    ∃ n, ∀ as v, Path step (fun _ _ => True) w as v →
      n + 1048600 * as.countP Action.asks < as.countP Action.passes → w.Called v fn

/-- The slots that are free. -/
def frees (w : World) : Nat := (Finset.univ.filter fun i => (w.clock.queue i).time = 0).card

theorem path_follows {w v u : World} {i : Fin 3} {fn : Callback} {as : List Action}
    (h : w.Follows i fn v) (hpath : Path step (fun _ _ => True) v as u) : w.Follows i fn u := by
  induction hpath with
  | nil => exact h
  | cons a as _ hstep _ ih => exact ih (step_follows a h hstep)

/-- A pending callback is called. -/
theorem pending_releases {w : World} (h : w.Sound) (P : Callback → Prop) :
    w.Releases P ↔ w.Pending P := by
  constructor
  · rintro ⟨i, fn, hP, hpends, _⟩
    exact ⟨i, fn, hP, hpends⟩
  · rintro ⟨i, fn, hP, hpends⟩
    refine ⟨i, fn, hP, hpends, fun as v hpath => ?_, w.reserve i, fun as v hpath hlong => ?_⟩
    · exact (path_follows (Or.inr ⟨hpends, h, rfl⟩) hpath).imp_right fun hv => hv.1
    · exact pends_called hpends h hpath hlong

/-- The queue is all that matters. -/
theorem pending_of_queue {w v : World} (h : v.clock.queue = w.clock.queue) (P : Callback → Prop) :
    v.Pending P ↔ w.Pending P := by
  have hpends : ∀ i fn, v.Pends i fn ↔ w.Pends i fn :=
    fun i fn => ⟨fun hv => hv.of_eq (by rw [h]), fun hw => hw.of_eq (by rw [h])⟩
  unfold Pending
  simp only [hpends]

theorem free_ne_none (w : World) : w.clock.queue.free ≠ none ↔ 0 < w.frees := by
  unfold frees
  rw [Ne, Queue.free_eq_none, Finset.card_pos]
  push Not
  constructor
  · rintro ⟨i, hi⟩
    exact ⟨i, Finset.mem_filter.mpr ⟨Finset.mem_univ i, hi⟩⟩
  · rintro ⟨i, hi⟩
    exact ⟨i, (Finset.mem_filter.mp hi).2⟩

/-- What a request does to the queue. -/
theorem callIn_queue (w : World) (time : Nat) (fn : Callback) :
    w.clock.queue.free = none ∧ (w.callIn time fn).clock.queue = w.clock.queue ∨
      ∃ j request, w.clock.queue.free = some j ∧
        (w.callIn time fn).clock.queue =
          Function.update w.clock.queue j ⟨u16 time, fn, request⟩ := by
  unfold callIn
  cases hfree : w.clock.queue.free with
  | none => exact Or.inl ⟨rfl, rfl⟩
  | some j =>
      simp only
      split
      · exact Or.inr ⟨j, none, rfl, rfl⟩
      · exact Or.inr ⟨j, some w.nextRequest, rfl, rfl⟩

/-- A request adds its callback to those that are pending, if a slot is free and
    it is for some time. -/
theorem callIn_pending_iff (w : World) (time : Nat) (fn : Callback) (P : Callback → Prop) :
    (w.callIn time fn).Pending P ↔
      w.Pending P ∨ P fn ∧ 0 < w.frees ∧ u16 time ≠ 0 := by
  constructor
  · rintro ⟨i, g, hP, hpends⟩
    rcases w.callIn_queue time fn with ⟨_, hq⟩ | ⟨j, request, hfree, hq⟩
    · exact Or.inl ⟨i, g, hP, hpends.of_eq (by rw [hq])⟩
    · by_cases hij : i = j
      · -- This is the slot the request has taken.
        have hslot : (w.callIn time fn).clock.queue i = ⟨u16 time, fn, request⟩ := by
          rw [hq, hij, Function.update_self]
        have hholds := hpends.holds
        have hpos := hpends.pos
        rw [hslot] at hholds hpos
        have hsome : w.clock.queue.free ≠ none := by
          rw [hfree]
          simp only [ne_eq, reduceCtorEq, not_false_eq_true]
        simp only at hholds
        rw [← hholds] at hP
        exact Or.inr ⟨hP, w.free_ne_none.mp hsome, hpos⟩
      · refine Or.inl ⟨i, g, hP, hpends.of_eq ?_⟩
        rw [hq, Function.update_of_ne hij]
  · rintro (⟨i, g, hP, hpends⟩ | ⟨hP, hfree, hpos⟩)
    · exact ⟨i, g, hP, hpends.of_eq (hpends.callIn time fn)⟩
    · rcases w.callIn_queue time fn with ⟨hnone, _⟩ | ⟨j, request, _, hq⟩
      · exact absurd hnone (w.free_ne_none.mpr hfree)
      · refine ⟨j, fn, hP, ?_, ?_, ?_⟩
        · rw [hq, Function.update_self]
        · rw [hq, Function.update_self]
          exact hpos
        · rw [hq, Function.update_self]
          exact u16_lt time

/-- A request for some time takes a slot, if there is one. -/
theorem callIn_frees (w : World) (time : Nat) (fn : Callback) :
    0 < (w.callIn time fn).frees ↔ (if u16 time = 0 then 0 else 1) < w.frees := by
  rcases w.callIn_queue time fn with ⟨hnone, hq⟩ | ⟨j, request, hfree, hq⟩
  · have hzero : ¬ 0 < w.frees := fun hpos => w.free_ne_none.mpr hpos hnone
    have hsame : (w.callIn time fn).frees = w.frees := by
      unfold frees
      rw [hq]
    rw [hsame]
    split <;> omega
  · have hj := Queue.free_eq_some hfree
    have hpos : 0 < w.frees := by
      rw [← free_ne_none, hfree]
      simp only [ne_eq, reduceCtorEq, not_false_eq_true]
    by_cases hzero : u16 time = 0
    · rw [if_pos hzero]
      refine ⟨fun _ => hpos, fun _ => ?_⟩
      rw [← free_ne_none, Ne, Queue.free_eq_none]
      push Not
      exact ⟨j, by rw [hq, Function.update_self]; exact hzero⟩
    · rw [if_neg hzero]
      unfold frees
      rw [Finset.card_pos, Finset.one_lt_card]
      constructor
      · rintro ⟨i, hi⟩
        have hfreed := (Finset.mem_filter.mp hi).2
        have hij : i ≠ j := by
          intro hij
          rw [hq, hij, Function.update_self] at hfreed
          exact hzero hfreed
        rw [hq, Function.update_of_ne hij] at hfreed
        exact ⟨i, Finset.mem_filter.mpr ⟨Finset.mem_univ i, hfreed⟩, j,
          Finset.mem_filter.mpr ⟨Finset.mem_univ j, hj⟩, hij⟩
      · rintro ⟨a, ha, b, hb, hab⟩
        -- One of the two is not the slot that was taken.
        by_cases haj : a = j
        · have hbj : b ≠ j := fun h => hab (haj.trans h.symm)
          refine ⟨b, Finset.mem_filter.mpr ⟨Finset.mem_univ b, ?_⟩⟩
          rw [hq, Function.update_of_ne hbj]
          exact (Finset.mem_filter.mp hb).2
        · refine ⟨a, Finset.mem_filter.mpr ⟨Finset.mem_univ a, ?_⟩⟩
          rw [hq, Function.update_of_ne haj]
          exact (Finset.mem_filter.mp ha).2

/-- The state is sound as long as the queue and the exposure are. -/
theorem Sound.of_eq {w v : World} (h : w.Sound) (hq : v.clock = w.clock)
    (hframes : v.frames = w.frames) : v.Sound := by
  refine ⟨?_, ?_, ?_, ?_⟩
  · rw [hq]
    exact h.word
  · rw [hq]
    exact h.duration
  · rw [hq]
    exact h.sync
  · rw [hq, hframes]
    exact h.frames

/-- A function that makes a request and changes only pins and flags besides it. -/
theorem releases_of_callIn {w v u : World} (h : w.Sound) (time : Nat) (fn : Callback)
    (P : Callback → Prop) (hP : P fn) (hclock : v.clock = w.clock) (hframes : v.frames = w.frames)
    (hu : u.clock = (v.callIn time fn).clock) (huframes : u.frames = (v.callIn time fn).frames) :
    u.Releases P ↔ w.Pending P ∨ 0 < w.frees ∧ u16 time ≠ 0 := by
  have hv : v.Sound := h.of_eq hclock hframes
  have hsound : u.Sound := (callIn_sound hv time fn).of_eq hu huframes
  have hfrees : v.frees = w.frees := by
    unfold frees
    rw [hclock]
  rw [pending_releases hsound, pending_of_queue (congrArg Clock.queue hu), callIn_pending_iff,
    pending_of_queue (congrArg Clock.queue hclock), hfrees]
  simp only [hP, true_and]

theorem shutterFull_frame (w : World) :
    w.shutterFull.clock = w.clock ∧ w.shutterFull.frames = w.frames := by
  unfold shutterFull
  split
  · exact ⟨rfl, rfl⟩
  · exact ⟨rfl, rfl⟩

theorem pressOpen_frame (w : World) (via : Via) :
    (w.pressOpen via).clock = w.clock ∧ (w.pressOpen via).frames = w.frames := by
  unfold pressOpen
  split
  · exact ⟨rfl, rfl⟩
  · exact w.shutterFull_frame

theorem pressClose_frame (w : World) :
    w.pressClose.clock = w.clock ∧ w.pressClose.frames = w.frames := by
  unfold pressClose
  split
  · exact ⟨rfl, rfl⟩
  · exact w.shutterFull_frame

theorem usbCapture_frame (w : World) (io : Io) :
    (w.usbCapture io).clock = w.clock ∧ (w.usbCapture io).frames = w.frames := by
  unfold usbCapture
  split
  · exact ⟨rfl, rfl⟩
  · exact ⟨rfl, rfl⟩

/-- Taking a picture by cable or USB. -/
theorem capture_releases {w : World} (h : w.Sound) (io : Io)
    (hwire : (w.conf.camera.interface.hasCable || w.conf.camera.interface.hasUsb) = true) :
    (w.capture io).1.Releases Callback.LetsGo ↔
      w.Pending Callback.LetsGo ∨ 0 < w.frees ∧ u16 w.conf.captureTime ≠ 0 := by
  have hfull := shutterFull_frame { w with lastShutterError := false }
  have hdone : (w.capture io).1.clock =
        ({ w with lastShutterError := false }.shutterFull.callIn w.conf.captureTime
          .shutterOff).clock ∧
      (w.capture io).1.frames =
        ({ w with lastShutterError := false }.shutterFull.callIn w.conf.captureTime
          .shutterOff).frames := by
    unfold capture
    simp only
    rw [if_pos hwire]
    split
    · split
      · exact ⟨rfl, rfl⟩
      · exact ⟨rfl, rfl⟩
    · split
      · exact usbCapture_frame _ io
      · exact ⟨rfl, rfl⟩
  exact releases_of_callIn h _ .shutterOff _ (Or.inl rfl) hfull.1 hfull.2 hdone.1 hdone.2

/-- Pressing the button to open a bulb. -/
theorem bulbStartCable_releases {w : World} (h : w.Sound)
    (hcable : (w.conf.camera.interface.hasCable && !w.usbPrimary) = true)
    (hmode : w.conf.camera.bulbMode = .toggle) (hclosed : w.shutterState = false) :
    w.bulbStartCable.Releases Callback.LetsGo ↔
      w.Pending Callback.LetsGo ∨ 0 < w.frees ∧ u16 w.conf.pressTime ≠ 0 := by
  have hopen := w.pressOpen_frame .toggle
  have hfn : Callback.LetsGo (if w.link.ready then .shutterOff else .shutterHalf) := by
    split
    · exact Or.inl rfl
    · exact Or.inr rfl
  have hdone : w.bulbStartCable = { w.pressOpen .toggle with shutterState := true }.callIn
      w.conf.pressTime (if w.link.ready then .shutterOff else .shutterHalf) := by
    unfold bulbStartCable
    rw [if_pos hcable, hmode]
    simp only
    rw [hclosed, if_neg Bool.false_ne_true]
  rw [hdone]
  exact releases_of_callIn h _ _ _ hfn (v := { w.pressOpen .toggle with shutterState := true })
    hopen.1 hopen.2 rfl rfl

/-- Pressing it again to close one. -/
theorem bulbEndCable_releases {w : World} (h : w.Sound)
    (hcable : (w.conf.camera.interface.hasCable && !w.usbPrimary) = true)
    (hmode : w.conf.camera.bulbMode = .toggle) (hopened : w.shutterState = true) :
    w.bulbEndCable.Releases Callback.LetsGo ↔
      w.Pending Callback.LetsGo ∨ 0 < w.frees ∧ u16 w.conf.pressTime ≠ 0 := by
  have hclose := w.pressClose_frame
  have hdone : w.bulbEndCable =
      { w.pressClose with shutterState := false }.callIn w.conf.pressTime .shutterOff := by
    unfold bulbEndCable
    rw [if_pos hcable, hmode]
    simp only
    rw [if_pos hopened]
  rw [hdone]
  exact releases_of_callIn h _ _ _ (Or.inl rfl) (v := { w.pressClose with shutterState := false })
    hclose.1 hclose.2 rfl rfl

theorem aux1On_frame (w : World) : w.aux1On.clock = w.clock ∧ w.aux1On.frames = w.frames := by
  unfold aux1On
  split
  · exact ⟨rfl, rfl⟩
  · exact ⟨rfl, rfl⟩

theorem aux2On_frame (w : World) : w.aux2On.clock = w.clock ∧ w.aux2On.frames = w.frames := by
  unfold aux2On
  split
  · exact ⟨rfl, rfl⟩
  · exact ⟨rfl, rfl⟩

/-- The pulse of the auxiliary ports. -/
theorem auxPulse_releases {w : World} (h : w.Sound) :
    (w.auxPulse.Releases (· = .aux1Off) ↔
        w.Pending (· = .aux1Off) ∨ 0 < w.frees ∧ u16 (pulse w.conf.dollyPulse) ≠ 0) ∧
      (w.auxPulse.Releases (· = .aux2Off) ↔
        w.Pending (· = .aux2Off) ∨
          (if u16 (pulse w.conf.dollyPulse) = 0 then 0 else 1) < w.frees ∧
            u16 (pulse w.conf.dollyPulse2) ≠ 0) := by
  have hone := w.aux1On_frame
  have htwo := w.aux1On.aux2On_frame
  generalize hv : { w.aux1On.aux2On with
    conf.dollyPulse := pulse w.conf.dollyPulse
    conf.dollyPulse2 := pulse w.conf.dollyPulse2 } = v
  have hclock : v.clock = w.clock := by
    rw [← hv]
    exact htwo.1.trans hone.1
  have hsound : v.Sound := h.of_eq hclock (by rw [← hv]; exact htwo.2.trans hone.2)
  have hpulse : w.auxPulse =
      (v.callIn (pulse w.conf.dollyPulse) .aux1Off).callIn (pulse w.conf.dollyPulse2) .aux2Off := by
    rw [← hv]
    rfl
  have hfrees : v.frees = w.frees := by
    unfold frees
    rw [hclock]
  have hsound' := callIn_sound (callIn_sound hsound (pulse w.conf.dollyPulse) .aux1Off)
    (pulse w.conf.dollyPulse2) .aux2Off
  have hpending := pending_of_queue (congrArg Clock.queue hclock)
  rw [hpulse]
  constructor
  · -- The second request is for another callback.
    rw [pending_releases hsound', callIn_pending_iff, callIn_pending_iff, hpending, hfrees]
    simp only [reduceCtorEq, false_and, or_false, true_and]
  · rw [pending_releases hsound', callIn_pending_iff, callIn_pending_iff, hpending, callIn_frees,
      hfrees]
    simp only [reduceCtorEq, false_and, or_false, true_and]

end World

/-- The outputs that are released: a slot is free when the release is requested,
    and it is requested for some time; or a release was pending already. -/
theorem releases_iff (w : World) (io : Io) (h : w.Sound) :
    (w.conf.motionSync = false →
      (w.conf.camera.interface.hasCable || w.conf.camera.interface.hasUsb) = true →
      ((w.capture io).1.Releases Callback.LetsGo ↔
        w.Pending Callback.LetsGo ∨ 0 < w.frees ∧ u16 w.conf.captureTime ≠ 0)) ∧
      (w.conf.motionSync = false →
        (w.conf.camera.interface.hasCable && !w.usbPrimary) = true →
        w.conf.camera.bulbMode = .toggle →
        ((if w.shutterState then w.bulbEndCable else w.bulbStartCable).Releases Callback.LetsGo ↔
          w.Pending Callback.LetsGo ∨ 0 < w.frees ∧ u16 w.conf.pressTime ≠ 0)) ∧
      (w.auxPulse.Releases (· = .aux1Off) ∧ w.auxPulse.Releases (· = .aux2Off) ↔
        (w.Pending (· = .aux1Off) ∨ 0 < w.frees ∧ u16 (World.pulse w.conf.dollyPulse) ≠ 0) ∧
          (w.Pending (· = .aux2Off) ∨
            (if u16 (World.pulse w.conf.dollyPulse) = 0 then 0 else 1) < w.frees ∧
              u16 (World.pulse w.conf.dollyPulse2) ≠ 0)) := by
  refine ⟨fun _ hwire => World.capture_releases h io hwire, fun _ hcable hmode => ?_, ?_⟩
  · cases hstate : w.shutterState with
    | false =>
        rw [if_neg Bool.false_ne_true]
        exact World.bulbStartCable_releases h hcable hmode hstate
    | true =>
        rw [if_pos rfl]
        exact World.bulbEndCable_releases h hcable hmode hstate
  · have haux := World.auxPulse_releases h
    rw [haux.1, haux.2]

/-- Nothing is pending, and the factory settings give every release some time. -/
theorem releases_idle :
    ((World.idle cableSettings 0 .none).capture .ok).1.Releases Callback.LetsGo := by
  refine ((releases_iff _ .ok (World.idle_sound cableSettings 0 .none)).1 rfl rfl).mpr ?_
  exact Or.inr ⟨by decide, by decide⟩

/-- With a pulse of zero for the first auxiliary port its output stays on. -/
theorem aux_stuck : ∃ w, Run World.step (fun _ _ => True)
    (World.idle { Settings.factory with dollyPulse := 0 } 0 .none) w ∧
    w.auxPulse.aux1 = true ∧ ¬ w.auxPulse.Releases (· = .aux1Off) := by
  refine ⟨_, .refl, rfl, ?_⟩
  rintro ⟨i, fn, hfn, hpends, _⟩
  have hidle : ∀ i,
      ((World.idle { Settings.factory with dollyPulse := 0 } 0 .none).auxPulse.clock.queue i).fn =
        .aux1Off →
      ((World.idle { Settings.factory with dollyPulse := 0 } 0 .none).auxPulse.clock.queue i).time =
        0 := by
    decide
  exact hpends.pos (hidle i (hpends.holds.trans hfn))

end Shutter

end TimelapsePlus
