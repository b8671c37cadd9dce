import TimelapsePlus.Shutter.Bulbing

/-!
# The Flag of an Open Bulb

`camera.bulb_open` keeps `checkEvent` from the camera while a bulb is exposed.
`task` sets it before it asks for any bulb, whatever opens it, and only
`PTP::bulbEnd` clears it, which is called only where the interface has USB and
which returns early. So the flag outlives the exposure where the interface is
without USB, where the camera is not ready or takes no bulb, where the
transaction fails, and where the start of the bulb is refused.

## Main definitions

* `World.EndsBulb`: A tick that ends a bulb.
* `World.Clears`: `PTP::bulbEnd` clears the flag.
* `Intervalometer.FlagSpared`: The conditions on a step.
* `Intervalometer.FlagExposed`: The flag is set only while a bulb is exposed.

## Theorems

* `callIn_link`, ...: What leaves the connection as it is.
* `count_link_same`, `count_link_ends`: What a tick does to the connection.
* `flag_run`: Every run whose steps meet the conditions.
* `flag_left`: A run that leaves the flag set.
-/

namespace TimelapsePlus

namespace Shutter

open Word

namespace World

section Link

variable (w : World)

@[simp] theorem callIn_link (time : Nat) (fn : Callback) : (w.callIn time fn).link = w.link := by
  unfold callIn
  split
  · rfl
  · split <;> rfl

@[simp] theorem shutterOff_link : w.shutterOff.link = w.link := by
  unfold shutterOff
  split
  · rfl
  · exact callIn_link ..

@[simp] theorem shutterOffQuick_link : w.shutterOffQuick.link = w.link := by
  unfold shutterOffQuick
  split <;> rfl

@[simp] theorem shutterHalf_link : w.shutterHalf.link = w.link := by
  unfold shutterHalf
  split
  · rfl
  · split
    · rw [callIn_link, shutterOff_link]
    · exact w.shutterOff_link

@[simp] theorem shutterFull_link : w.shutterFull.link = w.link := by
  unfold shutterFull
  split <;> rfl

@[simp] theorem senseCable_link : w.senseCable.link = w.link := by
  unfold senseCable
  split <;> rfl

@[simp] theorem aux1Off_link : w.aux1Off.link = w.link := by
  unfold aux1Off
  split <;> rfl

@[simp] theorem aux2Off_link : w.aux2Off.link = w.link := by
  unfold aux2Off
  split <;> rfl

@[simp] theorem auxPulse_link : w.auxPulse.link = w.link := by
  have h1 : w.aux1On.link = w.link := by
    unfold aux1On
    split <;> rfl
  have h2 : w.aux1On.aux2On.link = w.aux1On.link := by
    unfold aux2On
    split <;> rfl
  unfold auxPulse
  rw [callIn_link, callIn_link]
  exact h2.trans h1

/-- A callback leaves the connection as it is. -/
@[simp] theorem call_link (fn : Callback) : (w.call fn).link = w.link := by
  cases fn with
  | checkCable => rfl
  | shutterHalfDelayed =>
      rw [call]
      unfold shutterHalfDelayed
      split <;> rfl
  | shutterOff => exact w.shutterOff_link
  | shutterHalf => exact w.shutterHalf_link
  | aux1Off => exact w.aux1Off_link
  | aux2Off => exact w.aux2Off_link

@[simp] theorem serviceSlot_link (i : Fin 3) : (w.serviceSlot i).link = w.link := by
  unfold serviceSlot
  simp only
  split
  · rfl
  · split
    · exact call_link ..
    · rfl

@[simp] theorem service_link : w.service.link = w.link := by
  have h : ∀ (is : List (Fin 3)) (v : World), (is.foldl serviceSlot v).link = v.link := by
    intro is
    induction is with
    | nil => intro v; rfl
    | cons i is ih => intro v; rw [List.foldl_cons, ih, serviceSlot_link]
  exact h _ _

@[simp] theorem leave_link : w.leave.link = w.link := rfl

@[simp] theorem bulbStartCable_link : w.bulbStartCable.link = w.link := by
  have hpress : ∀ via, (w.pressOpen via).link = w.link := by
    intro via
    unfold pressOpen
    split
    · rfl
    · exact w.shutterFull_link
  unfold bulbStartCable
  split
  · split
    · exact hpress _
    · split
      · rfl
      · exact (callIn_link ..).trans (hpress .toggle)
  · rfl

@[simp] theorem bulbEndCable_link : w.bulbEndCable.link = w.link := by
  have hpress : w.pressClose.link = w.link := by
    unfold pressClose
    split
    · rfl
    · exact w.shutterFull_link
  unfold bulbEndCable
  split
  · split
    · exact w.shutterOff_link
    · split
      · exact (callIn_link ..).trans hpress
      · rfl
  · rfl

end Link

/-- A tick that ends a bulb. -/
def EndsBulb (w : World) : Prop :=
  w.clock.newBulb = false ∧ w.clock.bulbRunning = true ∧ sub32 w.clock.bulbDuration 1 = 0

instance (w : World) : Decidable w.EndsBulb := inferInstanceAs (Decidable (_ ∧ _ ∧ _))

/-- `PTP::bulbEnd` goes through and clears the flag. -/
def Clears (w : World) (io : Io) : Prop :=
  w.link.staticReady = true ∧ w.link.supportsBulb = true ∧ io.endError = false

instance (w : World) (io : Io) : Decidable (w.Clears io) := inferInstanceAs (Decidable (_ ∧ _ ∧ _))

theorem usbBulbEnd_clears {w : World} {io : Io} (h : w.Clears io) :
    (w.usbBulbEnd io).link.bulbOpen = false := by
  rcases h with ⟨hready, hbulb, hgood⟩
  unfold usbBulbEnd
  rw [hready, hbulb, hgood]
  cases hopen : w.link.bulbOpen with
  | false => exact hopen
  | true => rfl

/-- `PTP::bulbEnd` never sets the flag. -/
theorem usbBulbEnd_flag (w : World) (io : Io) (h : (w.usbBulbEnd io).link.bulbOpen = true) :
    w.link.bulbOpen = true := by
  unfold usbBulbEnd at h
  split at h
  · exact h
  · split at h
    · exact h
    · exact absurd h Bool.false_ne_true

/-- A tick on which no bulb starts or ends leaves the connection as it is. -/
theorem count_link_same {w : World} (io : Io) (hnew : w.clock.newBulb = false)
    (hend : ¬ w.EndsBulb) : (w.count io).link = w.link := by
  unfold count
  rw [if_neg (by rw [hnew]; exact Bool.noConfusion)]
  by_cases hrun : w.clock.bulbRunning = true
  · have hlong : ¬ sub32 w.enter.clock.bulbDuration 1 = 0 := fun hdone => hend ⟨hnew, hrun, hdone⟩
    rw [if_pos hrun, bulbTick, if_neg hlong, leave_link]
    split
    · rfl
    · rw [service_link]
      rfl
  · rw [if_neg hrun, leave_link, service_link]
    rfl

theorem bulbEndHead_flag {w : World} (io : Io)
    (hcond : w.link.bulbOpen = true →
      w.conf.camera.interface.hasUsb = true ∧ w.Clears io) :
    (w.bulbEndHead io).1.link.bulbOpen = false := by
  unfold bulbEndHead
  by_cases hopen : w.link.bulbOpen = true
  · rcases hcond hopen with ⟨husb, hclears⟩
    rw [hopen, husb]
    simp only [Bool.true_or, Bool.and_true, if_true]
    exact usbBulbEnd_clears (w := { w with log := .bulbEnd :: w.log }) hclears
  · rw [Bool.not_eq_true] at hopen
    simp only [hopen, Bool.false_or, Bool.false_and, Bool.false_eq_true, if_false]
    split
    · split <;> exact hopen
    · exact hopen

/-- A tick that ends a bulb leaves the flag set only where `PTP::bulbEnd` is not
    called or does not go through. -/
theorem count_link_ends {w : World} (io : Io) (h : w.EndsBulb)
    (hcond : w.link.bulbOpen = true →
      w.conf.camera.interface.hasUsb = true ∧ w.Clears io) :
    (w.count io).link.bulbOpen = false := by
  rcases h with ⟨hnew, hrun, hdone⟩
  have hdone' : sub32 w.enter.clock.bulbDuration 1 = 0 := hdone
  unfold count
  rw [if_neg (by rw [hnew]; exact Bool.noConfusion), if_pos hrun, bulbTick, if_pos hdone', endTick]
  have hflag := bulbEndHead_flag (w := { w.enter.note .skipped with clock.bulbDuration := 0 }) io
    hcond
  simp only
  split
  · exact hflag
  · exact (congrArg Link.bulbOpen (bulbEndCable_link _)).trans hflag

theorem bulbEndHead_keeps (w : World) (io : Io) (h : (w.bulbEndHead io).1.link.bulbOpen = true) :
    w.link.bulbOpen = true := by
  unfold bulbEndHead at h
  by_cases hopen : (w.link.bulbOpen || w.irShutterState) = true
  · rw [if_pos hopen] at h
    by_cases husb : (w.link.bulbOpen && w.conf.camera.interface.hasUsb) = true
    · rw [if_pos husb] at h
      exact usbBulbEnd_flag { w with log := .bulbEnd :: w.log } io h
    · rw [if_neg husb] at h
      split at h
      · exact h
      · exact h
  · rw [if_neg hopen] at h
    exact h

/-- A tick on which no bulb starts never sets the flag. -/
theorem count_flag {w : World} (io : Io) (hnew : w.clock.newBulb = false)
    (hopen : (w.count io).link.bulbOpen = true) : w.link.bulbOpen = true := by
  by_cases hend : w.EndsBulb
  · rcases hend with ⟨-, hrun, hdone⟩
    have hdone' : sub32 w.enter.clock.bulbDuration 1 = 0 := hdone
    unfold count at hopen
    rw [if_neg (by rw [hnew]; exact Bool.noConfusion), if_pos hrun, bulbTick, if_pos hdone',
      endTick] at hopen
    have hkeeps := bulbEndHead_keeps { w.enter.note .skipped with clock.bulbDuration := 0 } io
    simp only at hopen
    split at hopen
    · exact hkeeps hopen
    · exact hkeeps ((congrArg Link.bulbOpen (bulbEndCable_link _)).symm.trans hopen)
  · rw [count_link_same io hnew hend] at hopen
    exact hopen

/-- What `task` does while it starts no bulb never sets the flag. -/
theorem acts_flag {w v : World} (h : w.Acts v) (hopen : v.link.bulbOpen = true) :
    w.link.bulbOpen = true := by
  induction h with
  | refl => exact hopen
  | senseCable _ ih => exact ih (by rwa [senseCable_link] at hopen)
  | tare _ ih => exact ih hopen
  | shutterClose _ ih => exact ih hopen
  | shutterOff _ ih => exact ih (by rwa [shutterOff_link] at hopen)
  | shutterOffQuick _ ih => exact ih (by rwa [shutterOffQuick_link] at hopen)
  | shutterHalf _ ih => exact ih (by rwa [shutterHalf_link] at hopen)
  | @capture v io _ ih =>
      refine ih ?_
      have hfull : (({ v with lastShutterError := false } : World).shutterFull.callIn
          v.conf.captureTime .shutterOff).link = v.link := by
        rw [callIn_link, shutterFull_link]
      unfold World.capture at hopen
      simp only at hopen
      split at hopen
      · split at hopen
        · split at hopen
          · exact (congrArg Link.bulbOpen hfull).symm.trans hopen
          · exact (congrArg Link.bulbOpen hfull).symm.trans hopen
        · split at hopen
          · unfold usbCapture at hopen
            split at hopen <;> exact (congrArg Link.bulbOpen hfull).symm.trans hopen
          · exact (congrArg Link.bulbOpen hfull).symm.trans hopen
      · exact hopen
  | auxPulse _ ih => exact ih (by rwa [auxPulse_link] at hopen)
  | aux1Off _ ih => exact ih (by rwa [aux1Off_link] at hopen)
  | aux2Off _ ih => exact ih (by rwa [aux2Off_link] at hopen)
  | usbBulbEnd io _ ih => exact ih (usbBulbEnd_flag _ io hopen)
  | unlink _ ih => exact absurd hopen Bool.false_ne_true
  | relink link _ ih => exact absurd hopen Bool.false_ne_true

/-- The flag is set only while a bulb is to start or is running, and not while
    the code that ends one is sent. -/
structure FlagSane (w : World) : Prop where
  exposed : w.link.bulbOpen = true → w.clock.newBulb = true ∨ w.clock.bulbRunning = true
  stopping : w.Sends .stop → w.clock.newBulb = false ∧ w.link.bulbOpen = false

/-- Nothing that leaves the exposure as it is, and does not set the flag, matters. -/
theorem FlagSane.same {w v : World} (h : w.FlagSane) (hnew : v.clock.newBulb = w.clock.newBulb)
    (hrun : v.clock.bulbRunning = w.clock.bulbRunning) (hsends : v.Sends .stop → w.Sends .stop)
    (hflag : v.link.bulbOpen = true → w.link.bulbOpen = true) : v.FlagSane := by
  refine ⟨fun hopen => ?_, fun hstop => ?_⟩
  · rw [hnew, hrun]
    exact h.exposed (hflag hopen)
  · rcases h.stopping (hsends hstop) with ⟨hold, hshut⟩
    refine ⟨hnew.trans hold, ?_⟩
    by_contra hopen
    rw [Bool.not_eq_false] at hopen
    exact absurd ((hflag hopen).symm.trans hshut) Bool.noConfusion

/-- With the flag not set, and nothing being sent, nothing more is asked. -/
theorem flagSane_of_shut {w : World} (hshut : w.link.bulbOpen = false)
    (hstop : w.Sends .stop → w.clock.newBulb = false) : w.FlagSane :=
  ⟨fun hopen => absurd (hshut.symm.trans hopen) Bool.noConfusion, fun h => ⟨hstop h, hshut⟩⟩

theorem flagSane_count {w : World} (io : Io) (h : w.FlagSane)
    (hcond : w.EndsBulb → w.link.bulbOpen = true →
      w.conf.camera.interface.hasUsb = true ∧ w.Clears io) : (w.count io).FlagSane := by
  have hended : w.EndsBulb → (w.count io).link.bulbOpen = false := fun hend =>
    count_link_ends io hend (hcond hend)
  have hkept : w.clock.newBulb = false → (w.count io).link.bulbOpen = true →
      w.link.bulbOpen = true := fun hnew => count_flag io hnew
  have hstarting : w.starting.Sends .stop ↔ w.Sends .stop := by
    rw [starting_eq]
    exact w.enter_sends .stop
  have hnone : w.clock.newBulb = true → ¬ w.Sends .stop := fun hnew hstop =>
    absurd ((h.stopping hstop).1.symm.trans hnew) Bool.noConfusion
  have hticked := w.count_ticked io
  generalize w.count io = u at hticked hended hkept ⊢
  rcases hticked with
    ⟨v, hnew, _, _, hv⟩ | ⟨v, hnew, hv⟩ | ⟨v, hnew, hrun, hdone, hv⟩ | ⟨v, hnew, hrun, hdone, hv⟩ |
      ⟨hnew, hrun, _, _, _⟩ | ⟨hnew, _⟩
  · -- The start is being sent, and the bulb is still to start.
    have hasked : v.clock.newBulb = true := by
      rw [hv.clock, starting_eq]
      exact hnew
    refine ⟨fun _ => Or.inl hasked, ?_⟩
    rintro ⟨g, hg, hkind⟩
    rcases List.mem_cons.mp hg with rfl | hg
    · exact FrameKind.noConfusion hkind
    · exact absurd (hstarting.mp ((sends_of_frames .stop hv.frames).mp ⟨g, hg, hkind⟩)) (hnone hnew)
  · refine ⟨fun _ => Or.inr rfl, fun hstop => ?_⟩
    exact absurd (hstarting.mp ((sends_of_frames .stop hv.frames).mp hstop)) (hnone hnew)
  · -- The flag is cleared before the code that ends the bulb is sent.
    have hasked : v.clock.newBulb = false := by
      rw [hv.clock]
      exact hnew
    exact flagSane_of_shut (hended ⟨hnew, hrun, hdone⟩) fun _ => hasked
  · have hasked : v.clock.newBulb = false := by
      rw [hv.clock]
      exact hnew
    exact flagSane_of_shut (hended ⟨hnew, hrun, hdone⟩) fun _ => hasked
  · refine ⟨fun _ => Or.inr hrun, fun hstop => ?_⟩
    exact h.stopping ((w.enter_sends .stop).mp hstop)
  · have hsteady := w.passing_steady
    have hsame := hsteady.newBulb.trans w.passing_newBulb
    have hrunning := hsteady.bulbRunning.trans w.passing_bulbRunning
    have hframes := hsteady.frames.trans w.passing_frames
    generalize w.passing.service = u at hkept hsame hrunning hframes ⊢
    refine h.same hsame hrunning (fun hstop => ?_) (hkept hnew)
    exact (w.enter_sends .stop).mp ((sends_of_frames .stop hframes).mp hstop)

/-- With a bulb to start, and nothing being sent, nothing more is asked. -/
theorem flagSane_asked {w : World} (hnew : w.clock.newBulb = true) (hframes : w.frames = []) :
    w.FlagSane := by
  refine ⟨fun _ => Or.inl hnew, ?_⟩
  rintro ⟨f, hf, _⟩
  rw [hframes] at hf
  exact absurd hf List.not_mem_nil

theorem resume_link (w : World) (f : Frame) (fs : List Frame) : (w.resume f fs).link = w.link := by
  unfold resume
  split
  · exact bulbStartCable_link _
  · exact bulbEndCable_link _

theorem flagSane_resume {w : World} {f : Frame} {fs : List Frame} (h : w.FlagSane)
    (hframes : w.frames = f :: fs) : (w.resume f fs).FlagSane := by
  have hdeeper : (w.resume f fs).Sends .stop → w.Sends .stop := by
    rintro ⟨g, hg, hkind⟩
    rw [(Watch.resume_asked w f fs).2] at hg
    exact ⟨g, by rw [hframes]; exact List.mem_cons_of_mem f hg, hkind⟩
  have hlink := resume_link w f fs
  cases hkind : f.kind with
  | start =>
      refine ⟨fun _ => Or.inr ?_, fun hstop => ⟨?_, ?_⟩⟩
      · unfold resume
        rw [hkind]
        rfl
      · unfold resume
        rw [hkind]
        rfl
      · rw [hlink]
        exact (h.stopping (hdeeper hstop)).2
  | stop =>
      -- The flag has been cleared before the code was sent.
      rcases h.stopping ⟨f, by rw [hframes]; exact List.mem_cons_self, hkind⟩ with ⟨hnew, hshut⟩
      refine flagSane_of_shut (by rw [hlink, hshut]) fun _ => ?_
      by_contra hasked
      rw [Bool.not_eq_false] at hasked
      exact absurd (((Watch.resume_asked w f fs).1 hasked).1.symm.trans hnew) Bool.noConfusion

/-- A tick that ends a bulb clears the flag. -/
def FlagTicks (w : World) (io : Io) : Prop :=
  w.EndsBulb → w.link.bulbOpen = true → w.conf.camera.interface.hasUsb = true ∧ w.Clears io

instance (w : World) (io : Io) : Decidable (w.FlagTicks io) :=
  inferInstanceAs (Decidable (_ → _ → _ ∧ _))

end World

open World

/-- The flag is watched. -/
def flagWatch : Watch where
  up w := w.link.bulbOpen = true
  sane := FlagSane
  ticks := FlagTicks
  resumes _ := True
  ends := Clears
  up_exposed _ h := h.exposed
  sane_acts := by
    intro w v hacts h
    rcases acts_clock hacts with ⟨hnew, hrun, hframes⟩
    exact h.same hnew hrun (sends_of_frames .stop hframes).mp (acts_flag hacts)
  up_acts := fun hacts _ hopen => acts_flag hacts hopen
  sane_reset := by
    intro w _ hshut
    rw [Bool.not_eq_true] at hshut
    exact ⟨flagSane_of_shut hshut fun _ => rfl, by rw [Bool.not_eq_true]; exact hshut⟩
  sane_cancel := by
    intro w _ hshut
    rw [Bool.not_eq_true] at hshut
    exact ⟨flagSane_of_shut hshut fun _ => rfl, by rw [Bool.not_eq_true]; exact hshut⟩
  sane_primary := by
    intro w b h hshut
    exact ⟨⟨h.exposed, h.stopping⟩, hshut⟩
  sane_bulb := fun _ _ _ _ hframes => flagSane_asked rfl hframes
  sane_open := fun _ _ _ _ hframes => flagSane_asked rfl hframes
  sane_give := by
    intro w h _
    -- The connection that is given up takes the flag with it.
    refine ⟨flagSane_of_shut rfl fun hstop => ?_, Bool.false_ne_true⟩
    rcases shutterOffQuick_same w.flagOpen with ⟨hnew, _, hframes⟩
    exact hnew.trans (h.stopping ((sends_of_frames .stop hframes).mp hstop)).1
  ends_shut := by
    intro w io h hclears
    rw [Bool.not_eq_true]
    refine usbBulbEnd_clears (w := w.senseCable.shutterOff) ?_
    unfold Clears
    rw [shutterOff_link, senseCable_link]
    exact hclears
  sane_tick := fun _ io h hcond => flagSane_count io h hcond
  up_tick := by
    intro w io _ hopen
    by_cases hnew : w.clock.newBulb = true
    · exact Or.inr hnew
    · exact Or.inl (count_flag io (Bool.eq_false_iff.mpr hnew) hopen)
  sane_resume := fun _ _ _ h hframes _ => flagSane_resume h hframes
  up_resume := by
    intro w f fs _ _ hopen
    rw [resume_link] at hopen
    exact Or.inl hopen
  sane_pins := fun _ _ _ h => ⟨⟨h.exposed, h.stopping⟩, id⟩
  sane_connect := by
    intro w link h
    have hflag : (link.bulbOpen && w.link.bulbOpen) = true → w.link.bulbOpen = true := fun hopen =>
      (Bool.and_eq_true _ _ ▸ hopen).2
    exact ⟨h.same rfl rfl id hflag, hflag⟩

/-! ### Runs -/

namespace Intervalometer

/-- What is asked of a step: a tick that ends a bulb with the flag set is one with USB
    whose `PTP::bulbEnd` goes through, so does the one of a call that ends a stopped run
    with the flag set, and no start of a bulb is refused with the flag set. -/
def FlagSpared (s : Intervalometer) : Order → Prop
  | .tick io => s.world.FlagTicks io
  | .task f =>
    s.running = false → s.GoesOn → s.world.link.bulbOpen = true → s.world.Clears f.io
  | .goOn _ =>
    s.place = some .starting → s.world.lastShutterError = true → ¬ s.world.link.bulbOpen = true
  | _ => True

instance (s : Intervalometer) (a : Order) : Decidable (s.FlagSpared a) :=
  match a with
  | .tick io => inferInstanceAs (Decidable (s.world.FlagTicks io))
  | .task f => inferInstanceAs (Decidable (_ → _ → _ → s.world.Clears f.io))
  | .goOn _ => inferInstanceAs (Decidable (_ → _ → ¬ _))
  | .resume => inferInstanceAs (Decidable True)
  | .pins _ _ => inferInstanceAs (Decidable True)
  | .connect _ _ => inferInstanceAs (Decidable True)
  | .begin => inferInstanceAs (Decidable True)
  | .stop => inferInstanceAs (Decidable True)
  | .pause _ => inferInstanceAs (Decidable True)
  | .confirm => inferInstanceAs (Decidable True)
  | .switchTo _ => inferInstanceAs (Decidable True)

/-- The flag is set only while a bulb is to start or is running, in a run that is taking
    a bulb exposure. -/
structure FlagExposed (s : Intervalometer) : Prop where
  exposing : s.world.link.bulbOpen = true →
    s.world.clock.newBulb = true ∨ s.world.clock.bulbRunning = true
  bulbing : s.world.link.bulbOpen = true → s.Bulbing

/-- In a run whose steps are spared the flag is set only while a bulb is exposed. -/
theorem flag_run {w : World} (p : Program) {s : Intervalometer}
    (hshut : w.link.bulbOpen = false) (hframes : w.frames = []) (hnew : w.clock.newBulb = false)
    (h : Run step FlagSpared (idle w p) s) : s.FlagExposed := by
  have hspares : Run step flagWatch.Spares (idle w p) s := by
    refine h.mono fun t a hok => ?_
    cases a <;> exact hok
  have hguarded : flagWatch.Guarded s := by
    refine Watch.guarded_run hspares (Watch.guarded_idle p ?_ ?_ hframes hnew)
    · exact flagSane_of_shut hshut fun _ => hnew
    · show ¬ w.link.bulbOpen = true
      rw [hshut]
      exact Bool.false_ne_true
  exact ⟨hguarded.sane.exposed, hguarded.up⟩

/-- A time-lapse of bulb exposures. -/
def bulbs : Program := { Program.plain with delay := 0 }

/-- A call of `task` that asks for a bulb of twenty milliseconds. -/
def shortBulb : Found := { Found.plain with bulbLength := 20 }

/-- A run up to where its first bulb is asked for. -/
def firstBulb : List Order :=
  [.begin, .task shortBulb, .goOn shortBulb] ++ List.replicate 1001 (.tick .ok) ++
    [.goOn shortBulb, .task shortBulb]

/-- The flag is set when a bulb is asked for. -/
theorem flag_run_asked : ∃ s, Run step FlagSpared (idle (World.idle .factory 20 .none) bulbs) s ∧
    s.world.link.bulbOpen = true ∧ s.FlagExposed := by
  have hallowed : allowed step FlagSpared (idle (World.idle .factory 20 .none) bulbs)
      firstBulb = true := by decide +kernel
  have hopen : (steps step (idle (World.idle .factory 20 .none) bulbs) firstBulb).map
      (fun s => s.world.link.bulbOpen) = some true := by decide +kernel
  rcases run_of_allowed _ hallowed with ⟨s, hsteps, hrun⟩
  rw [hsteps] at hopen
  exact ⟨s, hrun, Option.some.inj hopen, flag_run bulbs rfl rfl rfl hrun⟩

/-- On the cable the bulb ends and the flag stays. -/
theorem flag_left : ∃ s,
    Run step (fun _ _ => True) (idle (World.idle cableSettings 20 .none) bulbs) s ∧
      s.world.link.bulbOpen = true ∧ ¬ s.FlagExposed := by
  have hleft : (steps step (idle (World.idle cableSettings 20 .none) bulbs)
      (firstBulb ++ List.replicate 12 (.tick .ok) ++ [.goOn shortBulb] ++
        List.replicate 200 (.tick .ok))).map
      (fun s => (s.world.link.bulbOpen, s.world.clock.newBulb, s.world.clock.bulbRunning)) =
        some (true, false, false) := by decide +kernel
  rw [Option.map_eq_some_iff] at hleft
  rcases hleft with ⟨s, hsteps, hs⟩
  simp only [Prod.mk.injEq] at hs
  rcases hs with ⟨hopen, hnew, hrun⟩
  refine ⟨s, run_of_steps _ hsteps, hopen, fun hexposed => ?_⟩
  rcases hexposed.exposing hopen with hasked | hrunning
  · exact absurd (hasked.symm.trans hnew) Bool.noConfusion
  · exact absurd (hrunning.symm.trans hrun) Bool.noConfusion

end Intervalometer

end Shutter

end TimelapsePlus
