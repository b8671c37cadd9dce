import TimelapsePlus.Shutter.Task
import TimelapsePlus.Shutter.Timer

/-!
# A Stop Ends the Run

The menu stops a run by clearing `running`, and leaves it to the next call of
`task` to end it. That call looks at the pause first. A run that is paused goes
no further than there, and stays entered; the next `begin` then clears the pause
and takes up the run that was stopped. So does a pause that is being ended, while
the camera comes to rest or a filter is to be taken off.

## Main definitions

* `Intervalometer.Over`: A run has ended, with the outputs released.
* `Intervalometer.Checking`: A run is in its precheck.
* `Intervalometer.Restarts`: The next run starts with its precheck.
* `Intervalometer.GoesOn`: The pause lets a call of `task` go on.
* `Intervalometer.Tracks`: The pause is where an exposure ramp has it.

## Theorems

* `task_over`: A stopped run that is not held by a pause ends.
* `task_held`: One that is held by a pause stays entered.
* `between_run`: Nothing but `begin` starts a run.
* `pause_tracks`: The pause is the one the exposure ramp is accounted with.
* `stop_ends_iff`: A stop ends the run exactly when no pause holds it.
* `stop_resumed`: A run that is stopped, and goes on.
-/

namespace TimelapsePlus

namespace Shutter

namespace World

/-- The outputs the run drives are released. The auxiliary outputs are those of
    the shutter when the camera port drives a dolly. -/
def Released (w : World) : Prop :=
  w.shutterOpen = false ∧ w.mirrorUp = false ∧
    (w.conf.motionSync = false → w.aux1 = false ∧ w.aux2 = false)

instance (w : World) : Decidable w.Released := inferInstanceAs (Decidable (_ ∧ _ ∧ (_ → _)))

@[simp] theorem callIn_conf (w : World) (time : Nat) (fn : Callback) :
    (w.callIn time fn).conf = w.conf := by
  unfold callIn
  split
  · rfl
  · split <;> rfl

@[simp] theorem callIn_shutterOpen (w : World) (time : Nat) (fn : Callback) :
    (w.callIn time fn).shutterOpen = w.shutterOpen := by
  unfold callIn
  split
  · rfl
  · split <;> rfl

@[simp] theorem callIn_mirrorUp (w : World) (time : Nat) (fn : Callback) :
    (w.callIn time fn).mirrorUp = w.mirrorUp := by
  unfold callIn
  split
  · rfl
  · split <;> rfl

theorem usbBulbEnd_pins (w : World) (io : Io) :
    (w.usbBulbEnd io).conf = w.conf ∧ (w.usbBulbEnd io).shutterOpen = w.shutterOpen ∧
      (w.usbBulbEnd io).mirrorUp = w.mirrorUp := by
  unfold usbBulbEnd
  split
  · exact ⟨rfl, rfl, rfl⟩
  · split <;> exact ⟨rfl, rfl, rfl⟩

/-- What `RUN_END` does to the outputs. -/
theorem released_end (w : World) (io : Io) :
    { (w.shutterOff.usbBulbEnd io).aux1Off.aux2Off with usbPrimary := false }.Released := by
  rcases w.shutterOff.usbBulbEnd_pins io with ⟨hconf, hopen, hmirror⟩
  have hoff : w.shutterOff.conf = w.conf := by
    unfold shutterOff
    split
    · rfl
    · exact callIn_conf ..
  by_cases hsync : w.conf.motionSync = true
  · -- The camera port drives a dolly: its lines are those of the shutter.
    have hsync' : (w.shutterOff.usbBulbEnd io).conf.motionSync = true := by rw [hconf, hoff, hsync]
    have haux :
        (w.shutterOff.usbBulbEnd io).aux1Off = (w.shutterOff.usbBulbEnd io).shutterClose := by
      rw [aux1Off, if_pos hsync']
    have haux' : (w.shutterOff.usbBulbEnd io).aux1Off.aux2Off =
        { (w.shutterOff.usbBulbEnd io).aux1Off with mirrorUp := false } := by
      rw [aux2Off, if_pos (by rw [haux]; exact hsync')]
    rw [haux', haux]
    refine ⟨rfl, rfl, fun hno => ?_⟩
    exact absurd (hsync'.symm.trans hno) Bool.noConfusion
  · rw [Bool.not_eq_true] at hsync
    have hsync' : ¬ (w.shutterOff.usbBulbEnd io).conf.motionSync = true := by
      rw [hconf, hoff, hsync]
      exact Bool.noConfusion
    have haux : (w.shutterOff.usbBulbEnd io).aux1Off =
        { w.shutterOff.usbBulbEnd io with aux1 := false } := by
      rw [aux1Off, if_neg hsync']
    have haux' : (w.shutterOff.usbBulbEnd io).aux1Off.aux2Off =
        { (w.shutterOff.usbBulbEnd io).aux1Off with aux2 := false } := by
      rw [aux2Off, if_neg (by rw [haux]; exact hsync')]
    have hclosed : w.shutterOff.shutterOpen = false ∧ w.shutterOff.mirrorUp = false := by
      rw [shutterOff, if_neg (by rw [hsync]; exact Bool.noConfusion)]
      exact ⟨callIn_shutterOpen .., callIn_mirrorUp ..⟩
    rw [haux', haux]
    exact ⟨hopen.trans hclosed.1, hmirror.trans hclosed.2, fun _ => ⟨rfl, rfl⟩⟩

end World

namespace Intervalometer

/-- A run has ended, with the outputs released. -/
structure Over (s : Intervalometer) : Prop where
  ended : s.runState = .ended
  left : s.enter = false
  still : s.running = false
  unpaused : s.paused = false ∧ s.pausing = 0
  unchecked : s.preChecked = 0
  released : s.world.Released

/-- A run is in its precheck. -/
def Checking (s : Intervalometer) : Prop := s.enter = true ∧ s.running = true ∧ 0 < s.preChecked

/-- However it goes on until the next `begin`, the first call of `task` after that
    is in the precheck of a new run. -/
def Restarts (s : Intervalometer) : Prop :=
  ∀ t u v f, Run step (fun _ a => a ≠ .begin) s t → t.step .begin = some u →
    u.step (.task f) = some v → v.Checking

/-- The pause lets a call of `task` go on. -/
def GoesOn (s : Intervalometer) : Prop := s.paused = false ∨ 8 < s.pausing ∧ s.showND = false

instance (s : Intervalometer) : Decidable s.GoesOn := inferInstanceAs (Decidable (_ ∨ _ ∧ _))

/-- Nothing runs. -/
structure Between (s : Intervalometer) : Prop where
  left : s.enter = false
  still : s.running = false
  idle : s.place = none
  unchecked : s.preChecked = 0

/-- A run that is to end does so. -/
theorem chain_ended (f : Found) {s : Intervalometer} (h : s.runState = .ended) :
    chain (delay :: fromPhoto f) s = (s.finish f).state := by
  have hne : ∀ r : RunState, r ≠ .ended → s.runState ≠ r := fun r hr he => hr (he.symm.trans h)
  rw [fromPhoto, fromNext, List.cons_append, List.cons_append, List.nil_append,
    chain_on (delay_of_ne (hne _ (by decide))), chain_on (photo_of_ne f (hne _ (by decide))),
    chain_on (bulb_of_ne f (hne _ (by decide))), chain_on (next_of_ne f (hne _ (by decide))),
    chain_on (gap_of_ne f (hne _ (by decide))), chain_on (gapSettled_of_ne f (hne _ (by decide))),
    chain_on (externalTrigger_of_ne f (hne _ (by decide))),
    chain_on (externalTriggerRelease_of_ne f (hne _ (by decide))),
    chain_on (error_of_ne f (hne _ (by decide))), chain]
  cases s.finish f <;> rfl

theorem finish_over (f : Found) {s : Intervalometer} (h : s.runState = .ended) :
    (s.finish f).state.Over ∧ (s.finish f).state.place = s.place := by
  rw [finish, if_pos h]
  exact ⟨⟨h, rfl, rfl, ⟨rfl, rfl⟩, rfl, s.world.released_end f.io⟩, rfl⟩

/-- A stopped run comes to its pause as it was. -/
theorem stopped_chain (f : Found) {s : Intervalometer} (hrun : s.running = false)
    (henter : s.enter = true) :
    ∃ w, s.task f = chain (fromResume f) { s with world := w } := by
  let w := s.world.senseCable
  have hw : s.arrive = .on { s with world := w } := by
    rw [arrive, if_pos (by rw [henter, Bool.or_true])]
  refine ⟨w, ?_⟩
  have hstart : startup f { s with world := w } = .on { s with world := w } := by
    rw [startup, if_neg]
    rw [toStart, hrun, Bool.false_and]
    exact Bool.noConfusion
  have hlaunch : launch { s with world := w } = .on { s with world := w } := by
    rw [launch, if_neg]
    rw [toStart, hrun, Bool.false_and]
    exact Bool.noConfusion
  rw [task, stages, List.cons_append, List.cons_append, List.cons_append, List.nil_append,
    chain_on hw, chain_on hstart, chain_on hlaunch]

/-- From where a stopped run is not paused, it ends. -/
theorem chain_over (f : Found) {s : Intervalometer} (hrun : s.running = false)
    (hpause : s.paused = false) :
    (chain (whilePaused f :: startPause :: cancel :: delay :: fromPhoto f) s).Over ∧
      (chain (whilePaused f :: startPause :: cancel :: delay :: fromPhoto f) s).place =
        s.place := by
  have hwhile : ∃ b, s.whilePaused f = .on { s with showND := b } := by
    unfold whilePaused
    rw [if_neg (by rw [hpause]; exact Bool.noConfusion)]
    split
    · exact ⟨true, rfl⟩
    · exact ⟨s.showND, rfl⟩
  rcases hwhile with ⟨b, hb⟩
  rw [chain_on hb]
  have hpausing : ∃ p q, startPause { s with showND := b } =
      .on { s with showND := b, pausing := p, paused := q } := by
    unfold startPause
    split
    · exact ⟨0, true, rfl⟩
    · exact ⟨s.pausing, s.paused, rfl⟩
  rcases hpausing with ⟨p, q, hpq⟩
  rw [chain_on hpq]
  have hcancel : cancel { s with showND := b, pausing := p, paused := q } =
      .on { s with showND := b, pausing := p, paused := q, runState := .ended } := by
    rw [cancel, if_neg]
    rw [hrun]
    exact Bool.noConfusion
  rw [chain_on hcancel, chain_ended f rfl]
  exact finish_over f rfl

/-- A stopped run that is not held by a pause ends. -/
theorem task_over (f : Found) {s : Intervalometer} (hrun : s.running = false)
    (henter : s.enter = true) (hgo : s.GoesOn) :
    (s.task f).Over ∧ (s.task f).place = s.place := by
  rcases stopped_chain f hrun henter with ⟨w, hw⟩
  rw [hw, fromResume, List.cons_append, List.cons_append, List.cons_append, List.cons_append,
    List.cons_append, List.nil_append]
  by_cases hpause : s.paused = false
  · have hresume : resume { s with world := w } = .on { s with world := w } := by
      rw [resume, if_neg]
      rw [hpause, Bool.and_false]
      exact Bool.noConfusion
    rw [chain_on hresume]
    exact chain_over f hrun hpause
  · -- The pause has been ended long enough ago.
    rcases hgo.resolve_left hpause with ⟨hlong, hshow⟩
    rw [Bool.not_eq_false] at hpause
    have hresume : resume { s with world := w } =
        .on { s with world := w, paused := false, pausing := 0 } := by
      rw [resume, if_pos, if_pos hlong, if_neg]
      · rw [hshow]
        exact Bool.noConfusion
      · rw [hpause, Bool.and_true, decide_eq_true_eq]
        exact Nat.lt_trans (by decide) hlong
    rw [chain_on hresume]
    exact chain_over f hrun rfl

/-- A stopped run that is held by a pause stays entered. -/
theorem task_held (f : Found) {s : Intervalometer} (hrun : s.running = false)
    (henter : s.enter = true) (hheld : ¬ s.GoesOn) : (s.task f).enter = true := by
  rcases stopped_chain f hrun henter with ⟨w, hw⟩
  have hpause : s.paused = true := by
    by_contra hno
    rw [Bool.not_eq_true] at hno
    exact hheld (Or.inl hno)
  have hresume : ∃ t, resume { s with world := w } = .on t ∧ t.paused = true ∧ t.enter = true := by
    unfold resume
    split
    · split
      · rename_i hlong
        rw [if_pos]
        · exact ⟨_, rfl, hpause, henter⟩
        · by_contra hno
          rw [Bool.not_eq_true] at hno
          exact hheld (Or.inr ⟨hlong, hno⟩)
      · exact ⟨_, rfl, hpause, henter⟩
    · exact ⟨_, rfl, hpause, henter⟩
  rcases hresume with ⟨t, ht, hpaused, hstays⟩
  have hback : t.whilePaused f = .back t := by rw [whilePaused, if_pos hpaused]
  rw [hw, fromResume, List.cons_append, List.cons_append, List.cons_append, List.cons_append,
    List.cons_append, List.nil_append, chain_on ht, chain_back hback]
  exact hstays

/-- Between runs a call of `task` does nothing. -/
theorem between_task (f : Found) {s : Intervalometer} (h : s.Between) : (s.task f).Between := by
  have hw : s.arrive = .back { s with world := s.world.senseCable } := by
    rw [arrive, if_neg (by rw [h.still, h.left]; exact Bool.noConfusion)]
  rw [task, stages, List.cons_append, List.cons_append, List.cons_append, chain_back hw]
  exact ⟨h.left, h.still, h.idle, h.unchecked⟩

/-- Nothing but `begin` starts a run. -/
theorem between_step {s t : Intervalometer} (a : Order) (h : s.Between) (hne : a ≠ .begin)
    (hstep : s.step a = some t) : t.Between := by
  cases a with
  | tick io =>
      rw [step, Option.some.injEq] at hstep
      rw [← hstep]
      exact ⟨h.left, h.still, h.idle, h.unchecked⟩
  | resume =>
      rw [step, Option.map_eq_some_iff] at hstep
      rcases hstep with ⟨w, _, rfl⟩
      exact ⟨h.left, h.still, h.idle, h.unchecked⟩
  | pins cablePin syncPin =>
      rw [step, Option.some.injEq] at hstep
      rw [← hstep]
      exact ⟨h.left, h.still, h.idle, h.unchecked⟩
  | connect link disabled =>
      rw [step, Option.some.injEq] at hstep
      rw [← hstep]
      exact ⟨h.left, h.still, h.idle, h.unchecked⟩
  | task f =>
      rw [step] at hstep
      split at hstep
      · rw [Option.some.injEq] at hstep
        rw [← hstep]
        exact between_task f h
      · exact absurd hstep (by simp only [reduceCtorEq, not_false_eq_true])
  | goOn f =>
      rw [step, h.idle] at hstep
      exact absurd hstep (by simp only [reduceCtorEq, not_false_eq_true])
  | begin => exact absurd rfl hne
  | stop =>
      rw [step, Option.ite_none_right_eq_some, Option.some.injEq] at hstep
      rw [← hstep.2]
      exact ⟨h.left, rfl, h.idle, h.unchecked⟩
  | pause p =>
      rw [step, Option.ite_none_right_eq_some, Option.some.injEq] at hstep
      rw [← hstep.2, pause]
      split <;> split <;> exact ⟨h.left, h.still, h.idle, h.unchecked⟩
  | confirm =>
      rw [step, Option.ite_none_right_eq_some, Option.some.injEq] at hstep
      rw [← hstep.2, confirm, if_pos h.unchecked]
      exact h
  | switchTo method =>
      rw [step, Option.ite_none_right_eq_some, Option.some.injEq] at hstep
      rw [← hstep.2]
      exact ⟨h.left, h.still, h.idle, h.unchecked⟩

theorem between_run {s t : Intervalometer} (h : Run step (fun _ a => a ≠ .begin) s t)
    (hs : s.Between) : t.Between := by
  induction h with
  | refl => exact hs
  | tail a _ hne hstep ih => exact between_step a ih hne hstep

theorem load_checking {s : Intervalometer} (h : s.Checking) : s.load.Checking := by
  refine ⟨h.1, h.2.1, ?_⟩
  have hpre : s.load.preChecked = if s.asksTarget then 2 else 3 := rfl
  rw [hpre]
  split <;> omega

/-- The precheck of a new run returns to the main loop. -/
theorem startup_first (f : Found) {s : Intervalometer} (hrun : s.running = true)
    (henter : s.enter = false) (hpre : s.preChecked = 0) :
    ∃ t, s.startup f = .back t ∧ t.Checking := by
  have hone : s.prepare.preChecked = 1 := by rw [prepare, if_pos hpre]
  have hcheck : s.prepare.Checking := ⟨rfl, hrun, by rw [hone]; exact Nat.one_pos⟩
  rw [startup, if_pos (by rw [toStart, hrun, henter]; rfl)]
  by_cases halert : f.alert = true
  · exact ⟨s.prepare, if_pos halert, hcheck⟩
  · refine ⟨_, (if_neg halert).trans (if_pos hone), ?_⟩
    have hload := load_checking hcheck
    exact ⟨hload.1, hload.2.1, hload.2.2⟩

/-- The first call of `task` after a `begin` between runs is a precheck. -/
theorem begin_checking (f : Found) {s : Intervalometer} (h : s.Between) :
    (s.begin.task f).Checking := by
  have hw : s.begin.arrive = .on { s.begin with world := s.world.senseCable } := rfl
  rcases startup_first f (s := { s.begin with world := s.world.senseCable }) rfl h.left
    h.unchecked with ⟨t, ht, hcheck⟩
  rw [task, stages, List.cons_append, List.cons_append, List.cons_append, List.nil_append,
    chain_on hw, chain_back ht]
  exact hcheck

/-- The pause is where the exposure ramp has it. -/
structure Tracks (s : Intervalometer) (t : Timer) : Prop where
  paused : s.paused = t.paused
  pausing : s.pausing = t.pausing
  hasND : s.hasND = t.hasND
  showND : s.showND = t.showND

theorem resume_tracks {s : Intervalometer} {t : Timer} (h : s.Tracks t) :
    ∃ u, s.resume = .on u ∧ u.Tracks t.resume ∧ u.runState = s.runState := by
  unfold resume
  split
  · rename_i hon
    rw [Bool.and_eq_true, decide_eq_true_eq, h.pausing, h.paused] at hon
    split
    · rename_i hlong
      rw [h.pausing] at hlong
      split
      · rename_i hshow
        have hno : ¬ t.Resumes := fun hres => by
          have := h.showND.symm.trans hshow
          exact absurd (hres.2.2.symm.trans this) Bool.noConfusion
        have ht : t.resume = { t with hasND := false, showND := false } := by
          rw [Timer.resume, if_neg hno, if_pos hon, if_pos hlong]
        rw [ht]
        exact ⟨_, rfl, ⟨h.paused, h.pausing, rfl, rfl⟩, rfl⟩
      · rename_i hshow
        rw [Bool.not_eq_true, h.showND] at hshow
        have ht : t.resume = t.accept := by rw [Timer.resume, if_pos ⟨hon.2, hlong, hshow⟩]
        rw [ht]
        exact ⟨_, rfl, ⟨rfl, rfl, h.hasND, h.showND⟩, rfl⟩
    · rename_i hlong
      rw [h.pausing] at hlong
      have ht : t.resume = { t with apertureReady := false, pausing := t.pausing + 1 } := by
        rw [Timer.resume, if_neg (fun hres => hlong hres.2.1), if_pos hon, if_neg hlong]
      rw [ht]
      exact ⟨_, rfl, ⟨h.paused, congrArg (· + 1) h.pausing, h.hasND, h.showND⟩, rfl⟩
  · rename_i hoff
    rw [Bool.and_eq_true, decide_eq_true_eq, h.pausing, h.paused] at hoff
    have ht : t.resume = t := by
      rw [Timer.resume, if_neg, if_neg hoff]
      exact fun hres => hoff ⟨Nat.lt_trans (by decide) hres.2.1, hres.1⟩
    rw [ht]
    exact ⟨s, rfl, h, rfl⟩

theorem tracks_whilePaused {s : Intervalometer} {t : Timer} (h : s.Tracks t) (v : View) :
    s.Tracks (t.whilePaused v) := by
  unfold Timer.whilePaused
  split
  · exact ⟨h.paused, h.pausing, h.hasND, h.showND⟩
  · split
    · exact ⟨h.paused, h.pausing, h.hasND, h.showND⟩
    · split <;> exact ⟨h.paused, h.pausing, h.hasND, h.showND⟩

theorem startPause_tracks {s : Intervalometer} {t : Timer} (h : s.Tracks t) {v : View}
    (hbulb : v.inBulb = decide (s.runState = .bulb)) :
    s.startPause.state.Tracks (t.startPause v) := by
  unfold startPause
  split
  · rename_i hon
    rw [Bool.and_eq_true, decide_eq_true_eq, decide_eq_true_eq, h.pausing] at hon
    rw [Timer.startPause, if_pos ⟨hon.1, hbulb.trans (decide_eq_false hon.2)⟩]
    exact ⟨rfl, rfl, h.hasND, h.showND⟩
  · rename_i hoff
    rw [Bool.and_eq_true, decide_eq_true_eq, decide_eq_true_eq, h.pausing] at hoff
    rw [Timer.startPause, if_neg]
    · exact h
    · intro hon
      exact hoff ⟨hon.1, of_decide_eq_false (hbulb.symm.trans hon.2)⟩

/-- The pause of `task` is the one the exposure ramp is accounted with. -/
theorem pause_tracks {s : Intervalometer} {t : Timer} (h : s.Tracks t) (f : Found) {v : View}
    (hbulb : v.inBulb = decide (s.runState = .bulb)) (hdue : v.ndDue = f.ndDue) :
    (chain [resume, whilePaused f, startPause] s).Tracks (t.task v) := by
  rcases resume_tracks h with ⟨u, hu, htrack, hstate⟩
  rw [chain_on hu, Timer.task]
  by_cases hpaused : u.paused = true
  · have hback : u.whilePaused f = .back u := by rw [whilePaused, if_pos hpaused]
    rw [chain_back hback, if_pos (htrack.paused.symm.trans hpaused)]
    exact tracks_whilePaused htrack v
  · -- The run is not paused, and a filter may have to be taken off.
    have hnot : ¬ t.resume.paused = true := fun hyes => hpaused (htrack.paused.trans hyes)
    rw [if_neg hnot]
    have hnd : ∃ x, u.whilePaused f = .on x ∧ x.runState = u.runState ∧
        x.Tracks (if t.resume.hasND && v.ndDue then { t.resume with showND := true }
          else t.resume) := by
      rw [whilePaused, if_neg hpaused, hdue, ← htrack.hasND]
      split
      · exact ⟨_, rfl, rfl, ⟨htrack.paused, htrack.pausing, htrack.hasND, rfl⟩⟩
      · exact ⟨u, rfl, rfl, htrack⟩
    rcases hnd with ⟨x, hx, hsame, hxtrack⟩
    have hlast := startPause_tracks hxtrack (v := v) (by rw [hbulb, hsame, hstate])
    rw [chain_on hx, chain]
    cases hstart : x.startPause with
    | on y =>
        rw [hstart] at hlast
        exact hlast
    | back y =>
        rw [hstart] at hlast
        exact hlast

/-- A stop ends the run exactly when no pause holds it. -/
theorem stop_ends_iff (s t : Intervalometer) (f : Found) (hrun : s.running = false)
    (henter : s.enter = true) (hstep : s.step (.task f) = some t) :
    t.Over ∧ t.Restarts ↔ s.GoesOn := by
  rw [step, Option.ite_none_right_eq_some, Option.some.injEq] at hstep
  rcases hstep with ⟨hrest, rfl⟩
  have hidle : s.place = none := by
    rw [atRest, Bool.and_eq_true, Option.isNone_iff_eq_none] at hrest
    exact hrest.1
  constructor
  · rintro ⟨hover, _⟩
    by_contra hheld
    have hstays := task_held f hrun henter hheld
    rw [hover.left] at hstays
    exact Bool.noConfusion hstays
  · intro hgo
    rcases task_over f hrun henter hgo with ⟨hover, hplace⟩
    refine ⟨hover, fun u v w g huntil hbegin htask => ?_⟩
    have hbetween : u.Between := between_run huntil
      ⟨hover.left, hover.still, hplace.trans hidle, hover.unchecked⟩
    rw [step, Option.ite_none_right_eq_some, Option.some.injEq] at hbegin
    rw [step, Option.ite_none_right_eq_some, Option.some.injEq] at htask
    rw [← htask.2, ← hbegin.2]
    exact begin_checking g hbetween

theorem stop_ends_entered :
    let s := { idle (World.idle .factory 20 .none) .plain with enter := true }
    (s.task .plain).Over ∧ (s.task .plain).Restarts := by
  intro s
  have hrest : s.atRest = true := rfl
  have hstep : s.step (.task .plain) = some (s.task .plain) := by rw [step, if_pos hrest]
  exact (stop_ends_iff s (s.task .plain) .plain rfl rfl hstep).mpr (Or.inl rfl)

/-- A run that is paused before it is stopped. -/
def pausedThenStopped : List Order :=
  [.begin, .task .plain, .goOn .plain, .pause true, .task .plain, .stop]

/-- A run that is stopped while it is paused stays entered. -/
theorem stop_resumed :
    ¬ ∀ (w : World) (p : Program) (s t : Intervalometer) (f : Found),
      Run step (fun _ _ => True) (idle w p) s → s.running = false → s.enter = true →
        s.step (.task f) = some t → t.Over ∧ t.Restarts := by
  intro hclaim
  have hrun : (steps step (idle (World.idle .factory 20 .none) .plain) pausedThenStopped).map
      (fun s => (s.running, s.enter, s.paused, s.pausing, s.atRest)) =
        some (false, true, true, 0, true) := rfl
  rw [Option.map_eq_some_iff] at hrun
  rcases hrun with ⟨s, hsteps, hs⟩
  simp only [Prod.mk.injEq] at hs
  rcases hs with ⟨hrunning, henter, hpaused, hpausing, hrest⟩
  have hover := hclaim _ _ s (s.task .plain) .plain (run_of_steps _ hsteps) hrunning henter
    (if_pos hrest)
  -- The pause holds the run, and the call returns before it looks at the stop.
  have hheld : ¬ s.GoesOn := by
    rintro (hno | ⟨hlong, _⟩)
    · exact absurd (hpaused.symm.trans hno) Bool.noConfusion
    · omega
  have hstays := task_held .plain hrunning henter hheld
  rw [hover.1.left] at hstays
  exact Bool.noConfusion hstays

end Intervalometer

end Shutter

end TimelapsePlus
