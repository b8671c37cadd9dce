import TimelapsePlus.Shutter.Stop

/-!
# The Frames Are Counted

A run of a time-lapse counts the photos it has taken, and ends when it has taken
them all. It counts a photo when it goes on from `RUN_NEXT`, and for a plain photo
it does so without a look at how the exposure went: a picture the camera refused
is counted as one taken, and so is a bulb that was never opened, when the error
sends the run through `RUN_ERROR` on to `RUN_NEXT`. The exposures of a bracketed
photo are counted one by one as they end, and a bulb that was refused is tried
again.

Where a run is in the middle of a photo, the exposures counted are those taken, or
one more while a picture is being taken.

## Main definitions

* `Program.Fits`: A time-lapse with a number of photos.
* `Ledger`: The fields of the state that say how a run is doing.
* `Ledger.Going`: A run is under way.
* `Intervalometer.InHand`, `Intervalometer.Waits`: How far it is with its photo.
* `Intervalometer.Sound`: What holds between steps.
* `Intervalometer.Patient`: The external trigger is not too late.
* `Intervalometer.Spares`: No exposure is lost in a step.
* `Intervalometer.Counted`: What the count should be.

## Theorems

* `chain_next`, `chain_bulb`, ...: A call of `task` from one of its blocks on.
* `sound_step`: Every step keeps the count sound.
* `counted_run`: The count is right in a run that loses no exposure.
* `refused_counted`: A picture that was refused is counted.
-/

namespace TimelapsePlus

namespace Shutter

open Word

/-- A time-lapse, or a bracketed one, with a number of photos. -/
structure Program.Fits (p : Program) : Prop where
  timelapse : p.timelapse = true
  plain : p.ramp = false
  some_photos : 1 ≤ p.photos
  photos_lt : p.photos < 65536
  bracket : p.hdr = true → 1 ≤ p.exps ∧ p.exps ≤ 255
  gap_pos : p.external = true → 0 < p.gap

theorem Program.Fits.size_pos {p : Program} (h : p.Fits) : 1 ≤ p.size := by
  unfold Program.size
  split
  · rename_i hhdr
    exact (h.bracket hhdr).1
  · exact Nat.le_refl 1

theorem Program.Fits.size_le {p : Program} (h : p.Fits) : p.size ≤ 255 := by
  unfold Program.size
  split
  · rename_i hhdr
    exact (h.bracket hhdr).2
  · decide

/-- The ramp's method is nothing to a time-lapse. -/
theorem Program.Fits.method {p : Program} (h : p.Fits) (m : BrampMethod) (n : NightMode) :
    { p with brampMethod := m, nightMode := n }.Fits :=
  ⟨h.timelapse, h.plain, h.some_photos, h.photos_lt, h.bracket, h.gap_pos⟩

theorem Program.size_single {p : Program} (h : p.hdr = false) : p.size = 1 := by
  rw [Program.size, h]
  rfl

theorem Program.size_bracket {p : Program} (h : p.hdr = true) : p.size = p.exps := by
  rw [Program.size, if_pos h]

/-- The exposures counted are those that were taken, and a plain photo has been
    taken. -/
structure Exposed (p : Program) (exps taken : Nat) : Prop where
  same : exps = taken
  most : exps ≤ p.size
  single : p.hdr = false → exps = 1

/-- The exposures counted are those that were taken, and more are to come. -/
structure Exposing (p : Program) (exps taken : Nat) : Prop where
  same : exps = taken
  more : exps < p.size

/-- No exposure of the next photo has been taken. -/
structure Fresh (exps taken : Nat) : Prop where
  uncounted : exps = 0
  untaken : taken = 0

theorem Exposing.exposed {p : Program} {exps taken : Nat} (h : Exposing p exps taken)
    (hhdr : p.hdr = true) : Exposed p exps taken :=
  ⟨h.same, Nat.le_of_lt h.more, fun hno => absurd (hhdr.symm.trans hno) Bool.noConfusion⟩

theorem Fresh.exposing {p : Program} {exps taken : Nat} (h : Fresh exps taken) (hfits : p.Fits) :
    Exposing p exps taken :=
  ⟨h.uncounted.trans h.untaken.symm, by rw [h.uncounted]; exact hfits.size_pos⟩

/-- One exposure more. -/
theorem Exposing.next {p : Program} {exps taken : Nat} (h : Exposing p exps taken)
    (hfits : p.Fits) : u8 (exps + 1) = taken + 1 ∧ Exposed p (taken + 1) (taken + 1) := by
  have hle := hfits.size_le
  have hmore := h.more
  rw [h.same] at hmore
  refine ⟨?_, rfl, hmore, fun hno => ?_⟩
  · rw [h.same, u8, Nat.mod_eq_of_lt (by omega)]
  · rw [Program.size_single hno] at hmore
    omega

/-- The books of a run. -/
structure Ledger where
  program : Program
  enter : Bool
  preChecked : Nat
  photos : Nat
  infinitePhotos : Bool
  photosTaken : Nat
  sets : Nat
  started : Bool
  finished : Bool

/-- A run is under way, and short of its photos. -/
structure Ledger.Going (l : Ledger) : Prop where
  fits : l.program.Fits
  enter : l.enter = true
  checked : l.preChecked = 0
  started : l.started = true
  unfinished : l.finished = false
  counted : l.photosTaken = l.sets
  photos : l.photos = l.sets
  short : l.sets < l.program.photos
  finite : l.infinitePhotos = false

/-- No run is under way: none is entered, or one is in its precheck. -/
structure Ledger.Resting (l : Ledger) : Prop where
  fits : l.program.Fits
  unlaunched : l.enter = false ∨ 0 < l.preChecked
  counted : l.started = true →
    l.photosTaken = l.sets ∧ (l.finished = true ↔ l.sets = l.program.photos)

/-- A run is about to end, by itself if it has not been stopped. -/
structure Ledger.Ending (l : Ledger) (running : Bool) : Prop where
  fits : l.program.Fits
  counted : l.started = true → l.photosTaken = l.sets ∧
    (l.finished = true ∨ running = true ↔ l.sets = l.program.photos)

theorem Clock.totalMs_lt (c : Clock) : c.totalMs < 4294967296 := u32_lt _

namespace World

theorem callIn_totalMs (w : World) (time : Nat) (fn : Callback) :
    (w.callIn time fn).clock.totalMs = w.clock.totalMs := by
  unfold callIn
  split
  · rfl
  · split <;> rfl

theorem shutterOff_totalMs (w : World) : w.shutterOff.clock.totalMs = w.clock.totalMs := by
  unfold shutterOff
  split
  · rfl
  · exact callIn_totalMs w.shutterClose 20 .checkCable

theorem shutterHalf_totalMs (w : World) : w.shutterHalf.clock.totalMs = w.clock.totalMs := by
  unfold shutterHalf
  split
  · rfl
  · split
    · exact (callIn_totalMs w.shutterOff 30 .shutterHalfDelayed).trans w.shutterOff_totalMs
    · exact w.shutterOff_totalMs

theorem callIn_lastShutterError (w : World) (time : Nat) (fn : Callback) :
    (w.callIn time fn).lastShutterError = w.lastShutterError := by
  unfold callIn
  split
  · rfl
  · split <;> rfl

/-- A picture the camera does not refuse is not an error. -/
theorem capture_accepted (w : World) {io : Io} (h : io.captureError = false) :
    (w.capture io).1.lastShutterError = false := by
  have hpressed : ∀ v : World, v.lastShutterError = false →
      (v.shutterFull.callIn w.conf.captureTime .shutterOff).lastShutterError = false := by
    intro v hv
    rw [callIn_lastShutterError]
    unfold shutterFull
    split <;> exact hv
  have husb : ∀ v : World, v.lastShutterError = false →
      (v.usbCapture io).lastShutterError = false := by
    intro v hv
    unfold usbCapture
    split
    · exact h
    · exact hv
  unfold capture
  simp only
  split
  · split
    · split <;> exact hpressed _ rfl
    · split
      · exact husb _ (hpressed _ rfl)
      · exact hpressed _ rfl
  · rfl

end World

namespace Intervalometer

/-- The books of a state. -/
def ledger (s : Intervalometer) : Ledger where
  program := s.program
  enter := s.enter
  preChecked := s.preChecked
  photos := s.photos
  infinitePhotos := s.infinitePhotos
  photosTaken := s.photosTaken
  sets := s.sets
  started := s.started
  finished := s.finished

/-- How far a run is with its photo, when no call waits. -/
def InHand (s : Intervalometer) : Prop :=
  match s.runState with
  | .delay => Fresh s.exps s.taken ∧ s.photos = 0
  | .gap => Fresh s.exps s.taken
  | .externalTrigger => Fresh s.exps s.taken
  | .externalTriggerRelease => Fresh s.exps s.taken
  | .photo => Exposing s.program s.exps s.taken
  | .bulb => Exposing s.program s.exps s.taken ∧ (s.oldState = some .bulb → s.refused = false)
  | .next => Exposed s.program s.exps s.taken
  | .error => Exposed s.program s.exps s.taken
  | .ended => False

/-- A picture is being taken. -/
def Taking (s : Intervalometer) : Shot → Prop
  | .photo => s.runState = .photo ∧ s.exps = s.taken + 1 ∧ Exposed s.program s.exps s.exps
  | .manual => False
  | .basic =>
      s.runState = .bulb ∧ s.oldState = some .bulb ∧ Exposing s.program s.exps s.taken

/-- A bulb is being started. -/
def Opening (s : Intervalometer) : Prop :=
  s.runState = .bulb ∧ s.oldState = some .bulb ∧ Exposing s.program s.exps s.taken

/-- How far it is where a call waits. -/
def Waits (s : Intervalometer) : Place → Prop
  | .loading => False
  | .waking => s.runState = .delay ∧ Fresh s.exps s.taken ∧ s.photos = 0
  | .captureOff c => s.Taking c
  | .captureHalf c => s.Taking c
  | .shutterNow c => s.Taking c ∧ s.refused = false
  | .captureFinish c => s.Taking c ∧ s.refused = false
  | .manual => False
  | .prepareOff => s.Opening
  | .prepareHalf => s.Opening
  | .starting => s.Opening
  | .finishing => s.runState = .bulb ∧ Exposed s.program s.exps s.taken
  | .settling => s.runState = .bulb ∧ Exposed s.program s.exps s.taken
  | .focusing => s.runState = .gap ∧ Fresh s.exps s.taken
  | .nudging => s.runState = .error ∧ Exposed s.program s.exps s.taken
  | .disabling => s.runState = .error ∧ Exposed s.program s.exps s.taken
  | .enabling => s.runState = .error ∧ Exposed s.program s.exps s.taken

/-- What holds between the blocks of a call. -/
def Mid (s : Intervalometer) : Prop :=
  s.place = none ∧ (s.running = true ∧ s.ledger.Going ∧ s.InHand ∨
    s.runState = .ended ∧ s.ledger.Ending s.running)

/-- What holds between steps: no run is under way, or one is and no call waits, or
    a call waits at a place. -/
def Sound (s : Intervalometer) : Prop :=
  s.ledger.Resting ∧
    (s.place = none ∨ s.place = some .loading ∧ s.running = true ∧ s.enter = true) ∨
    s.ledger.Going ∧ (s.place = none ∧ s.InHand ∨
      s.running = true ∧ ∃ p, s.place = some p ∧ s.Waits p)

/-- A wait for the external trigger is not cut short in this call. -/
structure Patient (s : Intervalometer) (f : Found) : Prop where
  interval : s.enter = true → s.program.external = true → 0 < s.interval
  quiet : (s.runState = .externalTrigger ∧ f.trigger = false ∨
    (s.runState = .externalTrigger ∨ s.runState = .externalTriggerRelease) ∧
      f.triggerHeld = true) → s.silent = false

/-- What holds between the blocks of a call that loses no exposure. -/
structure Under (f : Found) (s : Intervalometer) : Prop where
  mid : s.Mid
  patient : s.Patient f

theorem Patient.of_ne {s : Intervalometer} {f : Found}
    (hinterval : s.enter = true → s.program.external = true → 0 < s.interval)
    (htrigger : s.runState ≠ .externalTrigger) (hrelease : s.runState ≠ .externalTriggerRelease) :
    s.Patient f := by
  refine ⟨hinterval, ?_⟩
  rintro (⟨hyes, _⟩ | ⟨hyes | hyes, _⟩)
  · exact absurd hyes htrigger
  · exact absurd hyes htrigger
  · exact absurd hyes hrelease

/-- A run that is not about to end. -/
theorem mid_going {s : Intervalometer} (h : s.Mid) (hne : s.runState ≠ .ended) :
    s.place = none ∧ s.running = true ∧ s.ledger.Going ∧ s.InHand := by
  rcases h with ⟨hplace, ⟨hrun, hgoing, hhand⟩ | ⟨hended, _⟩⟩
  · exact ⟨hplace, hrun, hgoing, hhand⟩
  · exact absurd hended hne

theorem mid_sound {s : Intervalometer} (h : s.Mid) (hne : s.runState ≠ .ended) : s.Sound := by
  rcases mid_going h hne with ⟨hplace, _, hgoing, hhand⟩
  exact Or.inr ⟨hgoing, Or.inl ⟨hplace, hhand⟩⟩

/-- A call waits. -/
theorem waits_sound {s : Intervalometer} (p : Place) (ms : Nat) (Q : Intervalometer → Prop)
    (hrun : s.running = true) (hgoing : s.ledger.Going) (h : s.Waits p) :
    (s.rest p ms).Ends Q Sound :=
  Or.inr ⟨hgoing, Or.inr ⟨hrun, p, rfl, by cases p <;> exact h⟩⟩

/-- `RUN_END`. -/
theorem finish_sound (f : Found) {s : Intervalometer} (h : s.Mid) :
    (s.finish f).Ends Sound Sound := by
  by_cases hended : s.runState = .ended
  · rcases h with ⟨hplace, ⟨_, _, hhand⟩ | ⟨_, hending⟩⟩
    · rw [InHand, hended] at hhand
      exact absurd hhand id
    · rw [finish, if_pos hended]
      refine Or.inl ⟨⟨hending.fits.method s.switchBack s.program.nightMode, Or.inl rfl,
        fun hstarted => ?_⟩, Or.inl hplace⟩
      rcases hending.counted hstarted with ⟨hcounted, hends⟩
      refine ⟨hcounted, ?_⟩
      rw [← Bool.or_eq_true] at hends
      exact hends
  · rw [finish_of_ne f hended]
    exact mid_sound h hended

/-- `RUN_ERROR`. -/
theorem error_mid (f : Found) {s : Intervalometer} (h : s.Mid) :
    (s.error f).Ends Mid Sound := by
  by_cases herror : s.runState = .error
  · rcases mid_going h (by rw [herror]; decide) with ⟨hplace, hrun, hgoing, hhand⟩
    have hexposed : Exposed s.program s.exps s.taken := by
      rw [InHand, herror] at hhand
      exact hhand
    rw [error, if_pos herror]
    split
    · exact waits_sound .nudging 100 _ hrun hgoing ⟨herror, hexposed⟩
    · unfold errorCounted
      split
      · exact Or.inr ⟨hgoing, Or.inl ⟨hplace, hexposed⟩⟩
      · refine Or.inr ⟨hgoing, Or.inl ⟨hplace, ?_⟩⟩
        rw [InHand, herror]
        exact hexposed
  · rw [error_of_ne f herror]
    exact h

theorem chain_error (f : Found) {s : Intervalometer} (h : s.Mid) :
    (chain [error f, finish f] s).Sound :=
  chain_then Mid Sound (error_mid f h) fun _ ht =>
    chain_then Sound Sound (finish_sound f ht) fun _ hu => hu

/-- `RUN_EXTERNAL_TRIGGER_RELEASE`. -/
theorem release_mid (f : Found) {s : Intervalometer} (h : s.Under f) :
    (s.externalTriggerRelease f).Ends Mid Sound := by
  by_cases hstate : s.runState = .externalTriggerRelease
  · rcases mid_going h.mid (by rw [hstate]; decide) with ⟨hplace, hrun, hgoing, hhand⟩
    have hfresh : Fresh s.exps s.taken := by
      rw [InHand, hstate] at hhand
      exact hhand
    rw [externalTriggerRelease, if_pos hstate]
    split
    · rename_i hheld
      rw [if_neg]
      · exact h.mid
      · rw [h.patient.quiet (Or.inr ⟨Or.inr hstate, hheld⟩)]
        exact Bool.noConfusion
    · exact ⟨hplace, Or.inl ⟨hrun, hgoing, hfresh.exposing hgoing.fits⟩⟩
  · rw [externalTriggerRelease_of_ne f hstate]
    exact h.mid

theorem chain_release (f : Found) {s : Intervalometer} (h : s.Under f) :
    (chain [externalTriggerRelease f, error f, finish f] s).Sound :=
  chain_then Mid Sound (release_mid f h) fun _ ht => chain_error f ht

/-- `RUN_EXTERNAL_TRIGGER`. -/
theorem trigger_under (f : Found) {s : Intervalometer} (h : s.Under f) :
    (s.externalTrigger f).Ends (Under f) Sound := by
  by_cases hstate : s.runState = .externalTrigger
  · rcases mid_going h.mid (by rw [hstate]; decide) with ⟨hplace, hrun, hgoing, hhand⟩
    have hfresh : Fresh s.exps s.taken := by
      rw [InHand, hstate] at hhand
      exact hhand
    rw [externalTrigger, if_pos hstate]
    split
    · refine ⟨⟨hplace, Or.inl ⟨hrun, hgoing, hfresh⟩⟩, h.patient.interval, ?_⟩
      rintro (⟨hno, _⟩ | ⟨_, hheld⟩)
      · exact absurd hno (by simp only [reduceCtorEq, not_false_eq_true])
      · exact h.patient.quiet (Or.inr ⟨Or.inl hstate, hheld⟩)
    · rename_i htrigger
      rw [if_neg]
      · exact h
      · rw [h.patient.quiet (Or.inl ⟨hstate, Bool.eq_false_of_not_eq_true htrigger⟩)]
        exact Bool.noConfusion
  · rw [externalTrigger_of_ne f hstate]
    exact h

theorem chain_trigger (f : Found) {s : Intervalometer} (h : s.Under f) :
    (chain [externalTrigger f, externalTriggerRelease f, error f, finish f] s).Sound :=
  chain_then (Under f) Sound (trigger_under f h) fun _ ht => chain_release f ht

/-- The wait for an external trigger does not end as it begins. -/
theorem gapWait_silent {s : Intervalometer} (hinterval : 0 < s.interval) :
    s.gapWait.silent = false := by
  unfold gapWait
  split
  · have hzero : sub32 s.world.clock.totalMs s.world.clock.totalMs = 0 := by
      rw [sub32_of_le s.world.clock.totalMs_lt (Nat.le_refl _), Nat.sub_self]
    have hlate : ¬ s.interval ≤ sub32 s.world.clock.totalMs s.world.clock.totalMs / 1000 := by
      rw [hzero]
      omega
    exact Bool.and_eq_false_imp.mpr fun _ => decide_eq_false hlate
  · rename_i hover
    have hshort : ¬ s.interval ≤ sub32 s.world.clock.totalMs s.lastPhotoMs / 100 :=
      fun hyes => hover (decide_eq_true hyes)
    have hlate : ¬ s.interval ≤ sub32 s.world.clock.totalMs s.lastPhotoMs / 1000 := by omega
    split
    · rw [silent, World.shutterHalf_totalMs]
      exact Bool.and_eq_false_imp.mpr fun _ => decide_eq_false hlate
    · exact Bool.and_eq_false_imp.mpr fun _ => decide_eq_false hlate

theorem gapWait_same (s : Intervalometer) :
    s.gapWait.interval = s.interval ∧ s.gapWait.program = s.program := by
  unfold gapWait
  split
  · exact ⟨rfl, rfl⟩
  · split <;> exact ⟨rfl, rfl⟩

/-- What the wait for the next picture leaves of a run. -/
theorem gapWait_mid {s : Intervalometer} (hstate : s.runState = .gap) (h : s.Mid) :
    s.gapWait.Mid ∧ (s.gapWait.runState = .photo ∨ s.gapWait.runState = .gap) ∧
      { s.gapWait with runState := .externalTrigger }.Mid := by
  rcases mid_going h (by rw [hstate]; decide) with ⟨hplace, hrun, hgoing, hhand⟩
  have hfresh : Fresh s.exps s.taken := by
    rw [InHand, hstate] at hhand
    exact hhand
  unfold gapWait
  split
  · exact ⟨⟨hplace, Or.inl ⟨hrun, hgoing, hfresh.exposing hgoing.fits⟩⟩, Or.inl rfl,
      ⟨hplace, Or.inl ⟨hrun, hgoing, hfresh⟩⟩⟩
  · split
    · refine ⟨⟨hplace, Or.inl ⟨hrun, hgoing, ?_⟩⟩, Or.inr hstate,
        ⟨hplace, Or.inl ⟨hrun, hgoing, hfresh⟩⟩⟩
      rw [InHand, hstate]
      exact hfresh
    · exact ⟨h, Or.inr hstate, ⟨hplace, Or.inl ⟨hrun, hgoing, hfresh⟩⟩⟩

/-- `RUN_GAP`, when the focus is settled. -/
theorem gapSettled_under (f : Found) {s : Intervalometer} (h : s.Under f) :
    (s.gapSettled f).Ends (Under f) Sound := by
  by_cases hstate : s.runState = .gap
  · rcases gapWait_mid hstate h.mid with ⟨hmid, hnext, hexternal⟩
    rcases s.gapWait_same with ⟨hinterval, hprogram⟩
    rcases mid_going h.mid (by rw [hstate]; decide) with ⟨_, _, hgoing, _⟩
    have hpos : s.program.external = true → 0 < s.gapWait.interval := by
      rw [hinterval]
      exact h.patient.interval hgoing.enter
    rw [gapSettled, if_pos hstate]
    split
    · exact h
    · split
      · rename_i houtside
        refine ⟨hexternal, fun _ _ => hpos houtside, fun _ => ?_⟩
        exact gapWait_silent (h.patient.interval hgoing.enter houtside)
      · refine ⟨hmid, .of_ne (fun _ hout => hpos (by rwa [hprogram] at hout)) ?_ ?_⟩
        · rcases hnext with hphoto | hgap
          · rw [hphoto]; decide
          · rw [hgap]; decide
        · rcases hnext with hphoto | hgap
          · rw [hphoto]; decide
          · rw [hgap]; decide
  · rw [gapSettled_of_ne f hstate]
    exact h

theorem chain_gapSettled (f : Found) {s : Intervalometer} (h : s.Under f) :
    (chain [gapSettled f, externalTrigger f, externalTriggerRelease f, error f, finish f]
      s).Sound :=
  chain_then (Under f) Sound (gapSettled_under f h) fun _ ht => chain_trigger f ht

/-- `RUN_GAP`, up to the focus. -/
theorem gap_under (f : Found) {s : Intervalometer} (h : s.Under f) :
    (s.gap f).Ends (Under f) Sound := by
  by_cases hstate : s.runState = .gap
  · rcases mid_going h.mid (by rw [hstate]; decide) with ⟨hplace, hrun, hgoing, hhand⟩
    have hfresh : Fresh s.exps s.taken := by
      rw [InHand, hstate] at hhand
      exact hhand
    -- The block changes the ports and nothing the count rests on.
    have hsame : ∀ w, ({ s with oldState := some .gap, world := w } : Intervalometer).InHand := by
      intro w
      rw [InHand, hstate]
      exact hfresh
    have hpatient : ∀ w,
        ({ s with oldState := some .gap, world := w } : Intervalometer).Patient f := by
      intro w
      refine .of_ne h.patient.interval ?_ ?_
      · rw [hstate]; decide
      · rw [hstate]; decide
    rw [gap, if_pos hstate]
    by_cases hold : s.oldState = some .gap
    · simp only [if_pos hold]
      cases f.focus with
      | settled => exact h
      | waits => exact mid_sound h.mid (by rw [hstate]; decide)
      | moves => exact waits_sound .focusing 200 _ hrun hgoing ⟨hstate, hfresh⟩
    · simp only [if_neg hold]
      cases f.focus with
      | settled => exact ⟨⟨hplace, Or.inl ⟨hrun, hgoing, hsame _⟩⟩, hpatient _⟩
      | waits => exact Or.inr ⟨hgoing, Or.inl ⟨hplace, hsame _⟩⟩
      | moves => exact waits_sound .focusing 200 _ hrun hgoing ⟨hstate, hfresh⟩
  · rw [gap_of_ne f hstate]
    exact h

theorem chain_gap (f : Found) {s : Intervalometer} (h : s.Under f) :
    (chain [gap f, gapSettled f, externalTrigger f, externalTriggerRelease f, error f, finish f]
      s).Sound :=
  chain_then (Under f) Sound (gap_under f h) fun _ ht => chain_gapSettled f ht

theorem complete_iff {s : Intervalometer} (h : s.program.Fits) :
    s.complete = true ↔ s.program.photos ≤ s.photos := by
  rw [complete, if_neg (by rw [h.plain]; exact Bool.noConfusion), h.timelapse, Bool.not_true,
    Bool.false_and, Bool.or_false, decide_eq_true_eq]

/-- A run that has its photos ends. -/
theorem conclude_end {s : Intervalometer} (hfits : s.program.Fits)
    (hfinite : s.infinitePhotos = false) (h : s.program.photos ≤ s.photos) :
    s.conclude = { s with runState := .ended } := by
  rw [conclude, if_neg (by rw [hfinite]; exact Bool.noConfusion),
    if_pos ((complete_iff hfits).mpr h)]

/-- A run that is short of them goes on. -/
theorem conclude_on {s : Intervalometer} (hfits : s.program.Fits)
    (hfinite : s.infinitePhotos = false) (h : s.photos < s.program.photos) : s.conclude = s := by
  rw [conclude, if_neg (by rw [hfinite]; exact Bool.noConfusion), if_neg]
  exact fun hyes => absurd ((complete_iff hfits).mp hyes) (Nat.not_le_of_lt h)

/-- A photo that is done has been taken. -/
theorem photoDone_taken {s : Intervalometer} (hdone : s.photoDone = true)
    (h : Exposed s.program s.exps s.taken) : s.program.size ≤ s.taken := by
  rw [← h.same]
  by_cases hhdr : s.program.hdr = true
  · rw [photoDone, hhdr, Bool.not_true, Bool.false_or, decide_eq_true_eq] at hdone
    rw [Program.size_bracket hhdr]
    exact hdone
  · rw [Bool.not_eq_true] at hhdr
    rw [Program.size_single hhdr, h.single hhdr]

/-- A photo that is not done is a bracket with exposures to come. -/
theorem photoDone_more {s : Intervalometer} (hdone : ¬ s.photoDone = true)
    (h : Exposed s.program s.exps s.taken) : Exposing s.program s.exps s.taken := by
  rw [photoDone, Bool.or_eq_true, Bool.not_eq_true', decide_eq_true_eq] at hdone
  have hhdr : s.program.hdr = true := by
    by_contra hno
    rw [Bool.not_eq_true] at hno
    exact hdone (Or.inl hno)
  refine ⟨h.same, ?_⟩
  rw [Program.size_bracket hhdr]
  exact Nat.lt_of_not_le fun hle => hdone (Or.inr hle)

/-- The photo counted was the last, or the run goes on to the next. -/
theorem countPhoto_mid {s : Intervalometer} (hplace : s.place = none) (hrun : s.running = true)
    (hgoing : s.ledger.Going) (hwhole : s.program.size ≤ s.taken) :
    s.countPhoto.conclude.report.Mid ∧
      s.countPhoto.conclude.report.runState ≠ .externalTrigger ∧
      s.countPhoto.conclude.report.runState ≠ .externalTriggerRelease := by
  have hfits : s.countPhoto.program.Fits := hgoing.fits
  have hfinite : s.countPhoto.infinitePhotos = false := hgoing.finite
  have hshort : s.sets < s.program.photos := hgoing.short
  have hsets : s.countPhoto.sets = s.sets + 1 := if_pos hwhole
  have hcount : s.countPhoto.photos = s.sets + 1 := by
    have hphotos : s.photos = s.sets := hgoing.photos
    have hlt : s.program.photos < 65536 := hgoing.fits.photos_lt
    exact (u16_of_lt (by omega)).trans (congrArg (· + 1) hphotos)
  by_cases hlast : s.program.photos ≤ s.sets + 1
  · -- The run ends with all its photos.
    rw [conclude_end hfits hfinite (by rw [hcount]; exact hlast)]
    refine ⟨⟨hplace, Or.inr ⟨rfl, hfits, fun _ => ⟨hcount.trans hsets.symm, ?_⟩⟩⟩, ?_, ?_⟩
    · have hall : s.countPhoto.sets = s.program.photos := by omega
      exact ⟨fun _ => hall, fun _ => Or.inr hrun⟩
    · simp only [report, ne_eq, reduceCtorEq, not_false_eq_true]
    · simp only [report, ne_eq, reduceCtorEq, not_false_eq_true]
  · have hless : s.countPhoto.sets < s.program.photos := by omega
    rw [conclude_on hfits hfinite (hcount.trans_lt (Nat.lt_of_not_le hlast))]
    refine ⟨⟨hplace, Or.inl ⟨hrun, ⟨hfits, hgoing.enter, hgoing.checked, hgoing.started,
      hgoing.unfinished, hcount.trans hsets.symm, hcount.trans hsets.symm, hless, hfinite⟩,
      rfl, rfl⟩⟩, ?_, ?_⟩
    · simp only [report, countPhoto, ne_eq, reduceCtorEq, not_false_eq_true]
    · simp only [report, countPhoto, ne_eq, reduceCtorEq, not_false_eq_true]

/-- The books do not change within a photo. -/
theorem report_going {s : Intervalometer} (hgoing : s.ledger.Going) : s.report.ledger.Going :=
  ⟨hgoing.fits, hgoing.enter, hgoing.checked, hgoing.started, hgoing.unfinished, hgoing.photos,
    hgoing.photos, hgoing.short, hgoing.finite⟩

/-- `RUN_NEXT` goes on with the books in order. -/
theorem proceed_mid {s : Intervalometer} (hstate : s.runState = .next) (h : s.Mid) :
    s.proceed.conclude.report.Mid ∧
      s.proceed.conclude.report.runState ≠ .externalTrigger ∧
      s.proceed.conclude.report.runState ≠ .externalTriggerRelease := by
  rcases mid_going h (by rw [hstate]; decide) with ⟨hplace, hrun, hgoing, hhand⟩
  have hexposed : Exposed s.program s.exps s.taken := by
    rw [InHand, hstate] at hhand
    exact hhand
  have hshort : s.photos < s.program.photos := hgoing.photos.trans_lt hgoing.short
  unfold proceed
  by_cases hdone : s.photoDone = true
  · rw [if_pos hdone]
    exact countPhoto_mid hplace hrun hgoing (photoDone_taken hdone hexposed)
  · rw [if_neg hdone]
    by_cases hbusy : s.world.link.busy = true
    · rw [if_pos hbusy, conclude_on hgoing.fits hgoing.finite hshort]
      refine ⟨⟨hplace, Or.inl ⟨hrun, report_going hgoing, ?_⟩⟩, ?_, ?_⟩
      · rw [InHand, report, hstate]
        exact hexposed
      · rw [report, hstate]; decide
      · rw [report, hstate]; decide
    · have hon : s.nextExposure.conclude = s.nextExposure :=
        conclude_on hgoing.fits hgoing.finite hshort
      rw [if_neg hbusy, hon]
      refine ⟨⟨hplace, Or.inl ⟨hrun, report_going hgoing, photoDone_more hdone hexposed⟩⟩, ?_, ?_⟩
      · simp only [report, nextExposure, ne_eq, reduceCtorEq, not_false_eq_true]
      · simp only [report, nextExposure, ne_eq, reduceCtorEq, not_false_eq_true]

theorem conclude_same (s : Intervalometer) :
    s.conclude.interval = s.interval ∧ s.conclude.program.external = s.program.external ∧
      s.conclude.enter = s.enter := by
  unfold conclude
  split
  · split <;> exact ⟨rfl, rfl, rfl⟩
  · split <;> exact ⟨rfl, rfl, rfl⟩

theorem proceed_same (s : Intervalometer) :
    s.proceed.conclude.report.interval = s.interval ∧
      s.proceed.conclude.report.program.external = s.program.external ∧
      s.proceed.conclude.report.enter = s.enter := by
  have hproceed : s.proceed.interval = s.interval ∧ s.proceed.program = s.program ∧
      s.proceed.enter = s.enter := by
    unfold proceed
    split
    · exact ⟨rfl, rfl, rfl⟩
    · split <;> exact ⟨rfl, rfl, rfl⟩
  rcases hproceed with ⟨hinterval, hprogram, henter⟩
  rcases s.proceed.conclude_same with ⟨hinterval', hexternal', henter'⟩
  exact ⟨hinterval'.trans hinterval, hexternal'.trans (by rw [hprogram]), henter'.trans henter⟩

/-- `RUN_NEXT`. -/
theorem next_under (f : Found) {s : Intervalometer} (h : s.Under f) :
    (s.next f).Ends (Under f) Sound := by
  by_cases hstate : s.runState = .next
  · -- Entering the block marks it as entered, and notes the time.
    have hentered : ∃ t : Intervalometer, (s.next f) =
          (if t.usingUSB && t.disabled then .back t
          else if f.ptpConnected && f.ptpError || t.usingUSB && !t.world.link.ready then
            .back { t with runState := .error }
          else .on t.proceed.conclude.report) ∧
        t.Mid ∧ t.runState = .next ∧ t.interval = s.interval ∧ t.program = s.program ∧
          t.enter = s.enter := by
      rcases mid_going h.mid (by rw [hstate]; decide) with ⟨hplace, hrun, hgoing, hhand⟩
      rw [next, if_pos hstate]
      by_cases hold : s.oldState = some .next
      · exact ⟨s, by rw [if_pos hold], h.mid, hstate, rfl, rfl, rfl⟩
      · refine ⟨{ s with oldState := some .next, lastPhotoEndMs := s.world.clock.totalMs },
          by rw [if_neg hold], ⟨hplace, Or.inl ⟨hrun, hgoing, ?_⟩⟩, hstate, rfl, rfl, rfl⟩
        rw [InHand, hstate] at hhand ⊢
        exact hhand
    rcases hentered with ⟨t, hnext, hmid, hstate', hinterval, hprogram, henter⟩
    rcases mid_going hmid (by rw [hstate']; decide) with ⟨hplace, _, hgoing, hhand⟩
    rw [hnext]
    split
    · exact mid_sound hmid (by rw [hstate']; decide)
    · split
      · rw [InHand, hstate'] at hhand
        exact Or.inr ⟨hgoing, Or.inl ⟨hplace, hhand⟩⟩
      · rcases proceed_mid hstate' hmid with ⟨hmid', htrigger, hrelease⟩
        rcases t.proceed_same with ⟨hinterval', hexternal', henter'⟩
        refine ⟨hmid', .of_ne (fun hyes hout => ?_) htrigger hrelease⟩
        rw [hinterval', hinterval]
        exact h.patient.interval (henter.symm.trans (henter'.symm.trans hyes))
          (by rw [hexternal', hprogram] at hout; exact hout)
  · rw [next_of_ne f hstate]
    exact h

theorem chain_next (f : Found) {s : Intervalometer} (h : s.Under f) :
    (chain (fromNext f) s).Sound :=
  chain_then (Under f) Sound (next_under f h) fun _ ht => chain_gap f ht

/-- A picture that is not refused is one exposure. -/
theorem captured_under (c : Shot) (f : Found) {s : Intervalometer} (hplace : s.place = none)
    (hrun : s.running = true) (hgoing : s.ledger.Going) (htaking : s.Taking c)
    (hrefused : s.refused = false)
    (hinterval : s.enter = true → s.program.external = true → 0 < s.interval) :
    (s.captured c).Ends (Under f) Sound := by
  cases c with
  | photo =>
      rcases htaking with ⟨_, hcount, hexposed⟩
      have hnow : Exposed s.program s.exps (if s.refused then s.taken else s.taken + 1) := by
        rw [if_neg (by rw [hrefused]; exact Bool.noConfusion)]
        exact ⟨hcount, hexposed.most, hexposed.single⟩
      unfold captured
      simp only
      split
      · exact ⟨⟨hplace, Or.inl ⟨hrun, hgoing, hnow⟩⟩, .of_ne hinterval
          (by simp only [ne_eq, reduceCtorEq, not_false_eq_true])
          (by simp only [ne_eq, reduceCtorEq, not_false_eq_true])⟩
      · exact ⟨⟨hplace, Or.inl ⟨hrun, hgoing, hnow⟩⟩, .of_ne hinterval
          (by simp only [ne_eq, reduceCtorEq, not_false_eq_true])
          (by simp only [ne_eq, reduceCtorEq, not_false_eq_true])⟩
  | manual => exact absurd htaking id
  | basic =>
      rcases htaking with ⟨hstate, _, hexposing⟩
      refine ⟨⟨hplace, Or.inl ⟨hrun, hgoing, ?_⟩⟩, .of_ne hinterval ?_ ?_⟩
      · rw [InHand, hstate]
        exact ⟨hexposing, fun _ => hrefused⟩
      · rw [hstate]; decide
      · rw [hstate]; decide

/-- Only the state of the run and the exposures matter to a picture being taken. -/
theorem Taking.congr {s t : Intervalometer} {c : Shot} (h : s.Taking c)
    (hstate : t.runState = s.runState) (hold : t.oldState = s.oldState)
    (hexps : t.exps = s.exps) (htaken : t.taken = s.taken) (hprogram : t.program = s.program) :
    t.Taking c := by
  cases c with
  | photo =>
      rw [Taking, hstate, hexps, htaken, hprogram]
      exact h
  | manual => exact h
  | basic =>
      rw [Taking, hstate, hold, hexps, htaken, hprogram]
      exact h

theorem captureEnd_under (c : Shot) (f : Found) {s : Intervalometer} (hplace : s.place = none)
    (hrun : s.running = true) (hgoing : s.ledger.Going) (htaking : s.Taking c)
    (hrefused : s.refused = false)
    (hinterval : s.enter = true → s.program.external = true → 0 < s.interval) :
    (s.captureEnd c).Ends (Under f) Sound := by
  unfold captureEnd
  split
  · exact waits_sound (.captureFinish c) 500 _ hrun hgoing
      ⟨htaking.congr rfl rfl rfl rfl rfl, hrefused⟩
  · exact captured_under c f hplace hrun hgoing htaking hrefused hinterval

/-- A picture is taken that the camera does not refuse. -/
theorem captureCore_under (c : Shot) (f : Found) {s : Intervalometer} (hplace : s.place = none)
    (hrun : s.running = true) (hgoing : s.ledger.Going) (htaking : s.Taking c)
    (haccept : f.io.captureError = false)
    (hinterval : s.enter = true → s.program.external = true → 0 < s.interval) :
    (s.captureCore c f).Ends (Under f) Sound := by
  have hrefused := s.world.capture_accepted haccept
  unfold captureCore
  simp only
  split
  · exact waits_sound (.shutterNow c) _ _ hrun hgoing
      ⟨htaking.congr rfl rfl rfl rfl rfl, hrefused⟩
  · exact captureEnd_under c f hplace hrun hgoing (htaking.congr rfl rfl rfl rfl rfl) hrefused
      hinterval

theorem capture_under (c : Shot) (f : Found) {s : Intervalometer} (hplace : s.place = none)
    (hrun : s.running = true) (hgoing : s.ledger.Going) (htaking : s.Taking c)
    (haccept : f.io.captureError = false)
    (hinterval : s.enter = true → s.program.external = true → 0 < s.interval) :
    (s.capture c f).Ends (Under f) Sound := by
  unfold capture
  split
  · exact waits_sound (.captureOff c) 1000 _ hrun hgoing (htaking.congr rfl rfl rfl rfl rfl)
  · exact captureCore_under c f hplace hrun hgoing htaking haccept hinterval

/-- A bulb is asked for. -/
theorem bulbPrepare_sound (Q : Intervalometer → Prop) {s : Intervalometer}
    (hrun : s.running = true) (hgoing : s.ledger.Going) (hopening : s.Opening) :
    s.bulbPrepare.Ends Q Sound := by
  unfold bulbPrepare
  simp only
  split
  · exact waits_sound .prepareOff 1000 _ hrun hgoing hopening
  · exact waits_sound .starting 10 _ hrun hgoing hopening

/-- An exposure of a time-lapse starts. -/
theorem expose_under (f : Found) {s : Intervalometer} (hplace : s.place = none)
    (hrun : s.running = true) (hgoing : s.ledger.Going) (hopening : s.Opening)
    (haccept : f.io.captureError = false)
    (hinterval : s.enter = true → s.program.external = true → 0 < s.interval) :
    (s.expose f).Ends (Under f) Sound := by
  have hplain : s.program.ramp = false := hgoing.fits.plain
  rw [expose, hplain, Bool.false_and, Bool.false_and, if_neg Bool.noConfusion]
  split
  · exact bulbPrepare_sound _ hrun hgoing hopening
  · exact capture_under .basic f hplace hrun hgoing hopening haccept hinterval

/-- The camera of a time-lapse is set before an exposure. -/
theorem expSetup_plain (f : Found) {s : Intervalometer} (h : s.program.ramp = false) :
    ∃ w, s.expSetup f = { s with world := w } := by
  rw [expSetup, if_neg (by rw [h]; exact Bool.noConfusion)]
  split
  · exact ⟨s.world.shutterOffQuick, rfl⟩
  · exact ⟨s.world, rfl⟩

/-- `RUN_BULB`. -/
theorem bulb_under (f : Found) (haccept : f.io.captureError = false) {s : Intervalometer}
    (h : s.Under f) : (s.bulb f).Ends (Under f) Sound := by
  by_cases hstate : s.runState = .bulb
  · rcases mid_going h.mid (by rw [hstate]; decide) with ⟨hplace, hrun, hgoing, hhand⟩
    rw [InHand, hstate] at hhand
    rcases hhand with ⟨hexposing, hrefused⟩
    have hplain : s.program.ramp = false := hgoing.fits.plain
    rw [bulb, if_pos hstate]
    by_cases hold : s.oldState = some .bulb
    · rw [if_neg (not_not_intro hold)]
      split
      · exact h
      · -- The exposure is over, and it was not refused.
        rcases hexposing.next hgoing.fits with ⟨hcount, hexposed⟩
        have htaken : (if s.refused then s.taken else s.taken + 1) = s.taken + 1 :=
          if_neg (by rw [hrefused hold]; exact Bool.noConfusion)
        unfold bulbOver
        rw [hcount, htaken]
        simp only
        split
        · exact waits_sound .finishing 500 _ hrun hgoing ⟨hstate, hexposed⟩
        · exact waits_sound .settling 50 _ hrun hgoing ⟨hstate, hexposed⟩
    · rw [if_pos hold]
      rcases expSetup_plain f
        (s := { s with oldState := some .bulb, bulbLength := f.bulbLength }) hplain with ⟨w, hw⟩
      rw [hw]
      simp only [hplain, Bool.false_and, Bool.false_eq_true, if_false]
      exact expose_under f hplace hrun hgoing ⟨hstate, rfl, hexposing⟩ haccept h.patient.interval
  · rw [bulb_of_ne f hstate]
    exact h

theorem chain_bulb (f : Found) (haccept : f.io.captureError = false) {s : Intervalometer}
    (h : s.Under f) : (chain (bulb f :: fromNext f) s).Sound :=
  chain_then (Under f) Sound (bulb_under f haccept h) fun _ ht => chain_next f ht

/-- `RUN_PHOTO`. -/
theorem photo_under (f : Found) (haccept : f.io.captureError = false) {s : Intervalometer}
    (h : s.Under f) : (s.photo f).Ends (Under f) Sound := by
  by_cases hstate : s.runState = .photo
  · rcases mid_going h.mid (by rw [hstate]; decide) with ⟨hplace, hrun, hgoing, hhand⟩
    rw [InHand, hstate] at hhand
    unfold photo
    split
    · simp only
      split
      · refine ⟨⟨hplace, Or.inl ⟨hrun, hgoing, hhand, fun hno => ?_⟩⟩,
          .of_ne h.patient.interval ?_ ?_⟩
        · exact absurd hno (by simp only [Option.some.injEq, reduceCtorEq, not_false_eq_true])
        · simp only [ne_eq, reduceCtorEq, not_false_eq_true]
        · simp only [ne_eq, reduceCtorEq, not_false_eq_true]
      · rcases Exposing.next hhand hgoing.fits with ⟨hcount, hexposed⟩
        rw [hcount]
        exact capture_under .photo f hplace hrun hgoing ⟨hstate, rfl, hexposed⟩ haccept
          h.patient.interval
    · exact h
  · rw [photo_of_ne f hstate]
    exact h

theorem chain_photo (f : Found) (haccept : f.io.captureError = false) {s : Intervalometer}
    (h : s.Under f) : (chain (fromPhoto f) s).Sound :=
  chain_then (Under f) Sound (photo_under f haccept h) fun _ ht => chain_bulb f haccept ht

/-- `RUN_DELAY`. -/
theorem delay_under (f : Found) {s : Intervalometer} (h : s.Under f) :
    s.delay.Ends (Under f) Sound := by
  by_cases hstate : s.runState = .delay
  · rcases mid_going h.mid (by rw [hstate]; decide) with ⟨hplace, hrun, hgoing, hhand⟩
    rw [InHand, hstate] at hhand
    rcases hhand with ⟨hfresh, hnone⟩
    rw [delay, if_pos hstate]
    simp only
    split
    · exact ⟨⟨hplace, Or.inl ⟨hrun, hgoing, hfresh.exposing hgoing.fits⟩⟩,
        .of_ne h.patient.interval (by simp only [ne_eq, reduceCtorEq, not_false_eq_true])
          (by simp only [ne_eq, reduceCtorEq, not_false_eq_true])⟩
    · split
      · exact waits_sound .waking 100 _ hrun hgoing ⟨hstate, hfresh, hnone⟩
      · split
        · refine ⟨⟨hplace, Or.inl ⟨hrun, hgoing, hfresh⟩⟩, h.patient.interval, fun _ => ?_⟩
          exact Bool.and_eq_false_imp.mpr fun hmany =>
            absurd (of_decide_eq_true hmany) (by rw [hnone]; exact Nat.not_lt_zero 2)
        · refine ⟨⟨hplace, Or.inl ⟨hrun, hgoing, ?_⟩⟩, .of_ne h.patient.interval ?_ ?_⟩
          · rw [InHand, hstate]
            exact ⟨hfresh, hnone⟩
          · rw [hstate]; decide
          · rw [hstate]; decide
  · rw [delay_of_ne hstate]
    exact h

theorem chain_delay (f : Found) (haccept : f.io.captureError = false) {s : Intervalometer}
    (h : s.Under f) : (chain (delay :: fromPhoto f) s).Sound :=
  chain_then (Under f) Sound (delay_under f h) fun _ ht => chain_photo f haccept ht

/-- What holds of a call before it looks at the pause. -/
structure Checked (f : Found) (s : Intervalometer) : Prop where
  place : s.place = none
  patient : s.Patient f
  run : s.ledger.Going ∧ s.InHand ∨ s.running = false ∧ s.ledger.Resting

theorem Checked.sound {f : Found} {s : Intervalometer} (h : s.Checked f) : s.Sound := by
  rcases h.run with ⟨hgoing, hhand⟩ | ⟨_, hresting⟩
  · exact Or.inr ⟨hgoing, Or.inl ⟨h.place, hhand⟩⟩
  · exact Or.inl ⟨hresting, Or.inl h.place⟩

theorem resume_checked (f : Found) {s : Intervalometer} (h : s.Checked f) :
    s.resume.Ends (Checked f) Sound := by
  have hpatient : s.Patient f := h.patient
  unfold resume
  split
  · split
    · split <;> exact ⟨h.place, ⟨hpatient.interval, hpatient.quiet⟩, h.run⟩
    · exact ⟨h.place, ⟨hpatient.interval, hpatient.quiet⟩, h.run⟩
  · exact h

theorem whilePaused_checked (f : Found) {s : Intervalometer} (h : s.Checked f) :
    (s.whilePaused f).Ends (Checked f) Sound := by
  unfold whilePaused
  split
  · exact h.sound
  · split
    · exact ⟨h.place, ⟨h.patient.interval, h.patient.quiet⟩, h.run⟩
    · exact h

theorem startPause_checked (f : Found) {s : Intervalometer} (h : s.Checked f) :
    s.startPause.Ends (Checked f) Sound := by
  unfold startPause
  split
  · exact ⟨h.place, ⟨h.patient.interval, h.patient.quiet⟩, h.run⟩
  · exact h

/-- A run that has been stopped ends short of its photos. -/
theorem cancel_under (f : Found) {s : Intervalometer} (h : s.Checked f) :
    s.cancel.Ends (Under f) Sound := by
  unfold cancel
  split
  · rename_i hrun
    rcases h.run with ⟨hgoing, hhand⟩ | ⟨hstopped, _⟩
    · exact ⟨⟨h.place, Or.inl ⟨hrun, hgoing, hhand⟩⟩, h.patient⟩
    · exact absurd (hrun.symm.trans hstopped) Bool.noConfusion
  · rename_i hstopped
    refine ⟨⟨h.place, Or.inr ⟨rfl, ?_⟩⟩, .of_ne h.patient.interval
      (by simp only [ne_eq, reduceCtorEq, not_false_eq_true])
      (by simp only [ne_eq, reduceCtorEq, not_false_eq_true])⟩
    rcases h.run with ⟨hgoing, _⟩ | ⟨_, hresting⟩
    · refine ⟨hgoing.fits, fun _ => ⟨hgoing.counted, ?_⟩⟩
      constructor
      · rintro (hfinished | hrun)
        · exact absurd (hgoing.unfinished.symm.trans hfinished) Bool.noConfusion
        · exact absurd hrun hstopped
      · intro hall
        exact absurd hall (Nat.ne_of_lt hgoing.short)
    · refine ⟨hresting.fits, fun hstarted => ?_⟩
      rcases hresting.counted hstarted with ⟨hcounted, hfinished⟩
      exact ⟨hcounted, (or_iff_left hstopped).trans hfinished⟩

theorem chain_resume (f : Found) (haccept : f.io.captureError = false) {s : Intervalometer}
    (h : s.Checked f) : (chain (fromResume f) s).Sound :=
  chain_then (Checked f) Sound (resume_checked f h) fun _ h =>
    chain_then (Checked f) Sound (whilePaused_checked f h) fun _ h =>
      chain_then (Checked f) Sound (startPause_checked f h) fun _ h =>
        chain_then (Under f) Sound (cancel_under f h) fun _ h => chain_delay f haccept h

/-- What holds of a call before its precheck is over. -/
structure Entered (f : Found) (s : Intervalometer) : Prop where
  place : s.place = none
  run : s.Patient f ∧ s.ledger.Going ∧ s.InHand ∨
    s.Patient f ∧ s.running = false ∧ s.ledger.Resting ∨
    s.Checking ∧ s.ledger.Resting ∧ (s.program.external = true → 0 < s.interval)

/-- The books of a run that starts. -/
theorem reset_going {s : Intervalometer} (hfits : s.program.Fits) (henter : s.enter = true) :
    s.reset.ledger.Going := by
  refine ⟨hfits, henter, rfl, rfl, rfl, rfl, rfl, hfits.some_photos, ?_⟩
  have hpos := hfits.some_photos
  have hplain := hfits.plain
  simp only [ledger, reset, hplain, Bool.false_eq_true, if_false, decide_eq_false_iff_not]
  omega

theorem launch_checked (f : Found) {s : Intervalometer} (h : s.Entered f) :
    s.launch.Ends (Checked f) Sound := by
  unfold launch
  rcases h.run with ⟨hpatient, hgoing, hhand⟩ | ⟨hpatient, hstopped, hresting⟩ |
    ⟨hcheck, hresting, hinterval⟩
  · have henter : s.enter = true := hgoing.enter
    have hchecked : s.preChecked = 0 := hgoing.checked
    rw [if_neg]
    · exact ⟨h.place, hpatient, Or.inl ⟨hgoing, hhand⟩⟩
    · rw [toStart, henter, hchecked, Bool.not_true, Bool.false_or, decide_eq_false (by decide),
        Bool.and_false]
      exact Bool.noConfusion
  · rw [if_neg]
    · exact ⟨h.place, hpatient, Or.inr ⟨hstopped, hresting⟩⟩
    · rw [toStart, hstopped, Bool.false_and]
      exact Bool.noConfusion
  · rcases hcheck with ⟨henter, hrun, hpre⟩
    rw [if_pos (by rw [toStart, hrun, decide_eq_true hpre, Bool.or_true]; rfl)]
    split
    · exact Or.inl ⟨hresting, Or.inl h.place⟩
    · exact ⟨h.place, .of_ne (fun _ => hinterval)
        (by simp only [reset, ne_eq, reduceCtorEq, not_false_eq_true])
        (by simp only [reset, ne_eq, reduceCtorEq, not_false_eq_true]),
        Or.inl ⟨reset_going hresting.fits henter, ⟨rfl, rfl⟩, rfl⟩⟩

theorem chain_launch (f : Found) (haccept : f.io.captureError = false) {s : Intervalometer}
    (h : s.Entered f) : (chain (launch :: fromResume f) s).Sound :=
  chain_then (Checked f) Sound (launch_checked f h) fun _ h => chain_resume f haccept h

theorem prepare_program {s : Intervalometer} (h : s.program.ramp = false) :
    s.prepare.program = s.program := by
  have hphotos : (if s.program.ramp then u16 (s.program.duration * 600 / s.program.gap)
      else s.program.photos) = s.program.photos := if_neg (by rw [h]; exact Bool.noConfusion)
  rw [prepare, hphotos]

theorem prepare_checking {s : Intervalometer} (hrun : s.running = true) :
    s.prepare.Checking := by
  refine ⟨rfl, hrun, ?_⟩
  unfold prepare
  simp only
  split <;> omega

/-- A run in its precheck is not under way. -/
theorem prepare_resting {s : Intervalometer} (hrun : s.running = true)
    (h : s.ledger.Resting) : s.prepare.ledger.Resting := by
  have hprogram := prepare_program h.fits.plain
  have hfits : s.prepare.program.Fits := by
    rw [hprogram]
    exact h.fits
  refine ⟨hfits, Or.inr (prepare_checking hrun).2.2, fun hstarted => ?_⟩
  have hcounted : s.photosTaken = s.sets ∧
      (s.finished = true ↔ s.sets = s.prepare.program.photos) := by
    rw [hprogram]
    exact h.counted hstarted
  exact hcounted

/-- What holds of a call as it is entered. -/
structure Called (f : Found) (s : Intervalometer) : Prop where
  place : s.place = none
  patient : s.Patient f
  run : s.ledger.Going ∧ s.InHand ∨ s.ledger.Resting

theorem startup_entered (f : Found) {s : Intervalometer} (h : s.Called f) :
    (s.startup f).Ends (Entered f) Sound := by
  unfold startup
  rcases h.run with ⟨hgoing, hhand⟩ | hresting
  · have henter : s.enter = true := hgoing.enter
    have hchecked : s.preChecked = 0 := hgoing.checked
    rw [if_neg]
    · exact ⟨h.place, Or.inl ⟨h.patient, hgoing, hhand⟩⟩
    · rw [toStart, henter, hchecked, Bool.not_true, Bool.false_or, decide_eq_false (by decide),
        Bool.and_false]
      exact Bool.noConfusion
  · by_cases hrun : s.running = true
    · have hresting' := prepare_resting hrun hresting
      have hcheck := prepare_checking hrun
      have hstart : s.toStart = true := by
        rw [toStart, hrun, Bool.true_and, Bool.or_eq_true, Bool.not_eq_true', decide_eq_true_eq]
        exact hresting.unlaunched
      rw [if_pos hstart]
      simp only
      split
      · exact Or.inl ⟨hresting', Or.inl h.place⟩
      · split
        · have hload := load_checking hcheck
          exact Or.inl ⟨⟨hresting'.fits, Or.inr hload.2.2, hresting'.counted⟩,
            Or.inr ⟨rfl, hload.2.1, hload.1⟩⟩
        · refine ⟨h.place, Or.inr (Or.inr ⟨hcheck, hresting', fun hout => ?_⟩)⟩
          rw [prepare_program hresting.fits.plain] at hout
          exact hresting.fits.gap_pos hout
    · rw [Bool.not_eq_true] at hrun
      rw [if_neg (by rw [toStart, hrun, Bool.false_and]; exact Bool.noConfusion)]
      exact ⟨h.place, Or.inr (Or.inl ⟨h.patient, hrun, hresting⟩)⟩

theorem arrive_called (f : Found) {s : Intervalometer} (h : s.Called f) :
    s.arrive.Ends (Called f) Sound := by
  have hworld : ∀ w, ({ s with world := w } : Intervalometer).world.clock.totalMs =
      s.world.clock.totalMs → ({ s with world := w } : Intervalometer).Called f := by
    intro w hw
    refine ⟨h.place, ⟨h.patient.interval, fun hwait => ?_⟩, h.run⟩
    have hquiet := h.patient.quiet hwait
    rw [silent] at hquiet ⊢
    rw [hw]
    exact hquiet
  have hsense : s.world.senseCable.clock.totalMs = s.world.clock.totalMs := by
    unfold World.senseCable
    split <;> rfl
  unfold arrive
  split
  · exact hworld _ hsense
  · rename_i hout
    rw [Bool.or_eq_true] at hout
    rcases h.run with ⟨hgoing, _⟩ | hresting
    · exact absurd (Or.inr hgoing.enter) hout
    · exact Or.inl ⟨hresting, Or.inl h.place⟩

/-- A call of `task` that loses no exposure. -/
theorem task_sound (f : Found) (haccept : f.io.captureError = false) {s : Intervalometer}
    (h : s.Called f) : (s.task f).Sound :=
  chain_then (Called f) Sound (arrive_called f h) fun _ h =>
    chain_then (Entered f) Sound (startup_entered f h) fun _ h => chain_launch f haccept h

theorem chain_afterShot (f : Found) (haccept : f.io.captureError = false) (c : Shot)
    {s : Intervalometer} (h : s.Under f) : (chain (afterShot f c) s).Sound := by
  cases c with
  | photo => exact chain_bulb f haccept h
  | manual => exact chain_next f h
  | basic => exact chain_next f h

/-- The end of `RUN_DELAY`. -/
theorem delayAwake_under (f : Found) {s : Intervalometer} (hplace : s.place = none)
    (hrun : s.running = true) (hgoing : s.ledger.Going) (hpatient : s.Patient f)
    (hwaits : s.Waits .waking) : s.delayAwake.Ends (Under f) Sound := by
  rcases hwaits with ⟨hstate, hfresh, hnone⟩
  unfold delayAwake
  by_cases hexternal : s.program.external = true
  · rw [if_pos hexternal]
    refine ⟨⟨hplace, Or.inl ⟨hrun, hgoing, hfresh⟩⟩, hpatient.interval, fun _ => ?_⟩
    exact Bool.and_eq_false_imp.mpr fun hmany =>
      absurd (of_decide_eq_true hmany) (by rw [hnone]; exact Nat.not_lt_zero 2)
  · rw [if_neg hexternal, hstate]
    exact ⟨⟨hplace, Or.inl ⟨hrun, hgoing, hfresh, hnone⟩⟩, .of_ne hpatient.interval
      (by simp only [ne_eq, reduceCtorEq, not_false_eq_true])
      (by simp only [ne_eq, reduceCtorEq, not_false_eq_true])⟩

/-- A bulb that is refused is tried again, also after an error if it is one of a
    bracket. -/
theorem bulbStarted_under (f : Found) {s : Intervalometer} (hplace : s.place = none)
    (hrun : s.running = true) (hgoing : s.ledger.Going) (hpatient : s.Patient f)
    (hopening : s.Opening)
    (hspared : s.world.lastShutterError = true → f.ptpError = true → s.program.hdr = true) :
    (s.bulbStarted f).Ends (Under f) Sound := by
  rcases hopening with ⟨hstate, _, hexposing⟩
  unfold bulbStarted
  split
  · rename_i hrefused
    split
    · rename_i herror
      exact Or.inr ⟨hgoing, Or.inl ⟨hplace, hexposing.exposed (hspared hrefused herror)⟩⟩
    · refine Or.inr ⟨hgoing, Or.inl ⟨hplace, ?_⟩⟩
      rw [InHand, hstate]
      refine ⟨hexposing, fun hno => ?_⟩
      exact absurd hno (by simp only [Option.some.injEq, reduceCtorEq, not_false_eq_true])
  · refine ⟨⟨hplace, Or.inl ⟨hrun, hgoing, ?_⟩⟩, hpatient.interval, hpatient.quiet⟩
    rw [InHand, hstate]
    exact ⟨hexposing, fun _ => rfl⟩

/-- No exposure is lost in a step: no picture is refused, a bulb that is refused
    with an error is one of a bracket, and the external trigger is not too late. -/
def Spares (s : Intervalometer) : Order → Prop
  | .task f => f.io.captureError = false ∧ s.Patient f
  | .goOn f => f.io.captureError = false ∧ s.Patient f ∧
      (s.place = some .starting → s.world.lastShutterError = true → f.ptpError = true →
        s.program.hdr = true)
  | _ => True

instance (s : Intervalometer) (f : Found) : Decidable (s.Patient f) :=
  decidable_of_iff ((s.enter = true → s.program.external = true → 0 < s.interval) ∧
    ((s.runState = .externalTrigger ∧ f.trigger = false ∨
      (s.runState = .externalTrigger ∨ s.runState = .externalTriggerRelease) ∧
        f.triggerHeld = true) → s.silent = false))
    ⟨fun h => ⟨h.1, h.2⟩, fun h => ⟨h.interval, h.quiet⟩⟩

instance (s : Intervalometer) : (a : Order) → Decidable (s.Spares a)
  | .task f => inferInstanceAs (Decidable (f.io.captureError = false ∧ s.Patient f))
  | .goOn f => inferInstanceAs (Decidable (f.io.captureError = false ∧ s.Patient f ∧
      (s.place = some .starting → s.world.lastShutterError = true → f.ptpError = true →
        s.program.hdr = true)))
  | .tick _ | .resume | .pins _ _ | .connect _ _ | .begin | .stop | .pause _ | .confirm
  | .switchTo _ => inferInstanceAs (Decidable True)

/-- A call of `task` goes on from where it waits. -/
theorem goOn_sound (f : Found) (p : Place) {s : Intervalometer} (h : s.Sound)
    (hplace : s.place = some p) (hspares : s.Spares (.goOn f)) : (s.goOn p f).Sound := by
  rcases hspares with ⟨haccept, hpatient, hspared⟩
  have hpatient' : ({ s with place := none } : Intervalometer).Patient f :=
    ⟨hpatient.interval, hpatient.quiet⟩
  unfold goOn
  rcases h with ⟨hresting, hnone | ⟨hload, hrun, henter⟩⟩ |
    ⟨hgoing, ⟨hnone, _⟩ | ⟨hrun, q, hq, hwaits⟩⟩
  · exact absurd (hplace.symm.trans hnone) (by simp only [reduceCtorEq, not_false_eq_true])
  · have hp : p = .loading := Option.some.inj (hplace.symm.trans hload)
    have hpre : 0 < s.preChecked := by
      rcases hresting.unlaunched with hno | hpos
      · exact absurd (henter.symm.trans hno) Bool.noConfusion
      · exact hpos
    rw [hp]
    exact chain_launch f haccept
      ⟨rfl, Or.inr (Or.inr ⟨⟨henter, hrun, hpre⟩, hresting, hpatient.interval henter⟩)⟩
  · exact absurd (hplace.symm.trans hnone) (by simp only [reduceCtorEq, not_false_eq_true])
  · have hp : q = p := Option.some.inj (hq.symm.trans hplace)
    rw [hp] at hwaits
    cases p with
    | loading => exact absurd hwaits id
    | waking =>
        exact chain_then (Under f) Sound (delayAwake_under f rfl hrun hgoing hpatient' hwaits)
          fun _ ht => chain_photo f haccept ht
    | captureOff c =>
        exact waits_sound (.captureHalf c) 1500 Sound hrun hgoing
          (Taking.congr (c := c) hwaits rfl rfl rfl rfl rfl)
    | captureHalf c =>
        exact chain_then (Under f) Sound
          (captureCore_under c f rfl hrun hgoing (Taking.congr (c := c) hwaits rfl rfl rfl rfl rfl)
            haccept hpatient.interval)
          fun _ ht => chain_afterShot f haccept c ht
    | shutterNow c =>
        exact chain_then (Under f) Sound
          (captureEnd_under c f rfl hrun hgoing (hwaits.1.congr rfl rfl rfl rfl rfl) hwaits.2
            hpatient.interval)
          fun _ ht => chain_afterShot f haccept c ht
    | captureFinish c =>
        refine chain_then (Under f) Sound (s := enable { s with place := none } f) ?_
          fun _ ht => chain_afterShot f haccept c ht
        exact captured_under c f rfl hrun hgoing (hwaits.1.congr rfl rfl rfl rfl rfl) hwaits.2
          hpatient.interval
    | manual => exact absurd hwaits id
    | prepareOff => exact waits_sound .prepareHalf 1000 Sound hrun hgoing hwaits
    | prepareHalf => exact waits_sound .starting 10 Sound hrun hgoing hwaits
    | starting =>
        exact chain_then (Under f) Sound
          (bulbStarted_under f rfl hrun hgoing hpatient' hwaits (hspared hplace))
          fun _ ht => chain_next f ht
    | finishing => exact waits_sound .settling 50 Sound hrun hgoing hwaits
    | settling =>
        have hnext : ∀ w, ({ s with place := none, runState := .next, world := w } :
            Intervalometer).Sound :=
          fun _ => Or.inr ⟨hgoing, Or.inl ⟨rfl, hwaits.2⟩⟩
        refine chain_then Sound Sound ?_ fun _ ht => ht
        unfold bulbSettled
        simp only
        split <;> exact hnext _
    | focusing =>
        rcases hwaits with ⟨hstate, hfresh⟩
        refine chain_gapSettled f ⟨⟨rfl, Or.inl ⟨hrun, hgoing, ?_⟩⟩, hpatient'⟩
        rw [InHand, hstate]
        exact hfresh
    | nudging => exact waits_sound .disabling 600 Sound hrun hgoing hwaits
    | disabling => exact waits_sound .enabling 500 Sound hrun hgoing hwaits
    | enabling =>
        rcases hwaits with ⟨hstate, hexposed⟩
        refine chain_then Sound Sound (s := enable { s with place := none } f) ?_ fun _ ht => ht
        unfold errorCounted
        split
        · exact Or.inr ⟨hgoing, Or.inl ⟨rfl, hexposed⟩⟩
        · refine Or.inr ⟨hgoing, Or.inl ⟨rfl, ?_⟩⟩
          rw [InHand, enable, hstate]
          exact hexposed

/-- What the clock and the connection do leaves the count alone. -/
theorem Sound.world {s : Intervalometer} (h : s.Sound) (w : World) (n : Nat) (b : Bool) :
    ({ s with world := w, left := n, disabled := b } : Intervalometer).Sound := by
  rcases h with hresting | ⟨hgoing, hnone | ⟨hrun, p, hp, hwaits⟩⟩
  · exact Or.inl hresting
  · exact Or.inr ⟨hgoing, Or.inl hnone⟩
  · refine Or.inr ⟨hgoing, Or.inr ⟨hrun, p, hp, ?_⟩⟩
    have htaking : ∀ c, s.Taking c →
        ({ s with world := w, left := n, disabled := b } : Intervalometer).Taking c :=
      fun c hc => hc.congr rfl rfl rfl rfl rfl
    cases p with
    | captureOff c => exact htaking c hwaits
    | captureHalf c => exact htaking c hwaits
    | shutterNow c => exact ⟨htaking c hwaits.1, hwaits.2⟩
    | captureFinish c => exact ⟨htaking c hwaits.1, hwaits.2⟩
    | _ => exact hwaits

theorem InHand.method {s : Intervalometer} (h : s.InHand) (m : BrampMethod) (n : NightMode) :
    ({ s with program := { s.program with brampMethod := m, nightMode := n } } :
      Intervalometer).InHand := by
  unfold InHand at h ⊢
  cases hstate : s.runState <;> rw [hstate] at h
  case photo => exact ⟨h.same, h.more⟩
  case bulb => exact ⟨⟨h.1.same, h.1.more⟩, h.2⟩
  case next => exact ⟨h.same, h.most, h.single⟩
  case error => exact ⟨h.same, h.most, h.single⟩
  all_goals exact h

/-- No call of `task` waits while the menu is at work. -/
theorem sound_atRest {s : Intervalometer} (h : s.Sound) (hrest : s.atRest = true) :
    s.place = none ∧ (s.ledger.Going ∧ s.InHand ∨ s.ledger.Resting) := by
  rw [atRest, Bool.and_eq_true, Option.isNone_iff_eq_none] at hrest
  refine ⟨hrest.1, ?_⟩
  rcases h with ⟨hresting, _⟩ | ⟨hgoing, ⟨_, hhand⟩ | ⟨_, p, hp, _⟩⟩
  · exact Or.inr hresting
  · exact Or.inl ⟨hgoing, hhand⟩
  · exact absurd (hrest.1.symm.trans hp) (by simp only [reduceCtorEq, not_false_eq_true])

/-- Every step that loses no exposure keeps the count sound. -/
theorem sound_step {s t : Intervalometer} (a : Order) (h : s.Sound) (hspares : s.Spares a)
    (hstep : s.step a = some t) : t.Sound := by
  cases a with
  | tick io =>
      rw [step, Option.some.injEq] at hstep
      rw [← hstep]
      exact h.world _ _ _
  | resume =>
      rw [step, Option.map_eq_some_iff] at hstep
      rcases hstep with ⟨w, _, rfl⟩
      exact h.world _ _ _
  | pins cablePin syncPin =>
      rw [step, Option.some.injEq] at hstep
      rw [← hstep]
      exact h.world _ _ _
  | connect link disabled =>
      rw [step, Option.some.injEq] at hstep
      rw [← hstep]
      exact h.world _ _ _
  | task f =>
      rw [step, Option.ite_none_right_eq_some, Option.some.injEq] at hstep
      rcases sound_atRest h hstep.1 with ⟨hplace, hrun⟩
      rw [← hstep.2]
      exact task_sound f hspares.1 ⟨hplace, hspares.2, hrun⟩
  | goOn f =>
      cases hplace : s.place with
      | none =>
          rw [step, hplace] at hstep
          exact absurd hstep (by simp only [reduceCtorEq, not_false_eq_true])
      | some p =>
          rw [step, hplace] at hstep
          simp only [Option.ite_none_right_eq_some, Option.some.injEq] at hstep
          rw [← hstep.2]
          exact goOn_sound f p h hplace hspares
  | begin =>
      rw [step, Option.ite_none_right_eq_some, Option.some.injEq] at hstep
      rcases sound_atRest h hstep.1 with ⟨hplace, ⟨hgoing, hhand⟩ | hresting⟩
      · rw [← hstep.2]
        exact Or.inr ⟨hgoing, Or.inl ⟨hplace, hhand⟩⟩
      · rw [← hstep.2]
        exact Or.inl ⟨hresting, Or.inl hplace⟩
  | stop =>
      rw [step, Option.ite_none_right_eq_some, Option.some.injEq] at hstep
      rcases sound_atRest h hstep.1 with ⟨hplace, ⟨hgoing, hhand⟩ | hresting⟩
      · rw [← hstep.2]
        exact Or.inr ⟨hgoing, Or.inl ⟨hplace, hhand⟩⟩
      · rw [← hstep.2]
        exact Or.inl ⟨hresting, Or.inl hplace⟩
  | pause p =>
      rw [step, Option.ite_none_right_eq_some, Option.some.injEq] at hstep
      rcases sound_atRest h hstep.1 with ⟨hplace, ⟨hgoing, hhand⟩ | hresting⟩
      · rw [← hstep.2, pause]
        split <;> split <;> exact Or.inr ⟨hgoing, Or.inl ⟨hplace, hhand⟩⟩
      · rw [← hstep.2, pause]
        split <;> split <;> exact Or.inl ⟨hresting, Or.inl hplace⟩
  | confirm =>
      rw [step, Option.ite_none_right_eq_some, Option.some.injEq] at hstep
      rw [← hstep.2, confirm]
      split
      · exact h
      · rename_i hpre
        rcases sound_atRest h hstep.1 with ⟨hplace, ⟨hgoing, _⟩ | hresting⟩
        · exact absurd hgoing.checked hpre
        · exact Or.inl ⟨⟨hresting.fits, Or.inr (Nat.succ_pos 2), hresting.counted⟩,
            Or.inl hplace⟩
  | switchTo method =>
      rw [step, Option.ite_none_right_eq_some, Option.some.injEq] at hstep
      rcases sound_atRest h hstep.1 with ⟨hplace, ⟨hgoing, hhand⟩ | hresting⟩
      · rw [← hstep.2]
        exact Or.inr ⟨⟨hgoing.fits.method _ _, hgoing.enter, hgoing.checked, hgoing.started,
          hgoing.unfinished, hgoing.counted, hgoing.photos, hgoing.short, hgoing.finite⟩,
          Or.inl ⟨hplace, hhand.method _ _⟩⟩
      · rw [← hstep.2]
        exact Or.inl ⟨⟨hresting.fits.method _ _, hresting.unlaunched, hresting.counted⟩,
          Or.inl hplace⟩

theorem sound_run {s t : Intervalometer} (h : Run step Spares s t) (hs : s.Sound) : t.Sound := by
  induction h with
  | refl => exact hs
  | tail a _ hspares hstep ih => exact sound_step a ih hspares hstep

/-- The photos counted are those with all their exposures, and the run has ended by
    itself exactly if they are all there. -/
def Counted (s : Intervalometer) : Prop :=
  s.started = true →
    s.photosTaken = s.sets ∧ (s.finished = true ↔ s.sets = s.program.photos)

theorem Sound.isCounted {s : Intervalometer} (h : s.Sound) : s.Counted := by
  intro hstarted
  rcases h with ⟨hresting, _⟩ | ⟨hgoing, _⟩
  · exact hresting.counted hstarted
  · refine ⟨hgoing.counted, ?_⟩
    constructor
    · intro hfinished
      exact absurd (hgoing.unfinished.symm.trans hfinished) Bool.noConfusion
    · intro hall
      exact absurd hall (Nat.ne_of_lt hgoing.short)

/-- The count is right in a run that loses no exposure. -/
theorem counted_run (s t : Intervalometer) (hfits : s.program.Fits) (henter : s.enter = false)
    (hplace : s.place = none) (hstarted : s.started = false) (h : Run step Spares s t) :
    t.Counted := by
  have hresting : s.ledger.Resting :=
    ⟨hfits, Or.inl henter, fun hyes => absurd (hstarted.symm.trans hyes) Bool.noConfusion⟩
  exact (sound_run h (Or.inl ⟨hresting, Or.inl hplace⟩)).isCounted

/-- Pictures that are taken by a command, one at once and the others every three
    seconds. -/
def pictures (photos : Nat) : Program := { Program.plain with delay := 0, exp := 0, photos := photos }

/-- A camera that takes pictures over USB. -/
def pictureLink : Link := ⟨true, true, false, true, false, false⟩

/-- A run up to its first picture: the delay of a second passes, and then the
    camera is found. -/
def firstPicture (captureError : Bool) : List Order :=
  [.begin, .task .plain, .goOn .plain] ++ List.replicate 1001 (.tick .ok) ++
    [.goOn .plain, .connect pictureLink false,
      .task { Found.plain with io := { Io.ok with captureError := captureError } }]

theorem counted_run_one :
    ∃ t, steps step (idle (World.idle .factory 20 .none) (pictures 1)) (firstPicture false) =
      some t ∧ t.Counted := by
  have hfits : (pictures 1).Fits :=
    ⟨rfl, rfl, Nat.le_refl 1, by decide, fun hno => absurd hno Bool.noConfusion,
      fun hno => absurd hno Bool.noConfusion⟩
  have hallowed : allowed step Spares (idle (World.idle .factory 20 .none) (pictures 1))
      (firstPicture false) = true := by decide +kernel
  rcases run_of_allowed _ hallowed with ⟨t, hsteps, hrun⟩
  exact ⟨t, hsteps, counted_run (idle (World.idle .factory 20 .none) (pictures 1)) t hfits rfl rfl
    rfl hrun⟩

/-- A picture the camera refused is counted as one of two taken. -/
theorem refused_counted :
    ¬ ∀ s t : Intervalometer, s.program.Fits → s.enter = false → s.place = none →
      s.started = false → Run step (fun _ _ => True) s t → t.Counted := by
  intro hclaim
  have hrun :
      (steps step (idle (World.idle .factory 20 .none) (pictures 2)) (firstPicture true)).map
        (fun t => (t.started, t.photosTaken, t.sets)) = some (true, 1, 0) := by decide +kernel
  rw [Option.map_eq_some_iff] at hrun
  rcases hrun with ⟨t, hsteps, ht⟩
  simp only [Prod.mk.injEq] at ht
  rcases ht with ⟨hstarted, htaken, hsets⟩
  have hfits : (pictures 2).Fits :=
    ⟨rfl, rfl, Nat.le_succ 1, by decide, fun hno => absurd hno Bool.noConfusion,
      fun hno => absurd hno Bool.noConfusion⟩
  have hcounted := hclaim (idle (World.idle .factory 20 .none) (pictures 2)) t hfits rfl rfl rfl
    (run_of_steps _ hsteps) hstarted
  omega

end Intervalometer

end Shutter

end TimelapsePlus
