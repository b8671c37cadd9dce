import TimelapsePlus.Shutter.Sync

/-!
# How Long a Bulb Stays Open

Without PC-sync the length of an exposure is what was asked for and the offset
of the camera, which is added or taken away on the tick that starts the bulb.
The sum is kept in an unsigned word, and the tick that finds it at one ends the
bulb. So a sum that is not positive is not a short exposure. It wraps around to
one of weeks, and so does zero, which the first tick takes down to the largest
word there is. A sum that is larger than a word comes back as a short one, but
for the one that comes back as zero, which lasts as long as it should.

## Main definitions

* `plainLength`: How long an exposure lasts.
* `ticks`: How many ticks there are among some steps.
* `World.PlainTimed`: A bulb is closed when it is to be.
* `World.Plain`: A bulb that has been asked for, without PC-sync.

## Theorems

* `pins_length`: Each tick looks at the sync input once.
* `Plain.startLength_eq`: When the length is the right one.
* `plainTimed_iff`: The bulbs that are closed when they are to be.
* `plain_weeks`: An offset as long as the exposure keeps it open.
-/

namespace TimelapsePlus

namespace Shutter

open Word

/-- How long an exposure lasts without PC-sync, before anything is made of it that
    is less than a tick. -/
def plainLength (conf : Settings) (duration : Nat) : Int :=
  duration + if conf.camera.negBulbOffset then -(conf.camera.bulbOffset : Int)
    else conf.camera.bulbOffset

/-- Whether a step is a tick. -/
def World.Action.isTick : World.Action → Bool
  | .tick _ => true
  | _ => false

/-- How many ticks there are among some steps. -/
def ticks (as : List World.Action) : Nat := as.countP World.Action.isTick

/-- Each tick looks at the sync input once. -/
theorem pins_length (pin : Bool) (as : List World.Action) : (pins pin as).length = ticks as := by
  induction as generalizing pin with
  | nil => rfl
  | cons a as ih =>
      cases a with
      | tick io =>
          rw [pins, ticks, List.length_cons, List.countP_cons_of_pos rfl, ih, ticks]
      | environment cablePin syncPin link => exact ih syncPin
      | _ => exact ih pin

namespace World

/-- A bulb that is started on the next tick is closed when it is to be: after as many
    ticks as it is long, and after one if it is shorter. -/
def PlainTimed (w : World) (io : Io) : Prop :=
  ∀ as v, Path step Timing (w.count io) as v →
    ((w.count io).Closed v ↔ max 1 (plainLength w.conf w.clock.bulbDuration) ≤ ticks as)

/-- A bulb that has been asked for, and PC-sync is not used, or its input is closed
    before the bulb is started. -/
structure Plain (w : World) : Prop where
  newBulb : w.clock.newBulb = true
  frames : w.frames = []
  word : w.clock.bulbDuration < 4294967296
  offset : w.conf.camera.bulbOffset < 65536
  unsynced : ¬ (w.conf.auxPort = .sync ∧ w.syncPin = false)

theorem Plain.starting_sync {w : World} (h : w.Plain) :
    w.starting.clock.bulbDurationPCsync = 0 := by
  rw [starting_eq]
  exact if_neg fun hsync => h.unsynced ⟨hsync.1, hsync.2.1⟩

/-- A bulb is started with its length as a word. -/
theorem Plain.starting_duration {w : World} (h : w.Plain) :
    (w.starting.finishStart.clock.bulbDuration : Int) =
      plainLength w.conf w.clock.bulbDuration % 4294967296 := by
  have hword := h.word
  -- The length that was asked for comes to the offset as it is.
  have hkept : w.starting.clock.bulbDuration = w.clock.bulbDuration := by
    rw [starting_eq]
    exact if_neg fun hsync => h.unsynced ⟨hsync.1, hsync.2.1⟩
  have hconf : w.starting.conf = w.conf := by
    rw [starting_eq]
    rfl
  simp only [finishStart, plainLength, hkept, hconf]
  cases w.conf.camera.negBulbOffset with
  | false =>
      simp only [Bool.false_eq_true, if_false, u32]
      omega
  | true =>
      simp only [if_true, sub32, u32]
      omega

/-- The length is right if it is one that can be counted down. -/
theorem Plain.startLength_eq {w : World} (h : w.Plain) :
    (w.startLength : Int) = max 1 (plainLength w.conf w.clock.bulbDuration) ↔
      1 ≤ plainLength w.conf w.clock.bulbDuration ∧
        plainLength w.conf w.clock.bulbDuration ≤ 4294967296 := by
  have hduration := h.starting_duration
  -- The sum wraps around at most once, since an offset is half a word.
  have hbounds : -(65536 : Int) < plainLength w.conf w.clock.bulbDuration ∧
      plainLength w.conf w.clock.bulbDuration < 4294967296 + 65536 := by
    have hword := h.word
    have hoffset := h.offset
    unfold plainLength
    split
    · omega
    · omega
  unfold startLength lasts
  split
  · omega
  · omega

/-- The tick that starts the bulb is number zero, when it does not itself advance the
    clock. -/
theorem Plain.timed {w v : World} (h : w.Plain) (htick : w.Ticked v) (hstart : v.frames = []) :
    Timed v w.startLength 0 [] v := by
  cases htick with
  | sendsStart v => exact absurd hstart (List.cons_ne_nil _ _)
  | starts v hnew hv =>
      refine timed_started hstart ?_ (hv.steady.bulbDurationPCsync.trans h.starting_sync) rfl
      rw [hv.steady.finishStart_duration]
      rfl
  | sendsStop _ hnew => exact absurd (h.newBulb.symm.trans hnew) Bool.noConfusion
  | ends _ hnew => exact absurd (h.newBulb.symm.trans hnew) Bool.noConfusion
  | syncs hnew => exact absurd (h.newBulb.symm.trans hnew) Bool.noConfusion
  | services hnew => exact absurd (h.newBulb.symm.trans hnew) Bool.noConfusion

/-- The bulb is closed as soon as there have been as many ticks as the length it was
    started with. -/
theorem Plain.closed_iff {w v : World} {io : Io} {as : List Action} (h : w.Plain)
    (hstart : (w.count io).frames = []) (hpath : Path step Timing (w.count io) as v) :
    (w.count io).Closed v ↔ w.startLength ≤ ticks as := by
  have hclosed := path_closed (by omega) (lasts_pos _) (h.timed (w.count_ticked io) hstart) hpath
  -- With no length for the time after the input has closed, it is not looked at.
  unfold codeAt at hclosed
  rw [if_pos rfl, List.nil_append, pins_length, Nat.cast_le] at hclosed
  exact hclosed

/-- Ticks can come for as long as one likes. -/
theorem exists_ticks {w : World} (hnew : w.clock.newBulb = false) (n : Nat) :
    ∃ as v, Path step Timing w as v ∧ ticks as = n := by
  rcases World.exists_path hnew (List.replicate n false) with ⟨as, v, hpath, hpins⟩
  refine ⟨as, v, hpath, ?_⟩
  rw [← pins_length w.syncPin as, hpins, List.length_replicate]

theorem Plain.started {w : World} (h : w.Plain) {io : Io} (hstart : (w.count io).frames = []) :
    (w.count io).clock.newBulb = false := by
  have htick := w.count_ticked io
  revert htick hstart
  generalize w.count io = v
  intro hstart htick
  cases h.timed htick hstart with
  | sending _ n hframes => exact absurd (hstart.symm.trans hframes) (List.cons_ne_nil _ _).symm
  | running _ _ _ hnew => exact hnew
  | closed _ _ _ hclosed => exact absurd hclosed (Nat.lt_irrefl _)

end World

/-- A bulb without PC-sync is closed when it is to be exactly when its length can be
    counted down. -/
theorem plainTimed_iff (w : World) (io : Io) (h : w.Plain) (hstart : (w.count io).frames = []) :
    w.PlainTimed io ↔ 1 ≤ plainLength w.conf w.clock.bulbDuration ∧
      plainLength w.conf w.clock.bulbDuration ≤ 4294967296 := by
  rw [← h.startLength_eq]
  constructor
  · intro htime
    -- After any number of ticks the bulb is closed by one count just when it is by the other.
    have hagree : ∀ n : Nat, w.startLength ≤ n ↔
        max 1 (plainLength w.conf w.clock.bulbDuration) ≤ (n : Int) := by
      intro n
      rcases World.exists_ticks (h.started hstart) n with ⟨as, v, hpath, hticks⟩
      have hclosed := h.closed_iff hstart hpath
      have hdue := htime as v hpath
      rw [hticks] at hclosed hdue
      exact hclosed.symm.trans hdue
    have hown := (hagree w.startLength).mp (le_refl _)
    have hdue := (hagree (max 1 (plainLength w.conf w.clock.bulbDuration)).toNat).mpr (by omega)
    omega
  · intro hlength as v hpath
    rw [h.closed_iff hstart hpath, ← hlength, Nat.cast_le]

/-- An exposure of a tenth of a second on the cable, closed when it is to be. -/
theorem plainTimed_cable : ((World.idle cableSettings 0 .none).bulb 100).PlainTimed .ok := by
  refine (plainTimed_iff _ .ok ⟨rfl, rfl, ?_, ?_, ?_⟩ ?_).mpr ?_
  · decide
  · decide
  · decide
  · rfl
  · decide

/-- An exposure of 75 ms, and a negative offset of as many: one tick later the bulb
    is open, and it is for weeks. -/
theorem plain_weeks : ∃ w : World, w.Plain ∧ (w.count .ok).frames = [] ∧ ¬ w.PlainTimed .ok := by
  refine ⟨(World.idle { cableSettings with camera.negBulbOffset := true } 0 .none).bulb 75,
    ⟨rfl, rfl, ?_, ?_, ?_⟩, ?_, ?_⟩
  · decide
  · decide
  · decide
  · rfl
  · intro htime
    have hallowed : allowed World.step World.Timing
        (((World.idle { cableSettings with camera.negBulbOffset := true } 0 .none).bulb 75).count
          .ok) [.tick .ok] = true := rfl
    have hopen : (steps World.step
        (((World.idle { cableSettings with camera.negBulbOffset := true } 0 .none).bulb 75).count
          .ok) [.tick .ok]).map (fun v => v.log.count .bulbEnd) = some 0 := rfl
    rcases path_of_allowed _ hallowed with ⟨v, hsteps, hpath⟩
    rw [hsteps, Option.map_some, Option.some.injEq] at hopen
    have hclosed := (htime _ v hpath).mpr (by decide)
    unfold World.Closed at hclosed
    omega

end Shutter

end TimelapsePlus
