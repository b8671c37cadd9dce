import TimelapsePlus.Shutter.Ticks

/-!
# Each Exposure Once

An exposure that is asked for with `Clock::bulb` should enter
`shutter_bulbStartQuick` once, have the offset applied to its length once, and
enter `shutter_bulbEndQuick` once, in that order, unless it is cancelled.
`progress` is this as a monitor of the log.

The clock keeps no more than two flags of it. `newBulb` is cleared only when
`shutter_bulbStartQuick` has returned, and an infrared code is sent from inside
that function, with ticks going on; so each of those ticks starts the bulb
again. `bulbRunning` is likewise cleared last, but the length has become zero
before the code that ends a bulb is sent and wraps around on the next tick,
which is why nothing goes wrong there unless the sync input gives it a new one.

## Main definitions

* `Progress`, `progress`: How far the exposure asked for last has come.
* `World.Once`: No exposure is started, given its offset, or ended out of turn.
* `World.Single`: The steps that keep exposures apart.
* `World.Exposing`: How the clock relates to the log.
* `World.waits`: How many ticks an exposure has to go at most.

## Theorems

* `step_exposing`: One step.
* `path_settled`: An exposure comes to its end.
* `run_once`: Every run whose steps keep exposures apart.
* `step_not_once`: A step that does not breaks the exposure.
* `nested_start`: A bulb opened by infrared is started again.
-/

namespace TimelapsePlus

namespace Shutter

open Word

/-- How far the exposure asked for last has come. -/
inductive Progress
  | none
  | asked
  | started
  | exposing
  | ended
  | wrong
deriving Repr, DecidableEq

/-- What an event means for the exposure. -/
def Progress.next (p : Progress) : Event → Progress
  | .bulb _ => if p = .none ∨ p = .ended then .asked else .wrong
  | .cancelled => if p = .wrong then .wrong else .none
  | .bulbStart => if p = .asked then .started else .wrong
  | .offset => if p = .started then .exposing else .wrong
  | .bulbEnd => if p = .exposing then .ended else .wrong
  | _ => p

/-- How far the exposure has come, by the log. -/
def progress : List Event → Progress
  | [] => .none
  | e :: es => (progress es).next e

theorem progress_append {es : List Event} (h : ∀ e ∈ es, ¬ e.Exposure) (log : List Event) :
    progress (es ++ log) = progress log := by
  induction es with
  | nil => rfl
  | cons e es ih =>
      have he := h e List.mem_cons_self
      rw [List.cons_append, progress, ih fun e' he' => h e' (List.mem_cons_of_mem e he')]
      cases e <;> first | rfl | exact absurd trivial he

theorem progress_cons_wrong {log : List Event} (h : progress log = .wrong) (e : Event) :
    progress (e :: log) = .wrong := by
  rw [progress, h]
  cases e <;> rfl

namespace World

theorem Steady.progress {w v : World} (h : w.Steady v) : progress v.log = progress w.log := by
  rcases h.log with ⟨es, hes, hnot⟩
  rw [hes]
  exact progress_append hnot w.log

/-- The clock is timing nothing. -/
def AtRest (w : World) : Prop :=
  w.clock.newBulb = false ∧ w.clock.bulbRunning = false ∧ w.frames = []

/-- No exposure has been started, given its offset, or ended out of turn, and
    none is left unfinished by a clock at rest. -/
def Once (w : World) : Prop :=
  progress w.log ≠ .wrong ∧ (w.AtRest → progress w.log = .none ∨ progress w.log = .ended)

/-- A step keeps exposures apart: no tick starts or ends a bulb while an infrared
    code is being sent, and no bulb is asked for while one is being timed. -/
def Single (w : World) : Action → Prop
  | .tick _ => w.frames ≠ [] → w.clock.newBulb = false ∧
      ¬ (w.clock.bulbRunning = true ∧ sub32 w.clock.bulbDuration 1 = 0)
  | .bulb _ => w.clock.newBulb = false ∧ w.clock.bulbRunning = false
  | _ => True

instance (w : World) (a : Action) : Decidable (w.Single a) :=
  match a with
  | .tick _ => inferInstanceAs (Decidable (_ → _ ∧ ¬ (_ ∧ _)))
  | .bulb _ => inferInstanceAs (Decidable (_ ∧ _))
  | .resume | .callIn _ _ | .cancelBulb | .environment _ _ _ => .isTrue trivial

/-- How the flags of the clock relate to the exposure. -/
inductive Phase : Bool → Bool → List Frame → Progress → Prop
  | rest (p : Progress) (h : p = .none ∨ p = .ended) : Phase false false [] p
  | asked : Phase true false [] .asked
  | sendsStart (n : Nat) : Phase true false [⟨.start, n⟩] .started
  | exposing : Phase false true [] .exposing
  | sendsStop (n : Nat) : Phase false true [⟨.stop, n⟩] .ended

/-- How the clock relates to the log, and that its lengths fit. -/
structure Exposing (w : World) : Prop where
  phase : Phase w.clock.newBulb w.clock.bulbRunning w.frames (progress w.log)
  duration : w.clock.bulbDuration < 4294967296
  sync : w.clock.bulbDurationPCsync < 4294967296

theorem Phase.once {newBulb running : Bool} {frames : List Frame} {p : Progress}
    (h : Phase newBulb running frames p) :
    p ≠ .wrong ∧ (newBulb = false ∧ running = false ∧ frames = [] → p = .none ∨ p = .ended) := by
  cases h with
  | rest p hp =>
      refine ⟨fun hwrong => ?_, fun _ => hp⟩
      rw [hwrong] at hp
      exact hp.elim (fun h => Progress.noConfusion h) (fun h => Progress.noConfusion h)
  | asked => exact ⟨fun h => Progress.noConfusion h, fun h => Bool.noConfusion h.1⟩
  | sendsStart n => exact ⟨fun h => Progress.noConfusion h, fun h => Bool.noConfusion h.1⟩
  | exposing => exact ⟨fun h => Progress.noConfusion h, fun h => Bool.noConfusion h.2.1⟩
  | sendsStop n => exact ⟨fun h => Progress.noConfusion h, fun h => Bool.noConfusion h.2.1⟩

theorem Exposing.once {w : World} (h : w.Exposing) : w.Once := h.phase.once

/-- What leaves the exposure alone leaves its phase alone. -/
theorem Exposing.steady {w v : World} (h : w.Exposing) (hv : w.Steady v) : v.Exposing := by
  refine ⟨?_, ?_, ?_⟩
  · rw [hv.newBulb, hv.bulbRunning, hv.frames, hv.progress]
    exact h.phase
  · rw [hv.bulbDuration]
    exact h.duration
  · rw [hv.bulbDurationPCsync]
    exact h.sync

theorem starting_progress {w : World} (h : progress w.log = .asked) :
    progress w.starting.log = .started := by
  rw [starting_eq, progress, progress, h]
  rfl

theorem ending_progress {w : World} (h : progress w.log = .exposing) :
    progress w.ending.log = .ended := by
  have hlog : w.ending.log = .bulbEnd :: .skipped :: w.log := rfl
  rw [hlog, progress, progress, h]
  rfl

theorem finishStart_exposing {w : World} (hframes : w.frames = [])
    (hsync : w.clock.bulbDurationPCsync < 4294967296) (hp : progress w.log = .started) :
    w.finishStart.leave.Exposing := by
  refine ⟨?_, ?_, hsync⟩
  · have hnext : progress w.finishStart.leave.log = .exposing := by
      simp only [leave, finishStart, progress, hp]
      rfl
    rw [hnext]
    simp only [leave, finishStart, hframes]
    exact .exposing
  · simp only [leave, finishStart]
    split
    · exact u32_lt _
    · exact u32_lt _

theorem finishEnd_exposing {w : World} (hnew : w.clock.newBulb = false) (hframes : w.frames = [])
    (hduration : w.clock.bulbDuration < 4294967296)
    (hsync : w.clock.bulbDurationPCsync < 4294967296) (hp : progress w.log = .ended) :
    w.finishEnd.leave.Exposing := by
  refine ⟨?_, hduration, hsync⟩
  simp only [leave, finishEnd, hnew, hframes, hp]
  exact .rest _ (Or.inr rfl)

/-- A tick finds the frames as they were, but for the count of the last one. -/
theorem enter_exposing {w : World} (h : w.Exposing) : w.enter.Exposing := by
  refine ⟨?_, h.duration, h.sync⟩
  have hphase := h.phase
  simp only [enter]
  revert hphase
  generalize w.clock.newBulb = newBulb, w.clock.bulbRunning = running, w.frames = frames,
    progress w.log = p
  intro hphase
  cases hphase with
  | rest p hp => exact .rest p hp
  | asked => exact .asked
  | sendsStart n => exact .sendsStart (n - 1)
  | exposing => exact .exposing
  | sendsStop n => exact .sendsStop (n - 1)

theorem syncTick_exposing {w : World} (h : w.Exposing) : w.syncTick.leave.Exposing := by
  refine ⟨h.phase, h.sync, ?_⟩
  simp only [leave, syncTick]
  omega

theorem Exposing.setDuration {w : World} (h : w.Exposing) {d : Nat} (hd : d < 4294967296) :
    { w with clock.bulbDuration := d }.Exposing :=
  ⟨h.phase, hd, h.sync⟩

theorem passing_exposing {w : World} (h : w.Exposing) : w.passing.Exposing := by
  have henter := enter_exposing h
  unfold passing
  split
  · exact henter.setDuration (sub32_lt _ _)
  · exact henter

theorem leave_exposing {w : World} (h : w.Exposing) : w.leave.Exposing :=
  ⟨h.phase, h.duration, h.sync⟩

/-- Nothing is being sent when a bulb that has been asked for is not started. -/
theorem Exposing.asked {w : World} (h : w.Exposing) (hnew : w.clock.newBulb = true)
    (hframes : w.frames = []) : progress w.log = .asked ∧ w.clock.bulbRunning = false := by
  have hphase := h.phase
  rw [hnew, hframes] at hphase
  revert hphase
  generalize w.clock.bulbRunning = running, progress w.log = p
  intro hphase
  cases hphase
  exact ⟨rfl, rfl⟩

/-- Nothing is being sent when a bulb is running that is not ended. -/
theorem Exposing.exposing {w : World} (h : w.Exposing) (hrun : w.clock.bulbRunning = true)
    (hframes : w.frames = []) : progress w.log = .exposing := by
  have hphase := h.phase
  rw [hrun, hframes] at hphase
  revert hphase
  generalize w.clock.newBulb = newBulb, progress w.log = p
  intro hphase
  cases hphase
  rfl

/-- A tick that keeps exposures apart. -/
theorem Ticked.exposing {w v : World} (htick : w.Ticked v) (h : w.Exposing) {io : Io}
    (hsingle : w.Single (.tick io)) : v.Exposing := by
  -- A tick that starts or ends a bulb is not sent from inside another.
  have hstart : w.clock.newBulb = true → w.frames = [] := by
    intro hnew
    by_contra hframes
    rw [(hsingle hframes).1] at hnew
    exact Bool.noConfusion hnew
  have hend : w.clock.bulbRunning = true → sub32 w.clock.bulbDuration 1 = 0 → w.frames = [] := by
    intro hrun hzero
    by_contra hframes
    exact (hsingle hframes).2 ⟨hrun, hzero⟩
  have henter : w.frames = [] → w.enter.frames = [] := by
    intro hframes
    simp only [enter, hframes]
  cases htick with
  | sendsStart v hnew _ _ hv =>
      rcases h.asked hnew (hstart hnew) with ⟨hasked, hrun⟩
      have hwords := starting_words h.duration
      have hp := hv.steady.progress.trans (starting_progress hasked)
      have hframes : v.frames = [] := by
        rw [hv.frames, starting_eq]
        exact henter (hstart hnew)
      have hflags : v.clock.newBulb = true ∧ v.clock.bulbRunning = false := by
        rw [hv.steady.newBulb, hv.steady.bulbRunning, starting_eq]
        exact ⟨hnew, hrun⟩
      refine ⟨?_, ?_, ?_⟩
      · simp only [leave, hflags.1, hflags.2, hframes, hp]
        exact .sendsStart _
      · exact Eq.trans_lt hv.steady.bulbDuration hwords.1
      · exact Eq.trans_lt hv.steady.bulbDurationPCsync hwords.2
  | starts v hnew hv =>
      rcases h.asked hnew (hstart hnew) with ⟨hasked, _⟩
      refine finishStart_exposing ?_ ?_ (hv.steady.progress.trans (starting_progress hasked))
      · rw [hv.frames, starting_eq]
        exact henter (hstart hnew)
      · rw [hv.steady.bulbDurationPCsync]
        exact (starting_words h.duration).2
  | sendsStop v hnew hrun hzero hv =>
      have hp := hv.steady.progress.trans (ending_progress (h.exposing hrun (hend hrun hzero)))
      have hframes : v.frames = [] := hv.frames.trans (henter (hend hrun hzero))
      have hflags : v.clock.newBulb = false ∧ v.clock.bulbRunning = true :=
        ⟨hv.steady.newBulb.trans hnew, hv.steady.bulbRunning.trans hrun⟩
      refine ⟨?_, ?_, ?_⟩
      · simp only [leave, hflags.1, hflags.2, hframes, hp]
        exact .sendsStop _
      · exact Eq.trans_lt hv.steady.bulbDuration (by simp only [ending, note]; omega)
      · exact Eq.trans_lt hv.steady.bulbDurationPCsync h.sync
  | ends v hnew hrun hzero hv =>
      refine finishEnd_exposing (hv.steady.newBulb.trans hnew)
        (hv.frames.trans (henter (hend hrun hzero))) ?_ ?_
        (hv.steady.progress.trans (ending_progress (h.exposing hrun (hend hrun hzero))))
      · exact Eq.trans_lt hv.steady.bulbDuration (by simp only [ending, note]; omega)
      · exact Eq.trans_lt hv.steady.bulbDurationPCsync h.sync
  | syncs => exact syncTick_exposing (enter_exposing h)
  | services => exact leave_exposing ((passing_exposing h).steady w.passing_steady)

/-- The rest of a tick that has sent an infrared code. -/
theorem Resumed.exposing {w u : World} {kind : FrameKind} {left : Nat} {fs : List Frame}
    (hresumed : w.Resumed fs kind u) (h : w.Exposing) (hframes : w.frames = ⟨kind, left⟩ :: fs) :
    u.Exposing := by
  have hphase := h.phase
  have hduration := h.duration
  have hsync := h.sync
  revert hphase
  rw [hframes]
  generalize hnew : w.clock.newBulb = newBulb, w.clock.bulbRunning = running,
    hp : progress w.log = p
  intro hphase
  cases hphase with
  | sendsStart n =>
      cases hresumed with
      | start v hv =>
          refine finishStart_exposing hv.frames ?_ (hv.steady.progress.trans hp)
          exact Eq.trans_lt hv.steady.bulbDurationPCsync hsync
  | sendsStop n =>
      cases hresumed with
      | stop v hv =>
          refine finishEnd_exposing (hv.steady.newBulb.trans hnew) hv.frames ?_ ?_
            (hv.steady.progress.trans hp)
          · exact Eq.trans_lt hv.steady.bulbDuration hduration
          · exact Eq.trans_lt hv.steady.bulbDurationPCsync hsync

theorem bulb_exposing {w : World} (h : w.Exposing) (duration : Nat) (hframes : w.frames = [])
    (hrest : w.clock.newBulb = false ∧ w.clock.bulbRunning = false) :
    (w.bulb duration).Exposing := by
  refine ⟨?_, u32_lt _, h.sync⟩
  -- The exposure before this one has ended or was cancelled.
  rcases h.once.2 ⟨hrest.1, hrest.2, hframes⟩ with hp | hp
  · simp only [bulb, hframes, progress, hp]
    exact .asked
  · simp only [bulb, hframes, progress, hp]
    exact .asked

theorem cancelBulb_progress {w : World} (h : w.Exposing) : progress w.cancelBulb.log = .none := by
  simp only [cancelBulb, progress, Progress.next]
  rw [if_neg h.once.1]

theorem cancelBulb_exposing {w : World} (h : w.Exposing) (hframes : w.frames = []) :
    w.cancelBulb.Exposing := by
  refine ⟨?_, ?_, h.sync⟩
  · rw [cancelBulb_progress h]
    simp only [cancelBulb, hframes]
    exact .rest _ (Or.inl rfl)
  · simp only [cancelBulb]
    omega

/-- A step that keeps exposures apart. -/
theorem step_exposing {w v : World} (a : Action) (h : w.Exposing) (hsingle : w.Single a)
    (hstep : w.step a = some v) : v.Exposing := by
  cases step_stepped hstep with
  | tick htick => exact htick.exposing h hsingle
  | resume hframes hresumed => exact hresumed.exposing h hframes
  | callIn => exact h.steady (w.callIn_steady _ _)
  | bulb hframes => exact bulb_exposing h _ hframes hsingle
  | cancelBulb hframes => exact cancelBulb_exposing h hframes
  | environment cablePin syncPin link => exact ⟨h.phase, h.duration, h.sync⟩

theorem idle_exposing (conf : Settings) (irTicks : Nat) (link : Link) :
    (idle conf irTicks link).Exposing := by
  refine ⟨.rest _ (Or.inl rfl), ?_, ?_⟩
  · simp only [idle, Clock.reset]
    omega
  · simp only [idle, Clock.reset]
    omega

/-- The exposure asked for last has ended, or was cancelled, or there was none. -/
def Settled (w : World) : Prop := progress w.log = .none ∨ progress w.log = .ended

/-- How many ticks a length that is counted down has to go. -/
def lasts (duration : Nat) : Nat := if duration = 0 then 4294967296 else duration

/-- How many ticks an exposure has to go at most. The sync input may give it a
    new length, once. -/
def waits (w : World) : Nat :=
  if w.clock.newBulb then (if w.frames = [] then 8589934594 else 8589934593)
  else (if w.clock.bulbDurationPCsync = 0 then 0 else 4294967296) + lasts w.clock.bulbDuration

theorem lasts_le {duration : Nat} (h : duration < 4294967296) : lasts duration ≤ 4294967296 := by
  unfold lasts
  split <;> omega

theorem lasts_sub {duration : Nat} (h : duration < 4294967296) (hend : sub32 duration 1 ≠ 0) :
    lasts (sub32 duration 1) + 1 = lasts duration := by
  unfold lasts
  rw [if_neg hend]
  by_cases hzero : duration = 0
  · rw [if_pos hzero, hzero]
    decide
  · rw [if_neg hzero, sub32_of_le h (by omega)]
    omega

/-- A bulb that is running has no longer to go than two lengths. -/
theorem Exposing.waits_le {w : World} (h : w.Exposing) (hnew : w.clock.newBulb = false) :
    w.waits ≤ 8589934592 := by
  have hlasts := lasts_le h.duration
  unfold waits
  rw [hnew]
  simp only [Bool.false_eq_true, if_false]
  split <;> omega

/-- An exposure that is neither asked for nor running has ended. -/
theorem Exposing.settled {w : World} (h : w.Exposing) (hnew : w.clock.newBulb = false)
    (hrun : w.clock.bulbRunning = false) : w.Settled := by
  have hphase := h.phase
  rw [hnew, hrun] at hphase
  revert hphase
  unfold Settled
  generalize w.frames = frames, progress w.log = p
  intro hphase
  cases hphase with
  | rest p hp => exact hp

theorem Steady.waits {w v : World} (h : w.Steady v) : v.waits = w.waits := by
  unfold World.waits
  rw [h.newBulb, h.frames, h.bulbDuration, h.bulbDurationPCsync]

/-- A tick brings an exposure closer to its end. -/
theorem Ticked.waits {w v : World} (htick : w.Ticked v) (h : w.Exposing) {io : Io}
    (hsingle : w.Single (.tick io)) : v.Settled ∨ v.waits + 1 ≤ w.waits := by
  have hv := htick.exposing h hsingle
  cases htick with
  | sendsStart v hnew _ _ hsteady =>
      -- No code is being sent, for the tick would not be allowed.
      have hframes : w.frames = [] := by
        by_contra hframes
        rw [(hsingle hframes).1] at hnew
        exact Bool.noConfusion hnew
      have hnew' : v.clock.newBulb = true := by
        rw [hsteady.steady.newBulb, starting_eq]
        exact hnew
      refine Or.inr ?_
      unfold World.waits
      simp only [leave, hnew, hnew', hframes, if_true, reduceCtorEq, if_false]
      omega
  | starts v hnew hsteady =>
      have hle := hv.waits_le rfl
      have hw : 8589934593 ≤ w.waits := by
        unfold World.waits
        rw [if_pos hnew]
        split <;> omega
      exact Or.inr (by omega)
  | sendsStop v hnew hrun hend hsteady =>
      have hframes : w.frames = [] := by
        by_contra hframes
        exact (hsingle hframes).2 ⟨hrun, hend⟩
      exact Or.inl (Or.inr
        (hsteady.steady.progress.trans (ending_progress (h.exposing hrun hframes))))
  | ends v hnew hrun hend hsteady =>
      have hframes : w.frames = [] := by
        by_contra hframes
        exact (hsingle hframes).2 ⟨hrun, hend⟩
      exact Or.inl (Or.inr
        (hsteady.steady.progress.trans (ending_progress (h.exposing hrun hframes))))
  | syncs hnew hrun hend harmed hpin =>
      -- The new length is the last one the sync input gives.
      have hlt := h.sync
      have hpos : 0 < lasts w.clock.bulbDuration := by
        unfold lasts
        split <;> omega
      refine Or.inr ?_
      unfold World.waits
      simp only [leave, syncTick, enter, hnew, Bool.false_eq_true, if_false, if_true, harmed]
      rw [lasts, if_neg harmed]
      omega
  | services hnew hrun =>
      have hsteady := w.passing_steady
      generalize w.passing.service = u at hsteady ⊢
      by_cases hrunning : w.clock.bulbRunning = true
      · have hlasts := lasts_sub h.duration (hrun hrunning).1
        refine Or.inr ?_
        have hpassing : u.leave.waits = w.passing.waits := hsteady.waits
        rw [hpassing, passing, if_pos hrunning]
        unfold World.waits
        simp only [enter, hnew, Bool.false_eq_true, if_false]
        omega
      · rw [Bool.not_eq_true] at hrunning
        have hsettled := h.settled hnew hrunning
        have hp : progress u.leave.log = progress w.log := by
          refine hsteady.progress.trans ?_
          rw [w.passing_log]
        refine Or.inl ?_
        unfold Settled
        rw [hp]
        exact hsettled

/-- The rest of a tick brings an exposure closer to its end. -/
theorem Resumed.waits {w u : World} {kind : FrameKind} {left : Nat} {fs : List Frame}
    (hresumed : w.Resumed fs kind u) (h : w.Exposing) (hframes : w.frames = ⟨kind, left⟩ :: fs) :
    u.Settled ∨ u.waits + 1 ≤ w.waits := by
  have hu := hresumed.exposing h hframes
  have hphase := h.phase
  revert hphase
  rw [hframes]
  generalize hnew : w.clock.newBulb = newBulb, w.clock.bulbRunning = running,
    hp : progress w.log = p
  intro hphase
  cases hphase with
  | sendsStart n =>
      cases hresumed with
      | start v hv =>
          have hle := hu.waits_le rfl
          have hw : w.waits = 8589934593 := by
            unfold World.waits
            rw [if_pos hnew, hframes, if_neg (List.cons_ne_nil _ _)]
          exact Or.inr (by omega)
  | sendsStop n =>
      cases hresumed with
      | stop v hv => exact Or.inl (Or.inr (hv.steady.progress.trans hp))

/-- Exposures are kept apart, and none is asked for. -/
def Undisturbed (w : World) (a : Action) : Prop := w.Single a ∧ ∀ duration, a ≠ .bulb duration

/-- A step brings an exposure closer to its end, or leaves it where it is. -/
theorem step_waits {w v : World} (a : Action) (h : w.Exposing) (hok : w.Undisturbed a)
    (hstep : w.step a = some v) :
    v.Settled ∨ v.waits + (if a.passes then 1 else 0) ≤ w.waits := by
  cases step_stepped hstep with
  | tick htick => exact htick.waits h hok.1
  | resume hframes hresumed => exact hresumed.waits h hframes
  | callIn => exact Or.inr (Nat.le_of_eq (w.callIn_steady _ _).waits)
  | bulb => exact absurd rfl (hok.2 _)
  | cancelBulb => exact Or.inl (Or.inl (cancelBulb_progress h))
  | environment cablePin syncPin link => exact Or.inr (Nat.le_refl _)

theorem Settled.of_progress {w v : World} (h : w.Settled)
    (hp : progress v.log = progress w.log) : v.Settled := by
  unfold Settled
  rw [hp]
  exact h

/-- A tick leaves an exposure that has ended alone. -/
theorem Ticked.settled {w v : World} (htick : w.Ticked v) (h : w.Exposing) {io : Io}
    (hsingle : w.Single (.tick io)) (hsettled : w.Settled) : v.Settled := by
  have hnone : w.clock.newBulb = true → False := by
    intro hnew
    have hframes : w.frames = [] := by
      by_contra hframes
      rw [(hsingle hframes).1] at hnew
      exact Bool.noConfusion hnew
    unfold Settled at hsettled
    rw [(h.asked hnew hframes).1] at hsettled
    exact hsettled.elim (fun h => Progress.noConfusion h) (fun h => Progress.noConfusion h)
  have hrunning : w.clock.bulbRunning = true → sub32 w.clock.bulbDuration 1 = 0 → False := by
    intro hrun hend
    have hframes : w.frames = [] := by
      by_contra hframes
      exact (hsingle hframes).2 ⟨hrun, hend⟩
    unfold Settled at hsettled
    rw [h.exposing hrun hframes] at hsettled
    exact hsettled.elim (fun h => Progress.noConfusion h) (fun h => Progress.noConfusion h)
  cases htick with
  | sendsStart v hnew _ _ => exact absurd hnew hnone
  | starts v hnew => exact absurd hnew hnone
  | sendsStop v hnew hrun hend => exact absurd hend (hrunning hrun)
  | ends v hnew hrun hend => exact absurd hend (hrunning hrun)
  | syncs => exact hsettled
  | services =>
      have hsteady := w.passing_steady
      generalize w.passing.service = u at hsteady ⊢
      refine hsettled.of_progress (hsteady.progress.trans ?_)
      rw [w.passing_log]

/-- The rest of a tick leaves an exposure that has ended alone. -/
theorem Resumed.settled {w u : World} {kind : FrameKind} {left : Nat} {fs : List Frame}
    (hresumed : w.Resumed fs kind u) (h : w.Exposing) (hframes : w.frames = ⟨kind, left⟩ :: fs)
    (hsettled : w.Settled) : u.Settled := by
  have hphase := h.phase
  unfold Settled at hsettled
  revert hphase hsettled
  rw [hframes]
  generalize w.clock.newBulb = newBulb, w.clock.bulbRunning = running, hp : progress w.log = p
  intro hsettled hphase
  cases hphase with
  | sendsStart n =>
      exact hsettled.elim (fun h => Progress.noConfusion h) (fun h => Progress.noConfusion h)
  | sendsStop n =>
      cases hresumed with
      | stop v hv => exact Or.inr (hv.steady.progress.trans hp)

/-- An exposure that has ended stays so until the next is asked for. -/
theorem step_settled {w v : World} (a : Action) (h : w.Exposing) (hok : w.Undisturbed a)
    (hsettled : w.Settled) (hstep : w.step a = some v) : v.Settled := by
  cases step_stepped hstep with
  | tick htick => exact htick.settled h hok.1 hsettled
  | resume hframes hresumed => exact hresumed.settled h hframes hsettled
  | callIn => exact hsettled.of_progress (w.callIn_steady _ _).progress
  | bulb => exact absurd rfl (hok.2 _)
  | cancelBulb => exact Or.inl (cancelBulb_progress h)
  | environment cablePin syncPin link => exact hsettled

/-- An exposure ends after so many ticks, whatever else happens on the way. -/
theorem path_settled {w v : World} {as : List Action} (h : w.Exposing)
    (hpath : Path World.step World.Undisturbed w as v)
    (hlong : 8589934594 < as.countP Action.passes) : v.Settled := by
  refine hpath.reaches World.Exposing World.Settled World.waits Action.passes (fun _ => 0)
    (fun _ a _ hinv hok hstep => step_exposing a hinv hok.1 hstep)
    (fun _ a _ hinv hdone hok hstep => step_settled a hinv hok hdone hstep)
    (fun _ a _ hinv _ hok hstep => step_waits a hinv hok hstep) h (Or.inr ?_)
  rw [List.map_const', List.sum_replicate_nat, Nat.mul_zero, Nat.add_zero]
  by_cases hnew : w.clock.newBulb = true
  · unfold World.waits
    rw [if_pos hnew]
    split <;> omega
  · have hle := h.waits_le (Bool.eq_false_iff.mpr hnew)
    omega

/-- A bulb is started that has been started already. -/
theorem starting_wrong {w : World} (h : progress w.log = .started) :
    progress w.starting.log = .wrong := by
  rw [starting_eq, progress, progress, h]
  rfl

/-- A bulb is ended that has been ended already. -/
theorem ending_wrong {w : World} (h : progress w.log = .ended) :
    progress w.ending.log = .wrong := by
  have hlog : w.ending.log = .bulbEnd :: .skipped :: w.log := rfl
  rw [hlog, progress, progress, h]
  rfl

/-- A tick inside another that starts or ends a bulb does so out of turn. -/
theorem Ticked.wrong {w v : World} (htick : w.Ticked v) (h : w.Exposing) {io : Io}
    (hnot : ¬ w.Single (.tick io)) : progress v.log = .wrong := by
  have hphase := h.phase
  have hsending : w.frames ≠ [] := fun hframes => hnot fun hne => absurd hframes hne
  have hflags : w.clock.newBulb = false →
      w.clock.bulbRunning = true ∧ sub32 w.clock.bulbDuration 1 = 0 := by
    intro hnew
    by_contra hend
    exact hnot fun _ => ⟨hnew, hend⟩
  -- Which code is being sent says what the tick is doing a second time.
  have hstarted : w.clock.newBulb = true → progress w.log = .started := by
    intro hnew
    rw [hnew] at hphase
    revert hphase hsending
    generalize w.clock.bulbRunning = running, w.frames = frames, progress w.log = p
    intro hphase hsending
    cases hphase with
    | asked => exact absurd rfl hsending
    | sendsStart n => rfl
  have hended : w.clock.newBulb = false → progress w.log = .ended := by
    intro hnew
    rw [hnew, (hflags hnew).1] at hphase
    revert hphase hsending
    generalize w.frames = frames, progress w.log = p
    intro hphase hsending
    cases hphase with
    | exposing => exact absurd rfl hsending
    | sendsStop n => rfl
  cases htick with
  | sendsStart v hnew _ _ hv => exact hv.steady.progress.trans (starting_wrong (hstarted hnew))
  | starts v hnew hv =>
      exact progress_cons_wrong (hv.steady.progress.trans (starting_wrong (hstarted hnew))) .offset
  | sendsStop v hnew hrun hend hv => exact hv.steady.progress.trans (ending_wrong (hended hnew))
  | ends v hnew hrun hend hv => exact hv.steady.progress.trans (ending_wrong (hended hnew))
  | syncs hnew hrun hend => exact absurd (hflags hnew).2 hend
  | services hnew hrun => exact absurd (hflags hnew).2 (hrun (hflags hnew).1).1

/-- A step that does not keep exposures apart breaks the one that is going on. -/
theorem step_not_once {w v : World} (a : Action) (h : w.Exposing) (hnot : ¬ w.Single a)
    (hstep : w.step a = some v) : progress v.log = .wrong := by
  cases step_stepped hstep with
  | tick htick => exact htick.wrong h hnot
  | @bulb duration hframes =>
      have hphase := h.phase
      have hnext : progress (w.bulb duration).log = (progress w.log).next (.bulb duration) := rfl
      rw [hnext]
      rw [hframes] at hphase
      simp only [Single] at hnot
      revert hphase hnot
      generalize w.clock.newBulb = newBulb, w.clock.bulbRunning = running, progress w.log = p
      intro hnot hphase
      cases hphase with
      | rest p hp => exact absurd ⟨rfl, rfl⟩ hnot
      | asked => rfl
      | exposing => rfl
  | resume => exact absurd trivial hnot
  | callIn => exact absurd trivial hnot
  | cancelBulb => exact absurd trivial hnot
  | environment => exact absurd trivial hnot

end World

/-- In every run whose steps keep exposures apart, every exposure that is not
    cancelled is started once, is given its offset once, and is ended once; and
    ended it is, when enough time has passed. -/
theorem run_once (conf : Settings) (irTicks : Nat) (link : Link) (w : World)
    (h : Run World.step World.Single (World.idle conf irTicks link) w) :
    w.Once ∧ ∀ as v, Path World.step World.Undisturbed w as v →
      8589934594 < as.countP World.Action.passes → v.Settled := by
  have hexposing := h.invariant World.Exposing
    (fun _ a _ hinv hsingle hstep => World.step_exposing a hinv hsingle hstep)
    (World.idle_exposing conf irTicks link)
  exact ⟨hexposing.once, fun as v hpath hlong => World.path_settled hexposing hpath hlong⟩

/-- An exposure of two ticks on the cable is started and ended. -/
theorem run_once_cable : ∃ w, Run World.step World.Single
    (World.idle cableSettings 0 .none) w ∧ progress w.log = .ended ∧ w.Once := by
  have hallowed : allowed World.step World.Single (World.idle cableSettings 0 .none)
      (.bulb 1 :: List.replicate 77 (.tick .ok)) = true := by
    decide +kernel
  have hended : (steps World.step (World.idle cableSettings 0 .none)
      (.bulb 1 :: List.replicate 77 (.tick .ok))).map (fun w => progress w.log) = some .ended := by
    decide +kernel
  rcases run_of_allowed _ hallowed with ⟨w, hsteps, hrun⟩
  rw [hsteps, Option.map_some, Option.some.injEq] at hended
  exact ⟨w, hrun, hended, (run_once _ _ _ w hrun).1⟩

/-- A bulb is opened by infrared. The first tick that `advance` calls while the
    code is being sent starts the bulb again. -/
theorem nested_start : ∃ w, Run World.step (fun _ _ => True)
    (World.idle irSettings 8 .none) w ∧ ¬ w.Once := by
  have hwrong : (steps World.step (World.idle irSettings 8 .none)
      [.bulb 100, .tick .ok, .tick .ok]).map (fun w => progress w.log) = some .wrong := rfl
  rcases Option.map_eq_some_iff.mp hwrong with ⟨w, hsteps, hlog⟩
  exact ⟨w, run_of_steps _ hsteps, fun h => h.1 hlog⟩

end Shutter

end TimelapsePlus
