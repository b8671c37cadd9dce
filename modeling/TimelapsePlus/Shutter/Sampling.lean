import TimelapsePlus.Shutter.Light

/-!
# Sampling against a Clock That Is Set Back

The sampler and the clock it reads, millisecond by millisecond. A run of the
intervalometer sets the clock back to zero when it starts and again when its delay
is over, the first time right after it has started the sampler. The second the last
sample was taken in is not set back with it, and so no sample is due until the
clock has come as far again as it was, and a period further.

Two numbers are not in the code: the milliseconds since the last sample was stored,
and those since the last call of `Light::task`. Both start from nothing when the
sampler comes to life, be it by a start or at the end of a pause or of a bulb.

After a pause the sampler lets five calls go by. With calls a second apart it is
then six seconds late, more than a period and two seconds if the period is under
four.

## Main definitions

* `Sampling`: The sampler, its clock, and the time since it was last at work.
* `Act`, `Sampling.step`: What can happen in a millisecond, and between two.
* `Called`: `Light::task` is called at least once a second.
* `Undisturbed`: The clock is not set back behind the last sample.
* `OnTime`: The last sample is not older than a period and two seconds.
* `Steady`: What undisturbed steps keep.

## Theorems

* `step_steady`: An undisturbed step keeps it.
* `run_sampled`: In an undisturbed run samples are on time.
* `stalled`: After the clock is set back none is stored for as long as it was up.
-/

namespace TimelapsePlus

namespace Shutter

/-- The sampler, the clock's counters, whether a bulb is being timed, and the
    milliseconds since the last sample and since the last call of `task`. -/
structure Sampling where
  light : Light
  ms : Nat
  seconds : Nat
  bulb : Bool
  since : Nat
  idle : Nat

namespace Sampling

/-- What can happen: a millisecond passes, on which the clock may be busy with the
    bulb it times, at last ending it; a bulb starts or is cancelled; the clock is
    set back; the functions of the sampler are called; the monitor pauses it and
    lets it go on. -/
inductive Act
  | tick
  | bulbTick (ends : Bool)
  | bulb
  | cancelBulb
  | reset
  | task (ev : ℚ)
  | start (minutes : Nat) (readings : List ℚ) (ev : ℚ)
  | stop
  | pause
  | resume

/-- The time since the last sample and the last call counts while the sampler is
    live. -/
def settle (s : Sampling) : Sampling :=
  if s.light.Live then s else { s with since := 0, idle := 0 }

/-- A millisecond of `Clock::count`, in which the second may roll over. -/
def tick (s : Sampling) : Sampling :=
  if 1000 ≤ s.ms + 1 then
    { s with
      ms := s.ms + 1 - 1000
      seconds := s.seconds + 1
      since := s.since + 1
      idle := s.idle + 1 }
  else { s with ms := s.ms + 1, since := s.since + 1, idle := s.idle + 1 }

/-- One step. The clock is busy with a bulb only while it times one. -/
def step (s : Sampling) : Act → Option Sampling
  | .tick => some s.tick.settle
  | .bulbTick ends =>
    if s.bulb then
      some ({ s with
        ms := s.ms + 1
        bulb := !ends
        light.skipTask := s.light.skipTask && !ends
        since := s.since + 1
        idle := s.idle + 1 }.settle)
    else none
  | .bulb => some ({ s with bulb := true, light.skipTask := true }.settle)
  | .cancelBulb =>
    some ({ s with
      bulb := false
      light.skipTask := false }.settle)
  | .reset => some { s with ms := 0, seconds := 0, bulb := false }
  | .task ev =>
    some ({ s with
      light := s.light.task s.seconds ev
      since := if s.light.wasPaused = 0 ∧ s.light.Due s.seconds then 0 else s.since
      idle := 0 }.settle)
  | .start minutes readings ev =>
    some ({ s with
      light := s.light.integrationStart minutes readings s.seconds ev
      since := 0
      idle := 0 }.settle)
  | .stop => some ({ s with light := s.light.stop }.settle)
  | .pause => some ({ s with light.paused := true }.settle)
  | .resume => some ({ s with light.paused := false }.settle)

/-- The sampler has not been used, and the clock has been up for some time. -/
def up (seconds ms : Nat) : Sampling where
  light := .off
  ms := ms
  seconds := seconds
  bulb := false
  since := 0
  idle := 0

/-- `Light::task` is called at least once a second while the sampler is live. -/
def Called (s : Sampling) : Act → Prop
  | .tick | .bulbTick _ => s.light.Live → s.idle < 1000
  | _ => True

/-- The clock is not set back behind a sample, and a pause is not followed by a
    period of under four seconds. -/
def Undisturbed (s : Sampling) : Act → Prop
  | .reset => s.light.integrationActive = true → s.light.lastSeconds = 0
  | .pause => s.light.integrationActive = true → 4 ≤ s.light.period
  | .start minutes _ _ =>
    0 < s.light.wasPaused → 4 ≤ minutes * 60 / Light.integrationCount
  | _ => True

instance (s : Sampling) (a : Act) : Decidable (s.Called a) := by
  cases a <;> unfold Called <;> infer_instance

instance (s : Sampling) (a : Act) : Decidable (s.Undisturbed a) := by
  cases a <;> unfold Undisturbed <;> infer_instance

/-- While the sampler is live its last sample is not older than a period and two
    seconds. -/
def OnTime (s : Sampling) : Prop :=
  s.light.Live → s.since ≤ 1000 * s.light.period + 2000

/-- What undisturbed steps keep. The clock has not been set back behind the last
    sample, so the time since is bounded by the clock's. Calls that let a sample go
    by do so because it is not due or because a pause is not long over. -/
structure Steady (s : Sampling) : Prop where
  initialized : s.light.integrationActive = true → s.light.initialized = true
  suspended : s.bulb = true → s.light.skipTask = true
  settled : ¬ s.light.Live → s.since = 0 ∧ s.idle = 0
  called : s.idle ≤ 1000
  short : s.light.wasPaused ≤ 5
  behind : s.light.integrationActive = true → s.light.lastSeconds ≠ 0 →
    s.light.lastSeconds ≤ s.seconds ∧
      s.since + 1000 * s.light.lastSeconds ≤ 1000 * s.seconds + min s.ms 999
  waited : s.light.wasPaused = 0 → s.since ≤ s.idle + 1000 * s.light.period + 1000
  grace : 0 < s.light.wasPaused → s.since + 1000 * s.light.wasPaused ≤ s.idle + 5000
  patient : s.light.integrationActive = true → s.light.paused = true ∨ 0 < s.light.wasPaused →
    4 ≤ s.light.period

/-- A state that is not live is as steady with the time since left out. -/
theorem settle_steady {s : Sampling}
    (hinit : s.light.integrationActive = true → s.light.initialized = true)
    (hbulb : s.bulb = true → s.light.skipTask = true)
    (hpatient : s.light.integrationActive = true →
      s.light.paused = true ∨ 0 < s.light.wasPaused → 4 ≤ s.light.period)
    (hgrace : s.light.wasPaused ≤ 5)
    (hbehind : s.light.integrationActive = true → s.light.lastSeconds ≠ 0 →
      s.light.lastSeconds ≤ s.seconds)
    (hlive : s.light.Live → s.Steady) : s.settle.Steady := by
  unfold settle
  by_cases h : s.light.Live
  · rw [if_pos h]
    exact hlive h
  · rw [if_neg h]
    exact
      { initialized := hinit
        suspended := hbulb
        settled := fun _ => ⟨rfl, rfl⟩
        called := Nat.zero_le 1000
        short := hgrace
        behind := by
          intro hactive hlast
          have := hbehind hactive hlast
          exact ⟨this, by simp only; omega⟩
        waited := by
          intro _
          simp only
          omega
        grace := by
          intro _
          simp only
          omega
        patient := hpatient }

theorem tick_light (s : Sampling) : s.tick.light = s.light := by
  unfold tick
  split_ifs <;> rfl

/-- A millisecond passes. -/
theorem tick_steady {s : Sampling} (hs : s.Steady) (hc : s.Called .tick) :
    s.tick.settle.Steady := by
  have hlight := tick_light s
  have hcounts : s.tick.since = s.since + 1 ∧ s.tick.idle = s.idle + 1 ∧ s.tick.bulb = s.bulb := by
    unfold tick
    split_ifs <;> exact ⟨rfl, rfl, rfl⟩
  -- The clock has moved by no less than the time since the last sample.
  have hclock : s.seconds ≤ s.tick.seconds ∧
      1000 * s.seconds + min s.ms 999 + 1 ≤ 1000 * s.tick.seconds + min s.tick.ms 999 := by
    unfold tick
    split_ifs
    · simp only
      omega
    · simp only
      omega
  obtain ⟨hsince, hidle, hbulb⟩ := hcounts
  refine settle_steady ?_ ?_ ?_ ?_ ?_ ?_
  · rw [hlight]
    exact hs.initialized
  · rw [hlight, hbulb]
    exact hs.suspended
  · rw [hlight]
    exact hs.patient
  · rw [hlight]
    exact hs.short
  · rw [hlight]
    intro hactive hlast
    exact (hs.behind hactive hlast).1.trans hclock.1
  · rw [hlight]
    intro hlive
    have hcalled := hc hlive
    exact
      { initialized := by rw [hlight]; exact hs.initialized
        suspended := by rw [hlight, hbulb]; exact hs.suspended
        settled := fun h => absurd (hlight ▸ hlive) h
        called := by rw [hidle]; exact hcalled
        short := by rw [hlight]; exact hs.short
        behind := by
          rw [hlight, hsince]
          intro hactive hlast
          have := hs.behind hactive hlast
          omega
        waited := by
          rw [hlight, hsince, hidle]
          intro hgrace
          have := hs.waited hgrace
          omega
        grace := by
          rw [hlight, hsince, hidle]
          intro hgrace
          have := hs.grace hgrace
          omega
        patient := by rw [hlight]; exact hs.patient }

/-- A sampler that comes to life, or goes on, with nothing counted yet. -/
theorem fresh_steady {s : Sampling}
    (hinit : s.light.integrationActive = true → s.light.initialized = true)
    (hbulb : s.bulb = true → s.light.skipTask = true)
    (hpatient : s.light.integrationActive = true →
      s.light.paused = true ∨ 0 < s.light.wasPaused → 4 ≤ s.light.period)
    (hgrace : s.light.wasPaused ≤ 5)
    (hbehind : s.light.integrationActive = true → s.light.lastSeconds ≠ 0 →
      s.light.lastSeconds ≤ s.seconds)
    (hsince : s.since = 0) (hidle : s.idle = 0) : s.settle.Steady := by
  refine settle_steady hinit hbulb hpatient hgrace hbehind ?_
  intro hlive
  exact
    { initialized := hinit
      suspended := hbulb
      settled := fun h => absurd hlive h
      called := by rw [hidle]; exact Nat.zero_le 1000
      short := hgrace
      behind := by
        intro hactive hlast
        have := hbehind hactive hlast
        omega
      waited := by
        intro _
        omega
      grace := by
        intro _
        omega
      patient := hpatient }

/-- A call of `task` on a live sampler. -/
theorem task_steady_live {s : Sampling} (hs : s.Steady) (hlive : s.light.Live) (ev : ℚ) :
    ∃ t, step s (.task ev) = some t ∧ t.Steady := by
  have hinit := hs.initialized hlive.active
  refine ⟨_, rfl, ?_⟩
  by_cases hgrace : s.light.wasPaused = 0
  · by_cases hdue : s.light.Due s.seconds
    · -- The sample is stored in this second.
      rw [Light.task_due hlive hinit hgrace hdue, if_pos ⟨hgrace, hdue⟩]
      exact fresh_steady hs.initialized hs.suspended hs.patient hs.short
        (fun _ _ => le_refl s.seconds) rfl rfl
    · -- It is not due, so the clock is at most a period on.
      rw [Light.task_waiting hlive hinit hgrace hdue, if_neg fun h => hdue h.2]
      unfold Light.Due at hdue
      have hlast : s.light.lastSeconds ≠ 0 := fun h => hdue (.inl h)
      have hclock : s.seconds ≤ s.light.lastSeconds + s.light.period :=
        not_lt.mp fun h => hdue (.inr h)
      have hbehind := hs.behind hlive.active hlast
      refine settle_steady hs.initialized hs.suspended hs.patient hs.short
        (fun _ _ => hbehind.1) ?_
      intro _
      exact
        { initialized := hs.initialized
          suspended := hs.suspended
          settled := fun h => absurd hlive h
          called := Nat.zero_le 1000
          short := hs.short
          behind := hs.behind
          waited := by
            intro _
            simp only
            omega
          grace := by
            intro h
            simp only at h
            omega
          patient := hs.patient }
  · -- A pause is not long over. Five calls a second apart fit into the period.
    have hpos : 0 < s.light.wasPaused := Nat.pos_of_ne_zero hgrace
    have hperiod := hs.patient hlive.active (.inr hpos)
    have hsince := hs.grace hpos
    have hcalled := hs.called
    have hshort := hs.short
    rw [Light.task_grace hlive hinit hpos, if_neg fun h => hgrace h.1]
    refine settle_steady hs.initialized hs.suspended (fun _ _ => hperiod) ?_
      (fun hactive hlast => (hs.behind hactive hlast).1) ?_
    · simp only
      omega
    · intro _
      exact
        { initialized := hs.initialized
          suspended := hs.suspended
          settled := fun h => absurd ⟨hlive.active, hlive.awake, hlive.reading⟩ h
          called := Nat.zero_le 1000
          short := by
            simp only
            omega
          behind := hs.behind
          waited := by
            intro h
            simp only [Light.period] at h hperiod ⊢
            omega
          grace := by
            intro h
            simp only at h ⊢
            omega
          patient := fun _ _ => hperiod }

/-- A call of `task` on a sampler that is not live. -/
theorem task_steady_idle {s : Sampling} (hs : s.Steady) (hlive : ¬ s.light.Live) (ev : ℚ) :
    ∃ t, step s (.task ev) = some t ∧ t.Steady := by
  obtain ⟨hsince, hidle⟩ := hs.settled hlive
  have hzero : (if s.light.wasPaused = 0 ∧ s.light.Due s.seconds then 0 else s.since) = 0 := by
    rw [hsince, ite_self]
  refine ⟨_, rfl, ?_⟩
  rcases Light.task_idle (l := s.light) hlive with heq | ⟨hpaused, heq⟩
  · rw [heq]
    exact fresh_steady hs.initialized hs.suspended hs.patient hs.short
      (fun hactive hlast => (hs.behind hactive hlast).1) hzero rfl
  · rw [heq]
    exact fresh_steady hs.initialized hs.suspended
      (fun hactive _ => hs.patient hactive (.inl hpaused)) (le_refl 5)
      (fun hactive hlast => (hs.behind hactive hlast).1) hzero rfl

/-- The sampler is started. What is left of the calls after an earlier pause is
    used up first. -/
theorem start_steady {s : Sampling} (hs : s.Steady) (minutes : Nat) (readings : List ℚ) (ev : ℚ)
    (hu : s.Undisturbed (.start minutes readings ev)) :
    ∃ t, step s (.start minutes readings ev) = some t ∧ t.Steady := by
  refine ⟨_, rfl, ?_⟩
  simp only [Light.integrationStart, Light.task]
  have hshort := hs.short
  by_cases hskip : s.light.skipTask = true
  · simp only [hskip, and_self, not_true_eq_false, if_false, if_true]
    refine fresh_steady (fun _ => rfl) (fun _ => rfl) ?_ hs.short ?_ rfl rfl
    · intro _ h
      exact hu (h.resolve_left Bool.false_ne_true)
    · intro _ h
      exact absurd rfl h
  · simp only [Bool.not_eq_true] at hskip
    have hbulb : s.bulb = true → s.light.skipTask = true := hs.suspended
    simp only [hskip, and_self, not_true_eq_false, if_false, Bool.false_eq_true]
    by_cases hgrace : 0 < s.light.wasPaused
    · simp only [if_pos hgrace]
      refine fresh_steady (fun _ => rfl) ?_ (fun _ _ => hu hgrace) ?_ ?_ rfl rfl
      · rw [hskip] at hbulb
        exact hbulb
      · simp only
        omega
      · intro _ h
        exact absurd rfl h
    · simp only [if_neg hgrace, Light.Due, true_or, if_true]
      refine fresh_steady (fun _ => rfl) ?_ ?_ hs.short (fun _ _ => le_refl s.seconds) rfl rfl
      · rw [hskip] at hbulb
        exact hbulb
      · intro _ h
        rcases h with h | h
        · exact absurd h Bool.false_ne_true
        · exact absurd h hgrace

/-- An undisturbed step keeps what it should. -/
theorem step_steady {s t : Sampling} (a : Act) (hs : s.Steady) (hu : s.Undisturbed a)
    (hc : s.Called a) (hstep : step s a = some t) : t.Steady := by
  have hbefore : s.light.integrationActive = true → s.light.lastSeconds ≠ 0 →
      s.light.lastSeconds ≤ s.seconds := fun hactive hlast => (hs.behind hactive hlast).1
  cases a with
  | tick =>
      obtain rfl := Option.some.inj hstep
      exact tick_steady hs hc
  | bulbTick ends =>
      simp only [step] at hstep
      by_cases hbulb : s.bulb = true
      · rw [if_pos hbulb] at hstep
        obtain rfl := Option.some.inj hstep
        -- The sampler was suspended, so nothing was counted before.
        have hskip := hs.suspended hbulb
        have hdead : ¬ s.light.Live := by
          intro h
          rw [h.reading] at hskip
          exact Bool.false_ne_true hskip
        obtain ⟨hsince, hidle⟩ := hs.settled hdead
        have hshort := hs.short
        refine settle_steady hs.initialized ?_ hs.patient hs.short hbefore ?_
        · intro h
          simp only [hskip, Bool.true_and]
          exact h
        · intro hlive
          exact
            { initialized := hs.initialized
              suspended := by
                intro h
                simp only [hskip, Bool.true_and]
                exact h
              settled := fun h => absurd hlive h
              called := by
                simp only
                omega
              short := hs.short
              behind := by
                intro hactive hlast
                have := hs.behind hactive hlast
                simp only at hlast ⊢
                omega
              waited := by
                intro _
                simp only
                omega
              grace := by
                intro _
                simp only
                omega
              patient := hs.patient }
      · rw [if_neg hbulb] at hstep
        exact absurd hstep (by simp only [reduceCtorEq, not_false_eq_true])
  | bulb =>
      obtain rfl := Option.some.inj hstep
      refine settle_steady hs.initialized (fun _ => rfl) hs.patient hs.short hbefore ?_
      intro hlive
      exact absurd hlive.reading.symm Bool.false_ne_true
  | cancelBulb =>
      obtain rfl := Option.some.inj hstep
      refine settle_steady hs.initialized (fun h => absurd h Bool.false_ne_true) hs.patient
        hs.short hbefore ?_
      intro hlive
      exact
        { initialized := hs.initialized
          suspended := fun h => absurd h Bool.false_ne_true
          settled := fun h => absurd hlive h
          called := hs.called
          short := hs.short
          behind := hs.behind
          waited := hs.waited
          grace := hs.grace
          patient := hs.patient }
  | reset =>
      obtain rfl := Option.some.inj hstep
      exact
        { initialized := hs.initialized
          suspended := fun h => absurd h Bool.false_ne_true
          settled := hs.settled
          called := hs.called
          short := hs.short
          behind := fun hactive hlast => absurd (hu hactive) hlast
          waited := hs.waited
          grace := hs.grace
          patient := hs.patient }
  | task ev =>
      by_cases hlive : s.light.Live
      · obtain ⟨u, hu', hsteady⟩ := task_steady_live hs hlive ev
        rw [hu', Option.some.injEq] at hstep
        exact hstep ▸ hsteady
      · obtain ⟨u, hu', hsteady⟩ := task_steady_idle hs hlive ev
        rw [hu', Option.some.injEq] at hstep
        exact hstep ▸ hsteady
  | start minutes readings ev =>
      obtain ⟨u, hu', hsteady⟩ := start_steady hs minutes readings ev hu
      rw [hu', Option.some.injEq] at hstep
      exact hstep ▸ hsteady
  | stop =>
      obtain rfl := Option.some.inj hstep
      refine settle_steady (fun h => absurd h Bool.false_ne_true) hs.suspended
        (fun h => absurd h Bool.false_ne_true) hs.short (fun h => absurd h Bool.false_ne_true) ?_
      intro hlive
      exact absurd hlive.active Bool.false_ne_true
  | pause =>
      obtain rfl := Option.some.inj hstep
      refine settle_steady hs.initialized hs.suspended (fun h _ => hu h) hs.short hbefore ?_
      intro hlive
      exact absurd hlive.awake.symm Bool.false_ne_true
  | resume =>
      obtain rfl := Option.some.inj hstep
      have hpatient : s.light.integrationActive = true →
          false = true ∨ 0 < s.light.wasPaused → 4 ≤ s.light.period := by
        intro hactive h
        exact hs.patient hactive (.inr (h.resolve_left Bool.false_ne_true))
      refine settle_steady hs.initialized hs.suspended hpatient hs.short hbefore ?_
      intro hlive
      exact
        { initialized := hs.initialized
          suspended := hs.suspended
          settled := fun h => absurd hlive h
          called := hs.called
          short := hs.short
          behind := hs.behind
          waited := hs.waited
          grace := hs.grace
          patient := hpatient }

/-- A sampler that has not been used is steady, however long the clock has been
    up. -/
theorem up_steady (seconds ms : Nat) : (up seconds ms).Steady where
  initialized := fun h => absurd h Bool.false_ne_true
  suspended := fun h => absurd h Bool.false_ne_true
  settled := fun _ => ⟨rfl, rfl⟩
  called := Nat.zero_le 1000
  short := Nat.zero_le 5
  behind := fun h => absurd h Bool.false_ne_true
  waited := fun _ => Nat.zero_le _
  grace := fun h => absurd h (Nat.lt_irrefl 0)
  patient := fun h => absurd h Bool.false_ne_true

/-- Less than a second passes between two calls. -/
theorem run_ticks {s₀ : Sampling} {l : Light} {seconds since : Nat} {bulb : Bool}
    (hrun : Run step Called s₀ ⟨l, 0, seconds, bulb, since, 0⟩) (hlive : l.Live) (d : Nat)
    (hd : d < 1000) : Run step Called s₀ ⟨l, d, seconds, bulb, since + d, d⟩ := by
  induction d with
  | zero => exact hrun
  | succ d ih =>
      refine .tail .tick (ih (by omega)) (fun _ => show d < 1000 by omega) ?_
      have hbelow : ¬ 1000 ≤ d + 1 := by omega
      simp only [step, tick, settle, if_neg hbelow, if_pos hlive, Nat.add_assoc]

/-- A second passes, with a call at its end, and no sample is due yet. -/
theorem run_second {s₀ : Sampling} {l : Light} {seconds since : Nat} {bulb : Bool}
    (hrun : Run step Called s₀ ⟨l, 0, seconds, bulb, since, 0⟩) (hlive : l.Live)
    (hinit : l.initialized = true) (hgrace : l.wasPaused = 0) (hlast : l.lastSeconds ≠ 0)
    (hclock : seconds + 1 ≤ l.lastSeconds + l.period) :
    Run step Called s₀ ⟨l, 0, seconds + 1, bulb, since + 1000, 0⟩ := by
  have hnext : Run step Called s₀ ⟨l, 0, seconds + 1, bulb, since + 1000, 1000⟩ := by
    refine .tail .tick (run_ticks hrun hlive 999 (by omega)) (fun _ => show 999 < 1000 by omega) ?_
    have hover : 1000 ≤ 999 + 1 := by omega
    simp only [step, tick, settle, if_pos hover, if_pos hlive, Nat.add_assoc]
  refine .tail (.task 0) hnext trivial ?_
  have hdue : ¬ l.Due (seconds + 1) := by
    rintro (h | h)
    · exact hlast h
    · omega
  simp only [step, Light.task_waiting hlive hinit hgrace hdue, if_neg fun h => hdue (And.right h),
    settle, if_pos hlive]

/-- A sampler is started when the clock has been up for some seconds, and the clock
    is set back. As long as it was up, and a period more, no sample is stored. -/
theorem stalled (seconds minutes : Nat) (hup : seconds ≠ 0) (n : Nat)
    (hn : n ≤ seconds + minutes * 60 / Light.integrationCount) :
    ∃ s, Run step Called (up seconds 0) s ∧ s.light.Live ∧
      s.light.period = minutes * 60 / Light.integrationCount ∧ s.since = 1000 * n := by
  obtain ⟨l, hl⟩ : ∃ l, l = Light.off.integrationStart minutes [] seconds 0 := ⟨_, rfl⟩
  have hlive : l.Live := hl ▸ ⟨rfl, rfl, rfl⟩
  have hinit : l.initialized = true := hl ▸ rfl
  have hgrace : l.wasPaused = 0 := hl ▸ rfl
  have hlast : l.lastSeconds = seconds := hl ▸ rfl
  have hperiod : l.period = minutes * 60 / Light.integrationCount := hl ▸ rfl
  have hstart : Run step Called (up seconds 0) ⟨l, 0, seconds, false, 0, 0⟩ := by
    refine .tail (.start minutes [] 0) .refl trivial ?_
    have hsettle : settle ⟨l, 0, seconds, false, 0, 0⟩ = ⟨l, 0, seconds, false, 0, 0⟩ :=
      if_pos hlive
    rw [← hsettle, hl]
    rfl
  have hreset : Run step Called (up seconds 0) ⟨l, 0, 0, false, 0, 0⟩ :=
    .tail .reset hstart trivial rfl
  refine ⟨⟨l, 0, n, false, 1000 * n, 0⟩, ?_, hlive, hperiod, rfl⟩
  induction n with
  | zero => exact hreset
  | succ n ih =>
      refine run_second (ih (by omega)) hlive hinit hgrace ?_ ?_
      · rw [hlast]
        exact hup
      · rw [hlast, hperiod]
        omega

end Sampling

end Shutter

end TimelapsePlus
