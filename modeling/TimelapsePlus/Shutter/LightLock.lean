import TimelapsePlus.Lib.Restart
import TimelapsePlus.Math.Median
import TimelapsePlus.Shutter.Light

/-!
# The Lock at Low Light

Under a threshold the sensor is of no use, and `Light::task` notes that it is dark and
locks the slope it has last seen. A sample well above the threshold clears both. In
between, everything stays what it is.

A reading goes through a filter of three. While the sampler is paused or a bulb is
timed the filter is left alone, and the reading before is given once more, whenever it
was.

A start resets the filter, the samples and the locked slope, and takes a sample itself
unless the sampler was just paused. It does not reset that it is dark. If it was at the
end of the run before, and the first sample is in between, it still is.

## Main definitions

* `Filter.push`: A reading goes through the filter.
* `Sensor`: The sampler with its filter.
* `Sensor.readEv`, `Sensor.start`, `Sensor.stop`, `Sensor.task`,
  `Sensor.integrationStart`: The functions of the source.
* `Sensor.Call`, `Sensor.call`: What may happen to it.
* `Clears`: What may take the lock off.
* `Sound`: What is wanted of the lock.
* `Fits`: A start of which nothing is left of the run before.

## Theorems

* `call_locked`: It is dark while the slope is locked.
* `call_kept`: What does not clear the lock keeps it.
* `integrationStart_forgets`: A start that fits leaves what the first start leaves.
* `integrationStart_iff`: A start that takes a sample fits if it leaves that.
* `lock_sound`: The lock is right in every run of starts that fit.
* `dark_remains`: One that does not.
-/

namespace TimelapsePlus

namespace Shutter

open Math Restart

/-- The filter: the last three readings, where the last was put, unless there was none, and
    what was read last. -/
structure Filter where
  filter : Fin 3 → ℚ
  filterIndex : Option (Fin 3)
  lastReading : ℚ

namespace Filter

/-- The part of `readEv` that takes a reading. Three values have a median, so there is no
    other case. -/
def push (f : Filter) (ev : ℚ) : ℚ × Filter :=
  let (filter, filterIndex) := match f.filterIndex with
    | none => ((fun _ => ev : Fin 3 → ℚ), (0 : Fin 3))
    | some i =>
      let i := if i < 2 then i + 1 else 0
      (Function.update f.filter i ev, i)
  let m := (arrayMedian (List.ofFn filter) 3).getD 0
  (m, ⟨filter, some filterIndex, m⟩)

/-- One reading after the other. -/
def pushes (f : Filter) : List ℚ → List ℚ × Filter
  | [] => ([], f)
  | ev :: evs => ((f.push ev).1 :: ((f.push ev).2.pushes evs).1, ((f.push ev).2.pushes evs).2)

end Filter

/-- The sampler with its filter. -/
@[ext]
structure Sensor where
  light : Light
  filter : Filter

namespace Sensor

/-- The sensor when the device is switched on. -/
def off : Sensor := ⟨Light.off, ⟨fun _ => 0, some 0, 0⟩⟩

/-- `Light::readEv`, with what the sensor has. -/
def readEv (s : Sensor) (ev : ℚ) : ℚ × Sensor :=
  if s.light.initialized = false then (0, s)
  else if s.light.paused = true ∨ s.light.skipTask = true then (s.filter.lastReading, s)
  else ((s.filter.push ev).1, { s with filter := (s.filter.push ev).2 })

/-- `Light::start`. -/
def start (s : Sensor) : Sensor :=
  ⟨{ s.light with initialized := true, paused := false },
    { s.filter with filterIndex := none }⟩

/-- `Light::stop`. -/
def stop (s : Sensor) : Sensor := { s with light := s.light.stop }

/-- `Light::task` comes to its sample. -/
def Samples (s : Sensor) (seconds : Nat) : Prop :=
  (s.light.initialized = true ∧ s.light.integrationActive = true) ∧
    ¬ s.light.skipTask = true ∧ ¬ s.light.paused = true ∧ ¬ 0 < s.light.wasPaused ∧
      s.light.Due seconds

instance (s : Sensor) (seconds : Nat) : Decidable (s.Samples seconds) :=
  inferInstanceAs (Decidable (_ ∧ _))

/-- `Light::task`. The sensor is read only for the sample. -/
def task (s : Sensor) (seconds : Nat) (ev : ℚ) : Sensor :=
  if s.Samples seconds then
    let r := s.readEv ev
    { r.2 with light := r.2.light.task seconds r.1 }
  else { s with light := s.light.task seconds 0 }

/-- The loop of `integrationStart` that fills the samples. -/
def fill (s : Sensor) : List ℚ → List ℚ × Sensor
  | [] => ([], s)
  | ev :: evs => ((s.readEv ev).1 :: ((s.readEv ev).2.fill evs).1, ((s.readEv ev).2.fill evs).2)

/-- The samples are filled in, and the averages with the first of them. -/
def filled (l : Light) (iev : List ℚ) : Light :=
  { l with
    iev := iev
    integrationActive := true
    slope := 0
    median := iev.headD 0
    integrated := iev.headD 0
    lockedSlope := 0 }

/-- `Light::integrationStart`, with what the sensor has for each of the samples and for the
    one of `task`. -/
def integrationStart (s : Sensor) (minutes : Nat) (readings : List.Vector ℚ 32) (seconds : Nat)
    (ev : ℚ) : Sensor :=
  let s := s.start
  let s := { s with light := { s.light with integration := minutes, lastSeconds := 0 } }
  let r := s.fill readings.toList
  task ⟨filled r.2.light r.1, r.2.filter⟩ seconds ev

/-- What may happen to the sampler: its functions are called, it is paused, or a bulb is
    timed. -/
inductive Call
  | integrationStart (minutes : Nat) (readings : List.Vector ℚ 32) (seconds : Nat) (ev : ℚ)
  | stop
  | task (seconds : Nat) (ev : ℚ)
  | start
  | readEv (ev : ℚ)
  | pause (on : Bool)
  | skipTask (on : Bool)

def call (s : Sensor) : Call → Sensor
  | .integrationStart minutes readings seconds ev => s.integrationStart minutes readings seconds ev
  | .stop => s.stop
  | .task seconds ev => s.task seconds ev
  | .start => s.start
  | .readEv ev => (s.readEv ev).2
  | .pause on => { s with light := { s.light with paused := on } }
  | .skipTask on => { s with light := { s.light with skipTask := on } }

/-- The call is a restart. -/
def Call.restarts : Call → Bool
  | .integrationStart .. => true
  | _ => false

/-- The run is over, or starts again, or a sample is taken that is well above the
    threshold. -/
def Clears (s : Sensor) : Call → Prop
  | .integrationStart .. | .stop => True
  | .task seconds ev => s.Samples seconds ∧ 20 + 5 < (s.readEv ev).1
  | _ => False

/-- What is wanted of the lock, of the sensor and of one that was first started with the
    last start: it is dark while the slope is locked; what does not clear the lock keeps it;
    and nothing is left of the run before that start. -/
structure Sound (w : Watched Sensor) : Prop where
  locked : w.state.light.lockedSlope ≠ 0 → w.state.light.underThreshold = true
  kept : ∀ c, w.state.light.lockedSlope ≠ 0 → ¬ Clears w.state c →
    (w.state.call c).light.lockedSlope = w.state.light.lockedSlope
  fresh : ∀ t ∈ w.fresh, w.state.light.underThreshold = t.light.underThreshold ∧
    w.state.light.lockedSlope = t.light.lockedSlope ∧
    w.state.light.integrated = t.light.integrated

/-- The sample a start takes, of the readings it is given. -/
def firstSample (readings : List.Vector ℚ 32) (ev : ℚ) : ℚ :=
  ((Filter.pushes ⟨fun _ => 0, none, 0⟩ readings.toList).2.push ev).1

/-- No bulb is timed at the start and the sampler was not just paused, and either it was not
    dark or the first sample tells if it is. -/
def Fits (s : Sensor) : Call → Prop
  | .integrationStart _ readings _ ev =>
      s.light.skipTask = false ∧ s.light.wasPaused = 0 ∧
        (s.light.underThreshold = false ∨ firstSample readings ev ≤ 20 ∨
          20 + 5 < firstSample readings ev)
  | _ => True

section Calls

variable {s : Sensor} {seconds : Nat} {ev : ℚ}

/-- Reading leaves the sampler alone. -/
theorem readEv_light (s : Sensor) (ev : ℚ) : (s.readEv ev).2.light = s.light := by
  unfold readEv
  split
  · rfl
  · split
    · rfl
    · rfl

/-- A sample is stored as it is read. -/
theorem task_of_samples (ev : ℚ) (h : s.Samples seconds) :
    (s.task seconds ev).light = s.light.store seconds (s.readEv ev).1 ∧
      (s.task seconds ev).filter = (s.readEv ev).2.filter := by
  unfold task
  rw [if_pos h]
  refine ⟨?_, rfl⟩
  rcases h with ⟨hon, hskip, hpaused, hgrace, hdue⟩
  simp only [readEv_light]
  unfold Light.task
  -- All that would keep the task from a sample is ruled out.
  rw [if_neg (not_not.mpr hon), if_neg hskip, if_neg hpaused, if_neg hgrace, if_pos hdue]

/-- Without a sample a task counts the calls since a pause, if anything. -/
theorem task_of_not_samples (ev : ℚ) (h : ¬ s.Samples seconds) :
    ∃ n, s.task seconds ev = { s with light := { s.light with wasPaused := n } } := by
  unfold task Light.task
  rw [if_neg h]
  split
  · exact ⟨s.light.wasPaused, rfl⟩
  · next hon =>
      split
      · exact ⟨s.light.wasPaused, rfl⟩
      · next hskip =>
          split
          · exact ⟨5, rfl⟩
          · next hpaused =>
              split
              · exact ⟨s.light.wasPaused - 1, rfl⟩
              · next hgrace =>
                  rw [if_neg fun hdue => h ⟨not_not.mp hon, hskip, hpaused, hgrace, hdue⟩]
                  exact ⟨s.light.wasPaused, rfl⟩

/-- It is dark while the slope is locked. -/
def Locked (l : Light) : Prop := l.lockedSlope ≠ 0 → l.underThreshold = true

theorem store_locked {l : Light} (hl : Locked l) : Locked (l.store seconds ev) := by
  unfold Locked Light.store
  by_cases hnight : ev ≤ 20
  · -- The slope may be locked now, and it is dark.
    intro _
    simp only [hnight, decide_true, if_true]
  · by_cases hday : 20 + 5 < ev
    · intro hlocked
      simp only [hnight, hday, decide_true, decide_false, Bool.false_eq_true, if_false, if_true,
        ne_eq, not_true_eq_false] at hlocked
    · -- In between, neither of the two is touched.
      simp only [hnight, hday, decide_false, Bool.false_eq_true, if_false]
      exact hl

theorem task_locked (hs : Locked s.light) : Locked (s.task seconds ev).light := by
  by_cases h : s.Samples seconds
  · rw [(task_of_samples ev h).1]
    exact store_locked hs
  · rcases task_of_not_samples ev h with ⟨n, hn⟩
    rw [hn]
    exact hs

/-- No call leaves the slope locked while it is not dark. -/
theorem call_locked (c : Call) (hs : Locked s.light) : Locked (s.call c).light := by
  cases c with
  | integrationStart minutes readings seconds ev =>
      -- The start itself leaves no slope locked, and then there is a task.
      exact task_locked fun hlocked => absurd rfl hlocked
  | stop => exact fun hlocked => absurd rfl hlocked
  | task seconds ev => exact task_locked hs
  | start => exact hs
  | readEv ev =>
      unfold call
      rw [readEv_light]
      exact hs
  | pause on => exact hs
  | skipTask on => exact hs

/-- A sample that is not well above the threshold keeps a locked slope. -/
theorem store_kept {l : Light} (hlocked : l.lockedSlope ≠ 0) (hday : ¬ 20 + 5 < ev) :
    (l.store seconds ev).lockedSlope = l.lockedSlope := by
  unfold Light.store
  simp only [hday, decide_false, Bool.false_eq_true, if_false]
  split
  · exact if_neg fun h => hlocked h.1
  · rfl

/-- What does not clear the lock keeps it. -/
theorem call_kept (c : Call) (hlocked : s.light.lockedSlope ≠ 0) (hc : ¬ Clears s c) :
    (s.call c).light.lockedSlope = s.light.lockedSlope := by
  cases c with
  | integrationStart minutes readings seconds ev => exact absurd trivial hc
  | stop => exact absurd trivial hc
  | task seconds ev =>
      unfold call
      by_cases h : s.Samples seconds
      · rw [(task_of_samples ev h).1]
        exact store_kept hlocked fun hday => hc ⟨h, hday⟩
      · rcases task_of_not_samples ev h with ⟨n, hn⟩
        simp only [hn]
  | start => rfl
  | readEv ev =>
      unfold call
      rw [readEv_light]
  | pause on => rfl
  | skipTask on => rfl

end Calls

section Start

variable {s : Sensor} {minutes seconds : Nat} {readings : List.Vector ℚ 32} {ev : ℚ}

/-- The sensor is read. -/
structure Reads (l : Light) : Prop where
  initialized : l.initialized = true
  awake : l.paused = false
  skipTask : l.skipTask = false

theorem readEv_reads (hs : Reads s.light) (ev : ℚ) :
    s.readEv ev = ((s.filter.push ev).1, ⟨s.light, (s.filter.push ev).2⟩) := by
  unfold readEv
  rw [if_neg (by rw [hs.initialized]; exact Bool.noConfusion), if_neg]
  rw [hs.awake, hs.skipTask]
  exact fun h => h.elim Bool.false_ne_true Bool.false_ne_true

theorem fill_reads (hs : Reads s.light) (evs : List ℚ) :
    s.fill evs = ((s.filter.pushes evs).1, ⟨s.light, (s.filter.pushes evs).2⟩) := by
  induction evs generalizing s with
  | nil => rfl
  | cons ev evs ih =>
      rw [fill, readEv_reads hs ev, ih (s := ⟨s.light, (s.filter.push ev).2⟩) hs]
      rfl

/-- The first reading fills the filter. -/
theorem pushes_none (f g : Filter) (ev : ℚ) (evs : List ℚ) :
    Filter.pushes { f with filterIndex := none } (ev :: evs) =
      Filter.pushes { g with filterIndex := none } (ev :: evs) := rfl

/-- The sampler that a start sets up, before its own sample. -/
def begun (l : Light) (minutes : Nat) (iev : List ℚ) : Light :=
  filled
    { l with initialized := true, paused := false, integration := minutes, lastSeconds := 0 } iev

/-- What a start comes to when the sensor is read and the sampler was not just paused. -/
theorem integrationStart_eq (hskip : s.light.skipTask = false) (hgrace : s.light.wasPaused = 0) :
    s.integrationStart minutes readings seconds ev =
      ⟨(begun s.light minutes (Filter.pushes ⟨fun _ => 0, none, 0⟩ readings.toList).1).store seconds
          (firstSample readings ev),
        ((Filter.pushes ⟨fun _ => 0, none, 0⟩ readings.toList).2.push ev).2⟩ := by
  have hfilter : Filter.pushes { s.filter with filterIndex := none } readings.toList =
      Filter.pushes ⟨fun _ => 0, none, 0⟩ readings.toList := by
    rcases readings.exists_eq_cons with ⟨r, rs, hcons⟩
    rw [hcons, List.Vector.toList_cons]
    exact pushes_none s.filter ⟨fun _ => 0, none, 0⟩ r rs.toList
  unfold firstSample
  -- From here on it only matters what the filter and the samples have come to.
  generalize Filter.pushes ⟨fun _ => 0, none, 0⟩ readings.toList = r at hfilter ⊢
  have hbegun : s.integrationStart minutes readings seconds ev =
      task ⟨begun s.light minutes r.1, r.2⟩ seconds ev := by
    have hfill := fill_reads
      (s := ⟨{ s.light with
          initialized := true, paused := false, integration := minutes, lastSeconds := 0 },
        { s.filter with filterIndex := none }⟩) ⟨rfl, rfl, hskip⟩ readings.toList
    rw [hfilter] at hfill
    unfold integrationStart start
    dsimp only
    rw [hfill]
    rfl
  have hreads : Reads (begun s.light minutes r.1) := ⟨rfl, rfl, hskip⟩
  have hsamples : Samples ⟨begun s.light minutes r.1, r.2⟩ seconds := by
    refine ⟨⟨rfl, rfl⟩, Bool.eq_false_iff.mp hskip, Bool.false_ne_true, ?_, Or.inl rfl⟩
    exact Nat.not_lt.mpr (Nat.le_of_eq hgrace)
  have htask := task_of_samples ev hsamples
  rw [readEv_reads hreads] at htask
  rw [hbegun]
  exact Sensor.ext htask.1 htask.2

theorem off_reads : off.light.skipTask = false ∧ off.light.wasPaused = 0 := ⟨rfl, rfl⟩

/-- A start sets up the sampler as the first start does, but for whether it is dark. -/
theorem begun_eq (hskip : s.light.skipTask = false) (hgrace : s.light.wasPaused = 0)
    (iev : List ℚ) :
    begun s.light minutes iev =
      { begun off.light minutes iev with underThreshold := s.light.underThreshold } := by
  unfold begun filled
  rw [hskip, hgrace]
  rfl

/-- A sample that tells whether it is dark makes up for that. -/
theorem store_underThreshold (l : Light) (dark : Bool) :
    ({ l with underThreshold := dark }.store seconds ev) =
      { l.store seconds ev with
        underThreshold := if ev ≤ 20 then true else if 20 + 5 < ev then false else dark } := by
  unfold Light.store
  simp only [decide_eq_true_eq]

/-- A start that fits leaves what the first start leaves. -/
theorem integrationStart_forgets (h : Fits s (.integrationStart minutes readings seconds ev)) :
    s.integrationStart minutes readings seconds ev =
      off.integrationStart minutes readings seconds ev := by
  rcases h with ⟨hskip, hgrace, hdark⟩
  rw [integrationStart_eq hskip hgrace, integrationStart_eq off_reads.1 off_reads.2,
    begun_eq hskip hgrace, store_underThreshold]
  have hsame : (if firstSample readings ev ≤ 20 then true
      else if 20 + 5 < firstSample readings ev then false else s.light.underThreshold) =
      if firstSample readings ev ≤ 20 then true
      else if 20 + 5 < firstSample readings ev then false else false := by
    by_cases hnight : firstSample readings ev ≤ 20
    · rw [if_pos hnight, if_pos hnight]
    · rw [if_neg hnight, if_neg hnight]
      by_cases hday : 20 + 5 < firstSample readings ev
      · rw [if_pos hday, if_pos hday]
      · -- The sample does not tell, so it must not have been dark.
        rw [if_neg hday, if_neg hday]
        exact (hdark.resolve_right fun h => h.elim hnight hday)
  rw [hsame, ← store_underThreshold]
  rfl

/-- What a start makes of the threshold. -/
theorem integrationStart_underThreshold (hskip : s.light.skipTask = false)
    (hgrace : s.light.wasPaused = 0) :
    (s.integrationStart minutes readings seconds ev).light.underThreshold =
      if firstSample readings ev ≤ 20 then true
      else if 20 + 5 < firstSample readings ev then false else s.light.underThreshold := by
  rw [integrationStart_eq hskip hgrace]
  unfold Light.store
  simp only [decide_eq_true_eq]
  rfl

/-- A start that takes a sample fits exactly if it leaves what the first start leaves of the
    three. -/
theorem integrationStart_iff (hskip : s.light.skipTask = false) (hgrace : s.light.wasPaused = 0) :
    Fits s (.integrationStart minutes readings seconds ev) ↔
      (s.integrationStart minutes readings seconds ev).light.underThreshold =
          (off.integrationStart minutes readings seconds ev).light.underThreshold ∧
        (s.integrationStart minutes readings seconds ev).light.lockedSlope =
          (off.integrationStart minutes readings seconds ev).light.lockedSlope ∧
        (s.integrationStart minutes readings seconds ev).light.integrated =
          (off.integrationStart minutes readings seconds ev).light.integrated := by
  constructor
  · intro h
    rw [integrationStart_forgets h]
    exact ⟨rfl, rfl, rfl⟩
  · rintro ⟨hdark, -⟩
    rw [integrationStart_underThreshold hskip hgrace,
      integrationStart_underThreshold off_reads.1 off_reads.2] at hdark
    refine ⟨hskip, hgrace, ?_⟩
    by_cases hnight : firstSample readings ev ≤ 20
    · exact Or.inr (Or.inl hnight)
    · by_cases hday : 20 + 5 < firstSample readings ev
      · exact Or.inr (Or.inr hday)
      · rw [if_neg hnight, if_neg hnight, if_neg hday, if_neg hday] at hdark
        exact Or.inl hdark

end Start

section Runs

/-- The sensor, and one that was first started with the last start. -/
def watched : Watched Sensor → Call → Option (Watched Sensor) := watch call Call.restarts off

/-- The lock is right in every state that is reached with starts that fit. -/
theorem lock_sound {w : Watched Sensor}
    (h : Run watched (fun w c => Fits w.state c) (idle off) w) : Sound w := by
  have hlocked : Locked w.state.light := by
    refine h.invariant (fun w => Locked w.state.light) ?_ fun hlocked => absurd rfl hlocked
    intro w c w' hw _ hstep
    rw [← Option.some.inj hstep]
    exact call_locked c hw
  refine ⟨hlocked, fun c => call_kept c, fun t ht => ?_⟩
  have hforgets : ∀ (w : Watched Sensor) (c : Call), Fits w.state c → c.restarts = true →
      w.state.call c = off.call c := by
    intro w c hfits hrestarts
    cases c with
    | integrationStart minutes readings seconds ev => exact integrationStart_forgets hfits
    | stop => cases hrestarts
    | task seconds ev => cases hrestarts
    | start => cases hrestarts
    | readEv ev => cases hrestarts
    | pause on => cases hrestarts
    | skipTask on => cases hrestarts
  rw [state_eq hforgets h t ht]
  exact ⟨rfl, rfl, rfl⟩

/-- A ramp in daylight is started, and a sample is taken. -/
theorem lock_sound_day :
    ∃ w, steps watched (idle off)
        [.integrationStart 10 (List.Vector.replicate 32 30) 1 30, .task 60 30] = some w ∧
      Sound w :=
  ⟨_, rfl, lock_sound (.tail (.task 60 30)
    (.tail (.integrationStart 10 (List.Vector.replicate 32 30) 1 30) .refl
      ⟨rfl, rfl, Or.inl rfl⟩ rfl) trivial rfl)⟩

end Runs

section Steady

variable {c : ℚ}

/-- The median of the filter is the reading if all are the same. -/
theorem arrayMedian_const (c : ℚ) : arrayMedian (List.ofFn fun _ : Fin 3 => c) 3 = some c := by
  have hnone : Trimmed.outside c c (List.ofFn fun _ : Fin 3 => c) ≤ 0 := by
    refine Nat.le_of_eq (List.countP_eq_zero.mpr fun x hx => ?_)
    rcases List.mem_ofFn.mp hx with ⟨i, rfl⟩
    rw [Bool.or_eq_true, decide_eq_true_eq]
    exact fun h => h.elim (lt_irrefl c) (lt_irrefl c)
  have hmem := ranked_mem (i := 2) hnone (Nat.zero_le 2) (by rw [List.length_ofFn]; decide)
  have hlen : (List.ofFn fun _ : Fin 3 => c).length = (3 : UInt8).toNat := List.length_ofFn
  rw [arrayMedian_eq hlen]
  exact congrArg some (le_antisymm hmem.2 hmem.1)

/-- A filter that has been filled with the same readings. -/
def Steady (c : ℚ) (f : Filter) : Prop := f.filter = (fun _ => c) ∧ f.filterIndex ≠ none

theorem push_steady {f : Filter} (hf : Steady c f) :
    (f.push c).1 = c ∧ Steady c (f.push c).2 := by
  rcases f with ⟨filter, filterIndex, lastReading⟩
  rcases hf with ⟨rfl, hindex⟩
  cases filterIndex with
  | none => exact absurd rfl hindex
  | some i =>
      unfold Filter.push
      simp only [Function.update_eq_self_iff.mpr rfl, arrayMedian_const, Option.getD_some]
      exact ⟨trivial, rfl, Option.some_ne_none _⟩

theorem pushes_steady {f : Filter} (hf : Steady c f) (n : Nat) :
    Steady c (f.pushes (List.replicate n c)).2 := by
  induction n generalizing f with
  | zero => exact hf
  | succ n ih =>
      rw [List.replicate_succ, Filter.pushes]
      exact ih (push_steady hf).2

/-- The first sample of a start in steady light. -/
theorem firstSample_const (c : ℚ) : firstSample (List.Vector.replicate 32 c) c = c := by
  have hfirst : Steady c (Filter.push ⟨fun _ => 0, none, 0⟩ c).2 := ⟨rfl, Option.some_ne_none _⟩
  exact (push_steady (pushes_steady hfirst 31)).1

/-- The night is over in the dead band. -/
theorem not_decisive : ¬ (22 : ℚ) ≤ 20 ∧ ¬ (20 : ℚ) + 5 < 22 := by
  constructor
  · norm_num
  · norm_num

/-- A run at night ends, and another is started at dawn: it is dark, and would not be if
    this were the first. -/
theorem dark_remains :
    ∃ w t, steps watched (idle off)
        [.integrationStart 10 (List.Vector.replicate 32 10) 1 10, .stop,
          .integrationStart 10 (List.Vector.replicate 32 22) 60 22] = some w ∧
      w.fresh = some t ∧ w.state.light.underThreshold = true ∧
      t.light.underThreshold = false ∧ ¬ Sound w := by
  generalize hnight : off.integrationStart 10 (List.Vector.replicate 32 10) 1 10 = s
  have hs : s.stop.light.underThreshold = true ∧ s.stop.light.skipTask = false ∧
      s.stop.light.wasPaused = 0 := by
    refine ⟨?_, ?_, ?_⟩
    · change s.light.underThreshold = true
      rw [← hnight, integrationStart_underThreshold off_reads.1 off_reads.2, firstSample_const]
      exact if_pos (by norm_num)
    · rw [← hnight, integrationStart_eq off_reads.1 off_reads.2]
      rfl
    · rw [← hnight, integrationStart_eq off_reads.1 off_reads.2]
      rfl
  have hdark : (s.stop.integrationStart 10 (List.Vector.replicate 32 22) 60
      22).light.underThreshold = true := by
    rw [integrationStart_underThreshold hs.2.1 hs.2.2, firstSample_const,
      if_neg not_decisive.1, if_neg not_decisive.2]
    exact hs.1
  have hlight : (off.integrationStart 10 (List.Vector.replicate 32 22) 60
      22).light.underThreshold = false := by
    rw [integrationStart_underThreshold off_reads.1 off_reads.2, firstSample_const,
      if_neg not_decisive.1, if_neg not_decisive.2]
    rfl
  have hrun : steps watched (idle off)
      [.integrationStart 10 (List.Vector.replicate 32 10) 1 10, .stop,
        .integrationStart 10 (List.Vector.replicate 32 22) 60 22] =
      some ⟨s.stop.integrationStart 10 (List.Vector.replicate 32 22) 60 22,
        some (off.integrationStart 10 (List.Vector.replicate 32 22) 60 22)⟩ := by
    simp only [steps, watched, watch, idle, call, Call.restarts, if_true, hnight]
  refine ⟨_, _, hrun, rfl, hdark, hlight, fun h => ?_⟩
  have heq := (h.fresh _ rfl).1
  exact absurd (hdark.symm.trans (heq.trans hlight)) Bool.false_ne_true.symm

end Steady

end Sensor

end Shutter

end TimelapsePlus
