import TimelapsePlus.Shutter.Duration
import TimelapsePlus.Shutter.Task

/-!
# The Time of the Clock

The clock keeps its time as milliseconds and seconds. Every call of `count` adds
a millisecond, but only one that services the queue carries them over into a
second, and no more than one second at a time. A tick on which a bulb starts,
ends, or takes the sync input returns before it comes to that. So the
milliseconds run over a thousand by as many of these ticks as have come since
the last one that carried, and the time is right as long as they fit a word.

How many of them can come in a row is bounded like the ticks of `World.reserve`
are: a bulb is started when it has been asked for, and perhaps once more from
inside its own infrared code; it takes the sync input once and it ends; and a
code that is done starts the bulb again, which may then end once more. But if
bulbs are asked for without a tick in between that carries, there is no bound.

The counter of an event has a word of its own, that is only added to.

## Main definitions

* `World.Carries`: The next tick services the queue and carries.
* `World.credit`: A bound on the ticks in a row that do not carry.
* `Timekeeper`: The state, with the number of ticks since one that carried.
* `Timekeeper.Label`: What happens next; `Clock::advance` is one tick after the
  other.
* `Timekeeper.Rested`: A bulb is asked for after a tick that carried.
* `Timekeeper.elapsed`: The number of ticks since the counter was set back.

## Theorems

* `Ticked.time`: What a tick does to the time.
* `Ticked.credit`: A tick that does not carry uses up some of the bound.
* `path_time`: A run keeps the time, step by step.
* `run_time`: The time is right, and so is the counter as far as its word goes.
* `time_short`: Where the counter and the time are not right.
-/

namespace TimelapsePlus

namespace Shutter

open Word

/-- The words the time is kept in. -/
def Clock.time (c : Clock) : Nat × Nat × Nat := (c.ms, c.eventMs, c.seconds)

namespace World

/-- The next tick goes on to the queue: no bulb starts on it, ends, or takes the sync
    input. -/
def Carries (w : World) : Prop :=
  w.clock.newBulb = false ∧ (w.clock.bulbRunning = true →
    sub32 w.clock.bulbDuration 1 ≠ 0 ∧ ¬ (w.clock.bulbDurationPCsync ≠ 0 ∧ w.syncPin = true))

instance (w : World) : Decidable w.Carries := inferInstanceAs (Decidable (_ ∧ (_ → _)))

theorem Ports.time {w v : World} (h : w.Ports v) : v.clock.time = w.clock.time := by
  rw [h.clock]
  rfl

/-- Servicing a slot takes no time. -/
theorem serviceSlot_time {w : World} (hin : w.inside = true) (i : Fin 3) :
    (w.serviceSlot i).clock.time = w.clock.time := by
  unfold serviceSlot
  simp only
  split
  · rfl
  · split
    · exact (call_ports (by exact hin) (w.clock.queue i).fn).time
    · rfl

theorem foldl_serviceSlot_time {w : World} (hin : w.inside = true) (js : List (Fin 3)) :
    (js.foldl serviceSlot w).clock.time = w.clock.time := by
  induction js generalizing w with
  | nil => rfl
  | cons j js ih =>
      rw [List.foldl_cons, ih ((serviceSlot_steady hin j).inside.trans hin)]
      exact serviceSlot_time hin j

/-- The carry of a tick that services the queue. -/
theorem service_time {w : World} (hin : w.inside = true) : w.service.clock.time =
    if 1000 ≤ w.clock.ms then (w.clock.ms - 1000, w.clock.eventMs, u32 (w.clock.seconds + 1))
    else w.clock.time := by
  have hfold := foldl_serviceSlot_time (w := w.note .serviced) hin (List.finRange 3)
  have hms := congrArg Prod.fst hfold
  have hevent := congrArg (fun t => t.2.1) hfold
  have hseconds := congrArg (fun t => t.2.2) hfold
  simp only [Clock.time, note] at hms hevent hseconds
  simp only [service, Clock.time, note, hms, hevent, hseconds]
  split
  · rfl
  · rfl

/-- What a tick does to the time: it adds a millisecond, and carries if it services the
    queue. -/
theorem Ticked.time {w v : World} (h : w.Ticked v) :
    v.clock.time = if w.Carries ∧ 1000 ≤ u16 (w.clock.ms + 1) then
      (u16 (w.clock.ms + 1) - 1000, u32 (w.clock.eventMs + 1), u32 (w.clock.seconds + 1))
    else (u16 (w.clock.ms + 1), u32 (w.clock.eventMs + 1), w.clock.seconds) := by
  -- A tick that does not carry adds a millisecond when it is entered.
  have hstart : ¬ w.Carries → w.starting.clock.time =
      (u16 (w.clock.ms + 1), u32 (w.clock.eventMs + 1), w.clock.seconds) := by
    intro _
    rw [starting_eq]
    rfl
  cases h with
  | sendsStart v hnew _ _ hv =>
      have hnot : ¬ w.Carries := fun hc => absurd (hnew.symm.trans hc.1) Bool.noConfusion
      rw [if_neg fun hc => hnot hc.1]
      exact hv.time.trans (hstart hnot)
  | starts v hnew hv =>
      have hnot : ¬ w.Carries := fun hc => absurd (hnew.symm.trans hc.1) Bool.noConfusion
      rw [if_neg fun hc => hnot hc.1]
      exact hv.time.trans (hstart hnot)
  | sendsStop v _ hrun hend hv =>
      rw [if_neg fun hc => (hc.1.2 hrun).1 hend]
      exact hv.time
  | ends v _ hrun hend hv =>
      rw [if_neg fun hc => (hc.1.2 hrun).1 hend]
      exact hv.time
  | syncs _ hrun _ harmed hpin =>
      rw [if_neg fun hc => (hc.1.2 hrun).2 ⟨harmed, hpin⟩]
      rfl
  | services hnew hrun =>
      have hcarries : w.Carries := ⟨hnew, hrun⟩
      have hpassing : w.passing.clock.time =
          (u16 (w.clock.ms + 1), u32 (w.clock.eventMs + 1), w.clock.seconds) := by
        rcases w.passing_eq with ⟨d, heq⟩
        rw [heq]
        rfl
      have hms := congrArg Prod.fst hpassing
      have hevent := congrArg (fun t => t.2.1) hpassing
      have hseconds := congrArg (fun t => t.2.2) hpassing
      simp only [Clock.time] at hms hevent hseconds
      refine (service_time w.passing_inside).trans ?_
      rw [hpassing, hms, hevent, hseconds]
      simp only [hcarries, true_and]

/-- The time after a tick is a millisecond later, as long as the milliseconds fit their
    word. -/
theorem Ticked.totalMs {w v : World} (h : w.Ticked v) (hms : w.clock.ms < 65535) :
    v.clock.totalMs = u32 (w.clock.totalMs + 1) ∧
      v.clock.eventMs = u32 (w.clock.eventMs + 1) ∧
      v.clock.ms = if w.Carries ∧ 1000 ≤ w.clock.ms + 1 then w.clock.ms + 1 - 1000
        else w.clock.ms + 1 := by
  have htime := h.time
  rw [u16_of_lt (by omega)] at htime
  have hvms := congrArg Prod.fst htime
  have hevent := congrArg (fun t => t.2.1) htime
  have hseconds := congrArg (fun t => t.2.2) htime
  unfold Clock.totalMs
  simp only [Clock.time] at hvms hevent hseconds
  split at hvms
  case isTrue hc =>
    simp only [if_pos hc] at hevent hseconds
    rw [hvms, hseconds, hevent, if_pos hc]
    refine ⟨?_, rfl, rfl⟩
    -- The second that is carried is a thousand of the milliseconds.
    unfold u32
    omega
  case isFalse hc =>
    simp only [if_neg hc] at hevent hseconds
    rw [hvms, hseconds, hevent, if_neg hc]
    refine ⟨?_, rfl, rfl⟩
    unfold u32
    omega

/-- A bound on the ticks in a row that do not carry: the chances of a bulb to get a new
    length are each good for two, and the one that is running may end. -/
def credit (w : World) : Nat :=
  2 * w.chances + if w.clock.bulbRunning = true ∧ w.clock.bulbDuration ≠ 0 then 1 else 0

/-- An infrared code that starts a bulb is the only one there is, and a bulb is not
    waiting to be started while one is being ended. -/
structure Coded (w : World) : Prop where
  starts : w.starts ≤ 1
  unlit : w.clock.newBulb = true → w.irShutterState = false → w.starts = 0
  frames : w.clock.newBulb = true → ∀ f ∈ w.frames, f.kind = .start

theorem Coded.credit_le {w : World} (h : w.Coded) : w.credit ≤ 23 := by
  have hstarts := h.starts
  have harmed := w.armed_le
  have hnew : (if w.clock.newBulb then (if w.irShutterState then 4 else 8) else 0) ≤ 8 := by
    split
    · split <;> omega
    · omega
  have hrun : (if w.clock.bulbRunning = true ∧ w.clock.bulbDuration ≠ 0 then 1 else 0) ≤ 1 := by
    split <;> omega
  unfold credit chances
  omega

/-- With no bulb asked for, the chances are those of the codes and of the sync input. -/
theorem credit_of_not_new {w : World} (h : w.clock.newBulb = false) :
    w.credit = 2 * (2 * w.starts + w.armed) +
      if w.clock.bulbRunning = true ∧ w.clock.bulbDuration ≠ 0 then 1 else 0 := by
  unfold credit
  rw [chances_of_not_new h]

theorem Coded.of_not_new {w : World} (hstarts : w.starts ≤ 1) (h : w.clock.newBulb = false) :
    w.Coded :=
  ⟨hstarts, fun hn => absurd (h.symm.trans hn) Bool.noConfusion,
    fun hn => absurd (h.symm.trans hn) Bool.noConfusion⟩

/-- The end of an exposure is one, and the last one for now. -/
theorem duration_ne_zero {d : Nat} (hend : sub32 d 1 = 0) : d ≠ 0 := by
  intro hd
  rw [hd] at hend
  exact absurd hend (by decide)

/-- A frame more, or none, on top of the frames a tick was entered with. -/
theorem starts_cons {w v : World} {kind : FrameKind} {n : Nat}
    (hframes : v.frames = w.enter.frames) :
    ({ v with frames := ⟨kind, n⟩ :: v.frames } : World).leave.starts =
      w.starts + if kind = .start then 1 else 0 := by
  have hsame := (starts_of_frames hframes).trans w.enter_starts
  unfold World.starts at hsame ⊢
  simp only [leave, List.countP_cons, decide_eq_true_eq]
  rw [hsame]

/-- A frame that ends a bulb is none that starts one. -/
theorem starts_stop {w v : World} {n : Nat} (hframes : v.frames = w.enter.frames) :
    ({ v with frames := ⟨.stop, n⟩ :: v.frames } : World).leave.starts = w.starts := by
  rw [starts_cons hframes, if_neg FrameKind.noConfusion, Nat.add_zero]

/-- A running bulb is no more than one. -/
theorem credit_le_of_not_new {w : World} (h : w.clock.newBulb = false) :
    w.credit ≤ 2 * (2 * w.starts + w.armed) + 1 := by
  rw [credit_of_not_new h]
  split <;> omega

/-- A tick that does not carry uses up some of the bound. -/
theorem Ticked.credit {w v : World} (htick : w.Ticked v) (h : w.Coded) :
    v.Coded ∧ (¬ w.Carries → v.credit + 1 ≤ w.credit) := by
  cases htick with
  | sendsStart v hnew hunlit hlit hv =>
      have hframes := hv.frames.trans w.starting_frames
      have hnewv : v.clock.newBulb = true := by
        rw [hv.steady.newBulb, starting_eq]
        exact hnew
      have hzero := h.unlit hnew hunlit
      have hcount : { v with frames := ⟨.start, w.irTicks⟩ :: v.frames }.leave.starts = 1 := by
        rw [starts_cons hframes, hzero, if_pos rfl]
      refine ⟨⟨Nat.le_of_eq hcount, fun _ hoff => ?_, fun _ f hf => ?_⟩, fun _ => ?_⟩
      · exact absurd (hlit.symm.trans hoff) Bool.noConfusion
      · rcases List.mem_cons.mp hf with hhead | htail
        · rw [hhead]
        · have hmem : f ∈ w.enter.frames := by rwa [← hframes]
          exact enter_kinds (h.frames hnew) f hmem
      · -- The bulb is still to be started, but its code is being sent now.
        have hbefore : 16 ≤ w.credit := by
          unfold World.credit chances
          rw [if_pos hnew, hunlit, if_neg Bool.false_ne_true]
          omega
        have harmed := armed_le { v with frames := ⟨.start, w.irTicks⟩ :: v.frames }.leave
        have hafter : { v with frames := ⟨.start, w.irTicks⟩ :: v.frames }.leave.chances ≤ 7 := by
          unfold chances
          rw [hcount, if_pos (show ({ v with frames := ⟨.start, w.irTicks⟩ :: v.frames } :
              World).leave.clock.newBulb = true from hnewv),
            if_pos (show ({ v with frames := ⟨.start, w.irTicks⟩ :: v.frames } :
              World).leave.irShutterState = true from hlit)]
          omega
        unfold World.credit at hbefore ⊢
        split <;> omega
  | starts v hnew hv =>
      have hstarts : v.finishStart.leave.starts = w.starts :=
        (starts_of_frames (hv.frames.trans w.starting_frames)).trans w.enter_starts
      refine ⟨Coded.of_not_new (hstarts.trans_le h.starts) rfl, fun _ => ?_⟩
      have hafter := credit_le_of_not_new (w := v.finishStart.leave) rfl
      have harmed := v.finishStart.leave.armed_le
      have hbefore : 8 + 4 * w.starts ≤ w.credit := by
        unfold World.credit chances
        rw [if_pos hnew]
        split <;> omega
      rw [hstarts] at hafter
      omega
  | sendsStop v hnew hrun hend hv =>
      have hnew' : { v with frames := ⟨.stop, w.irTicks⟩ :: v.frames }.leave.clock.newBulb =
          false := hv.steady.newBulb.trans hnew
      have hstarts := starts_stop (n := w.irTicks) hv.frames
      have harmed : { v with frames := ⟨.stop, w.irTicks⟩ :: v.frames }.leave.armed = w.armed :=
        armed_of_eq hv.steady.bulbDurationPCsync
      have hzero : { v with frames := ⟨.stop, w.irTicks⟩ :: v.frames }.leave.clock.bulbDuration =
          0 := hv.steady.bulbDuration
      refine ⟨Coded.of_not_new (hstarts.trans_le h.starts) hnew', fun _ => ?_⟩
      have hbefore := credit_of_not_new hnew
      have hafter := credit_of_not_new hnew'
      rw [if_pos ⟨hrun, duration_ne_zero hend⟩] at hbefore
      rw [if_neg fun hc => hc.2 hzero, hstarts, harmed] at hafter
      omega
  | ends v hnew hrun hend hv =>
      have hnew' : v.finishEnd.leave.clock.newBulb = false := hv.steady.newBulb.trans hnew
      have hstarts : v.finishEnd.leave.starts = w.starts :=
        (starts_of_frames hv.frames).trans w.enter_starts
      have harmed : v.finishEnd.leave.armed = w.armed := armed_of_eq hv.steady.bulbDurationPCsync
      refine ⟨Coded.of_not_new (hstarts.trans_le h.starts) hnew', fun _ => ?_⟩
      have hbefore := credit_of_not_new hnew
      have hafter := credit_of_not_new hnew'
      rw [if_pos ⟨hrun, duration_ne_zero hend⟩] at hbefore
      rw [if_neg fun hc => Bool.false_ne_true hc.1, hstarts, harmed] at hafter
      omega
  | syncs hnew hrun hend harmed hpin =>
      have hnew' : w.enter.syncTick.leave.clock.newBulb = false := hnew
      have hstarts : w.enter.syncTick.leave.starts = w.starts := w.enter_starts
      refine ⟨Coded.of_not_new (hstarts.trans_le h.starts) hnew', fun _ => ?_⟩
      -- The input is taken once.
      have hbefore : w.armed = 1 := by
        unfold armed
        rw [if_neg harmed]
      have hafter : w.enter.syncTick.leave.armed = 0 := rfl
      have hle := credit_le_of_not_new hnew'
      rw [hstarts, hafter] at hle
      rw [credit_of_not_new hnew, hbefore]
      omega
  | services hnew hrun =>
      have hsteady := w.passing_steady
      generalize w.passing.service = u at hsteady ⊢
      have hnew' : u.leave.clock.newBulb = false :=
        hsteady.newBulb.trans (w.passing_newBulb.trans hnew)
      have hstarts : u.leave.starts = w.starts :=
        (starts_of_frames (hsteady.frames.trans w.passing_frames)).trans w.enter_starts
      exact ⟨Coded.of_not_new (hstarts.trans_le h.starts) hnew',
        fun hnot => absurd ⟨hnew, hrun⟩ hnot⟩

/-- The rest of a tick does not add to the bound, and takes no time. -/
theorem Resumed.credit {w v : World} {kind : FrameKind} {left : Nat} {fs : List Frame}
    (hresumed : w.Resumed fs kind v) (hframes : w.frames = ⟨kind, left⟩ :: fs) (h : w.Coded) :
    v.Coded ∧ v.credit ≤ w.credit ∧ v.clock.time = w.clock.time := by
  have hcount : w.starts = (fs.countP fun f => decide (f.kind = .start)) +
      if kind = .start then 1 else 0 := by
    unfold World.starts
    rw [hframes, List.countP_cons]
    simp only [decide_eq_true_eq]
  cases hresumed with
  | start v hv =>
      have hstarts : v.finishStart.leave.starts + 1 = w.starts := by
        rw [hcount, if_pos rfl]
        exact congrArg (· + 1) (congrArg (List.countP _) hv.frames)
      have harmed : v.finishStart.leave.armed = w.armed := armed_of_eq hv.steady.bulbDurationPCsync
      have hle := h.starts
      refine ⟨Coded.of_not_new (by omega) rfl, ?_, hv.time⟩
      have hafter := credit_le_of_not_new (w := v.finishStart.leave) rfl
      rw [harmed] at hafter
      have hbefore : 2 * (2 * w.starts + w.armed) ≤ w.credit := by
        unfold World.credit chances
        omega
      omega
  | stop v hv =>
      -- No bulb has been asked for while one is being ended.
      have hnew : w.clock.newBulb = false := by
        by_contra hnew
        rw [Bool.not_eq_false] at hnew
        have hkind := h.frames hnew ⟨.stop, left⟩ (by rw [hframes]; exact List.mem_cons_self)
        exact FrameKind.noConfusion hkind
      have hnew' : v.finishEnd.leave.clock.newBulb = false := hv.steady.newBulb.trans hnew
      have hstarts : v.finishEnd.leave.starts = w.starts := by
        rw [hcount, if_neg FrameKind.noConfusion]
        exact congrArg (List.countP _) hv.frames
      have harmed : v.finishEnd.leave.armed = w.armed := armed_of_eq hv.steady.bulbDurationPCsync
      refine ⟨Coded.of_not_new (hstarts.trans_le h.starts) hnew', ?_, hv.time⟩
      have hbefore := credit_of_not_new hnew
      have hafter := credit_of_not_new hnew'
      rw [if_neg fun hc => Bool.false_ne_true hc.1, hstarts, harmed] at hafter
      omega

/-- A step that is no tick takes no time, and does not add to the bound unless it asks
    for a bulb. -/
theorem Stepped.credit {w v : World} {a : Action} (hstepped : w.Stepped a v) (h : w.Coded)
    (htick : a.isTick = false) :
    v.Coded ∧ (a.asks = false → v.credit ≤ w.credit) ∧ v.clock.time = w.clock.time := by
  cases hstepped with
  | tick => exact absurd htick Bool.noConfusion
  | resume hframes hresumed =>
      have hrest := hresumed.credit hframes h
      exact ⟨hrest.1, fun _ => hrest.2.1, hrest.2.2⟩
  | callIn hframes =>
      rcases w.callIn_eq _ _ with ⟨q, next, log, heq⟩
      rw [heq]
      exact ⟨⟨h.starts, h.unlit, h.frames⟩, fun _ => Nat.le_refl _, rfl⟩
  | bulb hframes =>
      refine ⟨⟨h.starts, fun _ _ => ?_, fun _ f hf => ?_⟩, Bool.noConfusion, rfl⟩
      · unfold World.starts
        exact (congrArg (List.countP _) hframes).trans rfl
      · have hmem : f ∈ w.frames := hf
        rw [hframes] at hmem
        exact absurd hmem List.not_mem_nil
  | cancelBulb =>
      have hafter := credit_le_of_not_new (w := w.cancelBulb) rfl
      have hrest := credit_of_not_new (w := w.cancelBulb) rfl
      rw [if_neg fun hc => Bool.false_ne_true hc.1] at hrest
      refine ⟨Coded.of_not_new h.starts rfl, fun _ => ?_, rfl⟩
      have hstarts : w.cancelBulb.starts = w.starts := rfl
      have harmed : w.cancelBulb.armed = w.armed := rfl
      rw [hrest, hstarts, harmed]
      unfold World.credit chances
      omega
  | environment => exact ⟨⟨h.starts, h.unlit, h.frames⟩, fun _ => Nat.le_refl _, rfl⟩

end World

/-- The state, and the number of ticks since the last that carried, which is not in the
    code. -/
structure Timekeeper where
  world : World
  lost : Nat

namespace Timekeeper

/-- What happens next. -/
inductive Label
  | act (a : World.Action)
  | tare

/-- A tick. -/
def Label.isTick : Label → Bool
  | .act a => a.isTick
  | .tare => false

/-- Asking for a bulb. -/
def Label.asks : Label → Bool
  | .act a => a.asks
  | .tare => false

/-- One step. -/
def step (s : Timekeeper) : Label → Option Timekeeper
  | .act a =>
      (s.world.step a).map fun w =>
        { world := w
          lost := if a.isTick then if s.world.Carries then 0 else s.lost + 1 else s.lost }
  | .tare => if s.world.frames = [] then some { s with world := s.world.tare } else none

/-- A bulb is asked for when the last tick was one that carries. -/
def Rested (s : Timekeeper) (l : Label) : Prop := l.asks = true → s.lost = 0

instance (s : Timekeeper) (l : Label) : Decidable (s.Rested l) :=
  inferInstanceAs (Decidable (_ → _))

/-- The milliseconds run over by no more than the ticks that have not carried, and there
    are no more of those in a row than the bound. -/
structure Timely (s : Timekeeper) : Prop where
  coded : s.world.Coded
  lost : s.lost + s.world.credit ≤ 23
  ms : s.world.clock.ms ≤ 999 + s.lost

theorem step_timely {s t : Timekeeper} (l : Label) (h : s.Timely) (hok : s.Rested l)
    (hstep : s.step l = some t) : t.Timely := by
  have hlost := h.lost
  have hms := h.ms
  cases l with
  | tare =>
      simp only [step, Option.ite_none_right_eq_some, Option.some.injEq] at hstep
      rw [← hstep.2]
      exact ⟨⟨h.coded.starts, h.coded.unlit, h.coded.frames⟩, h.lost, h.ms⟩
  | act a =>
      simp only [step, Option.map_eq_some_iff] at hstep
      rcases hstep with ⟨v, hworld, rfl⟩
      have hstepped := World.step_stepped hworld
      cases htick : a.isTick with
      | false =>
          rcases hstepped.credit h.coded htick with ⟨hcoded, hcredit, htime⟩
          have hvms : v.clock.ms = s.world.clock.ms := congrArg Prod.fst htime
          refine ⟨hcoded, ?_, ?_⟩
          · simp only [Bool.false_eq_true, if_false]
            by_cases hasks : a.asks = true
            · have hzero := hok hasks
              have hle := hcoded.credit_le
              omega
            · have hle := hcredit (Bool.not_eq_true _ ▸ hasks)
              omega
          · simp only [Bool.false_eq_true, if_false]
            omega
      | true =>
          cases hstepped with
          | tick hticked =>
              rcases hticked.credit h.coded with ⟨hcoded, hcredit⟩
              have htime := (hticked.totalMs (by omega)).2.2
              have hle := hcoded.credit_le
              refine ⟨hcoded, ?_, ?_⟩
              · simp only [if_true]
                by_cases hcarries : s.world.Carries
                · rw [if_pos hcarries]
                  omega
                · have hless := hcredit hcarries
                  rw [if_neg hcarries]
                  omega
              · simp only [if_true]
                by_cases hcarries : s.world.Carries
                · rw [if_pos hcarries]
                  simp only [hcarries, true_and] at htime
                  split at htime
                  · omega
                  · omega
                · rw [if_neg hcarries]
                  simp only [hcarries, false_and, if_false] at htime
                  omega
          | _ => exact absurd htick Bool.noConfusion

/-- What a step makes of the number of ticks since the counter was set back. -/
def Label.counts (n : Nat) : Label → Nat
  | .act a => if a.isTick then n + 1 else n
  | .tare => 0

/-- The number of ticks since the counter was set back, or since the start. -/
def elapsed : Nat → List Label → Nat := List.foldl Label.counts

/-- The number is found as a word as well from the word it starts from. -/
theorem elapsed_word {n m : Nat} (ls : List Label) (h : u32 n = u32 m) :
    u32 (elapsed n ls) = u32 (elapsed m ls) := by
  induction ls generalizing n m with
  | nil => exact h
  | cons l ls ih =>
      refine ih ?_
      cases l with
      | tare => rfl
      | act a =>
          unfold u32 at h ⊢
          unfold Label.counts
          simp only
          split <;> omega

/-- A step that is no tick leaves the time, and one that is adds to it. -/
theorem step_time {s t : Timekeeper} (l : Label) (h : s.Timely) (hstep : s.step l = some t)
    (hevent : s.world.clock.eventMs < 4294967296) :
    u32 t.world.clock.totalMs = u32 (s.world.clock.totalMs + if l.isTick then 1 else 0) ∧
      t.world.clock.eventMs = u32 (l.counts s.world.clock.eventMs) := by
  have hlost := h.lost
  have hms := h.ms
  cases l with
  | tare =>
      simp only [step, Option.ite_none_right_eq_some, Option.some.injEq] at hstep
      obtain ⟨_, rfl⟩ := hstep
      exact ⟨rfl, rfl⟩
  | act a =>
      simp only [step, Option.map_eq_some_iff] at hstep
      rcases hstep with ⟨v, hworld, rfl⟩
      have hstepped := World.step_stepped hworld
      by_cases htick : a.isTick = true
      · cases hstepped with
        | tick hticked =>
            have htime := hticked.totalMs (by omega)
            refine ⟨?_, htime.2.1⟩
            simp only [Label.isTick, World.Action.isTick, if_true]
            rw [htime.1]
            unfold u32
            omega
        | _ => exact absurd htick Bool.noConfusion
      · have htime := (hstepped.credit h.coded (Bool.not_eq_true _ ▸ htick)).2.2
        have hvms : v.clock.ms = s.world.clock.ms := congrArg Prod.fst htime
        have hsame : v.clock.eventMs = s.world.clock.eventMs := congrArg (fun t => t.2.1) htime
        have hseconds : v.clock.seconds = s.world.clock.seconds := congrArg (fun t => t.2.2) htime
        simp only [Label.isTick, Label.counts, htick, Bool.false_eq_true, if_false]
        unfold Clock.totalMs
        rw [hvms, hsame, hseconds, u32_of_lt hevent]
        exact ⟨rfl, rfl⟩

/-- A run keeps the time. -/
theorem path_time {s t : Timekeeper} {ls : List Label} (hpath : Path step Rested s ls t)
    (h : s.Timely) (hevent : s.world.clock.eventMs < 4294967296) :
    t.Timely ∧ u32 t.world.clock.totalMs = u32 (s.world.clock.totalMs + ls.countP Label.isTick) ∧
      t.world.clock.eventMs = u32 (elapsed s.world.clock.eventMs ls) := by
  induction hpath with
  | nil => exact ⟨h, rfl, (u32_of_lt hevent).symm⟩
  | @cons s u t l ls hok hstep _ ih =>
      rcases step_time l h hstep hevent with ⟨htotal, hcounter⟩
      rcases ih (step_timely l h hok hstep) (by rw [hcounter]; exact u32_lt _) with
        ⟨htimely, hrest, helapsed⟩
      refine ⟨htimely, ?_, ?_⟩
      · rw [hrest, List.countP_cons]
        unfold u32 at htotal ⊢
        omega
      · rw [helapsed, hcounter]
        refine elapsed_word ls ?_
        unfold u32
        omega

theorem timely_start {w : World} (hframes : w.frames = []) (hms : w.clock.ms < 1000) :
    (Timekeeper.mk w 0).Timely := by
  have hzero : w.starts = 0 := by
    unfold World.starts
    rw [hframes]
    rfl
  have hcoded : w.Coded := by
    refine ⟨by omega, fun _ _ => hzero, fun _ f hf => ?_⟩
    rw [hframes] at hf
    exact absurd hf List.not_mem_nil
  have hcredit := hcoded.credit_le
  have hlast : w.clock.ms ≤ 999 + 0 := by omega
  exact ⟨hcoded, (Nat.zero_add _).trans_le hcredit, hlast⟩

end Timekeeper

open Timekeeper in
/-- Along a run the time is as many milliseconds later as there were ticks, the counter
    has counted those since it was set back, each as a word, and the milliseconds have
    not come to the end of theirs. -/
theorem run_time {w : World} {ls : List Timekeeper.Label} {s : Timekeeper} (hframes : w.frames = [])
    (hms : w.clock.ms < 1000) (hevent : w.clock.eventMs < 4294967296)
    (hpath : Path Timekeeper.step Rested ⟨w, 0⟩ ls s) :
    s.world.clock.totalMs = u32 (w.clock.totalMs + ls.countP Label.isTick) ∧
      s.world.clock.eventMs = u32 (elapsed w.clock.eventMs ls) ∧
      s.world.clock.ms + 1 < 65536 := by
  rcases path_time hpath (timely_start hframes hms) hevent with ⟨htimely, htotal, hcounter⟩
  refine ⟨?_, hcounter, ?_⟩
  · rw [← htotal]
    exact (u32_of_lt (u32_lt _)).symm
  · have hlost := htimely.lost
    have hrest := htimely.ms
    omega

/-- Two bulbs, each with a tick after it that carries, and the counter set back. -/
theorem run_time_bulbs : ∃ s,
    Path Timekeeper.step Timekeeper.Rested ⟨World.idle cableSettings 0 .none, 0⟩
      [.act (.bulb 1), .act (.tick .ok), .act (.tick .ok), .act (.tick .ok), .tare,
        .act (.bulb 1), .act (.tick .ok), .act (.tick .ok)] s ∧
      s.world.clock.totalMs = 5 ∧ s.world.clock.eventMs = 2 ∧ s.world.clock.ms + 1 < 65536 := by
  have hallowed : allowed Timekeeper.step Timekeeper.Rested ⟨World.idle cableSettings 0 .none, 0⟩
      [.act (.bulb 1), .act (.tick .ok), .act (.tick .ok), .act (.tick .ok), .tare,
        .act (.bulb 1), .act (.tick .ok), .act (.tick .ok)] = true := by
    decide +kernel
  rcases path_of_allowed _ hallowed with ⟨s, _, hpath⟩
  exact ⟨s, hpath, run_time rfl (by decide) (by decide) hpath⟩

namespace World

/-- With no infrared code to send, a tick starts a bulb that is asked for. -/
theorem count_started {w : World} (hnew : w.clock.newBulb = true)
    (hir : w.conf.camera.interface.hasIr = false) (io : Io) :
    ∃ v, w.starting.Ports v ∧ w.count io = v.finishStart.leave := by
  have hstart : (w.enter.note .skipped).prepareSync.conf = w.conf := by
    rw [prepareSync_eq]
    rfl
  have hhead := (w.enter.note .skipped).prepareSync.bulbStartHead_ports io
  have hinside : ((w.enter.note .skipped).prepareSync.bulbStartHead io).1.inside = true := by
    rw [hhead.inside, prepareSync_eq]
    rfl
  unfold count startTick
  rw [if_pos hnew]
  simp only
  cases hway : ((w.enter.note .skipped).prepareSync.bulbStartHead io).2 with
  | abort => exact ⟨_, hhead, rfl⟩
  | cable => exact ⟨_, hhead.trans (bulbStartCable_ports hinside), rfl⟩
  | send =>
      unfold bulbStartHead at hway
      simp only [hstart, hir, Bool.false_and, Bool.false_eq_true, if_false] at hway
      split at hway
      · split at hway
        · split at hway
          · exact Head.noConfusion hway
          · exact Head.noConfusion hway
        · exact Head.noConfusion hway
      · exact Head.noConfusion hway

/-- A bulb is asked for before every tick, and so none ends. -/
def Hasty (w : World) (a : Action) : Prop := a.isTick = true → w.clock.newBulb = true

/-- Bulbs that are asked for before every tick take the milliseconds around their word. -/
theorem exists_hasty {w : World} (hframes : w.frames = [])
    (hir : w.conf.camera.interface.hasIr = false) (hword : w.clock.ms < 65536) (n : Nat) :
    ∃ as v, Path step Hasty w as v ∧ ticks as = n ∧ v.clock.ms = u16 (w.clock.ms + n) ∧
      v.clock.seconds = w.clock.seconds := by
  induction n generalizing w with
  | zero => exact ⟨[], w, .nil w, rfl, (u16_of_lt hword).symm, rfl⟩
  | succ n ih =>
      rcases count_started (w := w.bulb 1) rfl hir .ok with ⟨u, hu, heq⟩
      have htime := (count_ticked (w.bulb 1) .ok).time
      rw [if_neg fun hc => Bool.noConfusion hc.1.1] at htime
      have hms : ((w.bulb 1).count .ok).clock.ms = u16 (w.clock.ms + 1) := congrArg Prod.fst htime
      have hseconds : ((w.bulb 1).count .ok).clock.seconds = w.clock.seconds :=
        congrArg (fun t => t.2.2) htime
      -- The tick goes through, and the main loop may ask for the next bulb.
      have hdone : ((w.bulb 1).count .ok).frames = [] := by
        rw [heq]
        refine hu.frames.trans ((w.bulb 1).starting_frames.trans ?_)
        simp only [enter, bulb, hframes]
      have hconf : ((w.bulb 1).count .ok).conf = w.conf := by
        rw [heq]
        refine hu.steady.conf.trans ?_
        rw [starting_eq]
        rfl
      rcases ih hdone (by rw [hconf]; exact hir) (by rw [hms]; exact u16_lt _) with
        ⟨as, v, hpath, hticks, hvms, hvseconds⟩
      refine ⟨.bulb 1 :: .tick .ok :: as, v, ?_, ?_, ?_, hvseconds.trans hseconds⟩
      · refine .cons _ _ Bool.noConfusion (if_pos hframes) ?_
        exact .cons _ _ (fun _ => rfl) rfl hpath
      · unfold ticks at hticks ⊢
        rw [List.countP_cons_of_neg Bool.false_ne_true, List.countP_cons_of_pos rfl, hticks]
      · rw [hvms, hms]
        unfold u16
        omega

/-- Ticks can come for as long as one likes, with no bulb asked for. -/
theorem exists_idle {s : Timekeeper} (n : Nat) :
    ∃ ls t, Path Timekeeper.step Timekeeper.Rested s ls t ∧
      ls.countP Timekeeper.Label.isTick = n ∧ ls.countP Timekeeper.Label.asks = 0 ∧
        ∀ m, Timekeeper.elapsed m ls = m + n := by
  induction n generalizing s with
  | zero => exact ⟨[], s, .nil s, rfl, rfl, fun _ => rfl⟩
  | succ n ih =>
      rcases ih (s := ⟨s.world.count .ok, if s.world.Carries then 0 else s.lost + 1⟩) with
        ⟨ls, t, hpath, hticks, hasks, helapsed⟩
      refine ⟨.act (.tick .ok) :: ls, t, .cons _ _ Bool.noConfusion rfl hpath, ?_, ?_, fun m => ?_⟩
      · rw [List.countP_cons_of_pos rfl, hticks]
      · rw [List.countP_cons_of_neg Bool.false_ne_true, hasks]
      · refine (helapsed (m + 1)).trans ?_
        omega

end World

/-- With no bulb asked for at all the counter comes around to zero, and it does not equal
    the number of ticks. And when bulbs are asked for before every tick, so that none ends,
    the milliseconds come around, and the time is short of them. -/
theorem time_short :
    (∃ ls s, Path Timekeeper.step Timekeeper.Rested ⟨World.idle cableSettings 0 .none, 0⟩ ls s ∧
      ls.countP Timekeeper.Label.asks = 0 ∧
        s.world.clock.eventMs ≠ Timekeeper.elapsed 0 ls) ∧
      ∃ as v, Path World.step World.Hasty (World.idle cableSettings 0 .none) as v ∧
        v.clock.totalMs ≠ u32 ((World.idle cableSettings 0 .none).clock.totalMs + ticks as) := by
  constructor
  · rcases World.exists_idle (s := ⟨World.idle cableSettings 0 .none, 0⟩) 4294967296 with
      ⟨ls, s, hpath, _, hasks, helapsed⟩
    have hevent : s.world.clock.eventMs = u32 (Timekeeper.elapsed 0 ls) :=
      (Timekeeper.path_time hpath (Timekeeper.timely_start rfl (by decide)) (by decide)).2.2
    refine ⟨ls, s, hpath, hasks, ?_⟩
    rw [hevent, helapsed]
    decide
  · rcases World.exists_hasty (w := World.idle cableSettings 0 .none) rfl rfl (by decide) 65536 with
      ⟨as, v, hpath, hticks, hms, hseconds⟩
    refine ⟨as, v, hpath, ?_⟩
    unfold Clock.totalMs
    rw [hms, hseconds, hticks]
    decide

end Shutter

end TimelapsePlus
