import TimelapsePlus.Shutter.Ticks

/-!
# A Pending Callback Is Called

A slot of the queue that is pending keeps its callback until it is called. It is
called after finitely many ticks, whatever else happens, as long as bulbs are
not asked for too often: a tick that services the queue brings it closer, and a
tick that does not may throw it back by no more than once around the clock.

How many such ticks there can be is bounded. A bulb is started when it has been
asked for, and perhaps once more from inside its own infrared code; the sync
input gives it a new length once; it is ended, if its length runs out before the
callback is called; and each infrared code is done once. `World.reserve` adds
these up.

## Main definitions

* `World.Called`: A callback has been called since an earlier state.
* `World.Pends`: A callback is pending in a slot.
* `World.Sound`: What holds of every state a run reaches.
* `World.fuse`: How far the callback in a slot is from being called.
* `World.reserve`: A bound on the number of ticks until it is.

## Theorems

* `service_pends`: Servicing the queue brings a callback closer, or calls it.
* `step_pends`: A pending callback stays until it is called.
* `step_reserve`: Every tick brings it closer.
* `pends_called`: It is called after finitely many ticks.
-/

namespace TimelapsePlus

namespace Shutter

open Word

/-- An event calls a callback. -/
def Event.calls (fn : Callback) : Event → Bool
  | .called fn' _ => decide (fn' = fn)
  | _ => false

namespace World

/-- A callback has been called since an earlier state. -/
def Called (w v : World) (fn : Callback) : Prop :=
  w.log.countP (Event.calls fn) < v.log.countP (Event.calls fn)

/-- A callback is pending in a slot. -/
structure Pends (w : World) (i : Fin 3) (fn : Callback) : Prop where
  holds : (w.clock.queue i).fn = fn
  pos : (w.clock.queue i).time ≠ 0
  word : (w.clock.queue i).time < 65536

/-- The times in the queue and the length of the exposure are words, and a bulb
    is not asked for while one is being ended. -/
structure Sound (w : World) : Prop where
  word : ∀ i, (w.clock.queue i).time < 65536
  duration : w.clock.bulbDuration < 4294967296
  sync : w.clock.bulbDurationPCsync < 4294967296
  frames : w.clock.newBulb = true → ∀ f ∈ w.frames, f.kind = .start

theorem Pends.of_keeps {w v : World} {i : Fin 3} {fn : Callback} (h : w.Pends i fn)
    (hq : w.clock.queue.Keeps v.clock.queue) :
    v.clock.queue i = w.clock.queue i := by
  rcases hq i with heq | ⟨hfree, _⟩
  · exact heq
  · exact absurd hfree h.pos

theorem Pends.of_eq {w v : World} {i : Fin 3} {fn : Callback} (h : w.Pends i fn)
    (hq : v.clock.queue i = w.clock.queue i) : v.Pends i fn := by
  refine ⟨?_, ?_, ?_⟩
  · rw [hq]
    exact h.holds
  · rw [hq]
    exact h.pos
  · rw [hq]
    exact h.word

/-- Servicing one slot leaves the others alone that are pending. -/
theorem serviceSlot_other {w : World} (hin : w.inside = true) {i j : Fin 3} (hij : i ≠ j)
    (hpos : (w.clock.queue i).time ≠ 0) :
    (w.serviceSlot j).clock.queue i = w.clock.queue i := by
  unfold serviceSlot
  simp only
  split
  · rfl
  · split
    · have hports := call_ports (w := { w with
        clock.queue := Function.update w.clock.queue j { w.clock.queue j with time := 0 }
        log := .called (w.clock.queue j).fn (w.clock.queue j).request :: w.log }) hin
        (w.clock.queue j).fn
      rcases hports.queue i with heq | ⟨hfree, _⟩
      · rw [heq]
        exact Function.update_of_ne hij ..
      · simp only [Function.update_of_ne hij] at hfree
        exact absurd hfree hpos
    · exact Function.update_of_ne hij ..

theorem serviceSlot_skips {w : World} (hin : w.inside = true) (j : Fin 3) :
    (w.serviceSlot j).clock.skips = w.clock.skips := by
  unfold serviceSlot
  simp only
  split
  · rfl
  · split
    · have hports := call_ports (w := { w with
        clock.queue := Function.update w.clock.queue j { w.clock.queue j with time := 0 }
        log := .called (w.clock.queue j).fn (w.clock.queue j).request :: w.log }) hin
        (w.clock.queue j).fn
      rw [hports.clock]
    · rfl

/-- Servicing a slot that is pending calls its callback, or takes off what it has
    waited for. -/
theorem serviceSlot_self {w : World} (hin : w.inside = true) {i : Fin 3} {fn : Callback}
    (h : w.Pends i fn) :
    w.Called (w.serviceSlot i) fn ∨
      (w.serviceSlot i).Pends i fn ∧ ((w.serviceSlot i).clock.queue i).time =
        sub16 (w.clock.queue i).time (1 + w.clock.skips) := by
  unfold serviceSlot
  simp only
  rw [if_neg h.pos]
  by_cases hcall : sub16 (w.clock.queue i).time (1 + w.clock.skips) = 0
  · rw [if_pos hcall]
    have hports := call_ports (w := { w with
      clock.queue := Function.update w.clock.queue i { w.clock.queue i with time := 0 }
      log := .called (w.clock.queue i).fn (w.clock.queue i).request :: w.log }) hin
      (w.clock.queue i).fn
    rcases hports.log with ⟨es, hes, _⟩
    refine Or.inl ?_
    unfold Called
    rw [hes, List.countP_append, List.countP_cons_of_pos]
    · omega
    · rw [Event.calls, h.holds]
      exact decide_eq_true rfl
  · rw [if_neg hcall]
    refine Or.inr ⟨⟨?_, ?_, ?_⟩, ?_⟩
    · simp only [Function.update_self]
      exact h.holds
    · simp only [Function.update_self]
      exact hcall
    · simp only [Function.update_self]
      exact u16_lt _
    · simp only [Function.update_self]

theorem Steady.countP_calls_le {w v : World} (h : w.Steady v) (fn : Callback) :
    w.log.countP (Event.calls fn) ≤ v.log.countP (Event.calls fn) := by
  rcases h.log with ⟨es, hes, _⟩
  rw [hes, List.countP_append]
  exact Nat.le_add_left _ _

/-- Servicing slots that do not include a pending one leaves it alone. -/
theorem foldl_serviceSlot_other {w : World} (hin : w.inside = true) {i : Fin 3} {fn : Callback}
    (h : w.Pends i fn) (js : List (Fin 3)) (hi : i ∉ js) :
    (js.foldl serviceSlot w).Pends i fn ∧
      (js.foldl serviceSlot w).clock.queue i = w.clock.queue i ∧
      (js.foldl serviceSlot w).clock.skips = w.clock.skips := by
  induction js generalizing w with
  | nil => exact ⟨h, rfl, rfl⟩
  | cons j js ih =>
      rw [List.mem_cons, not_or] at hi
      have hother := serviceSlot_other hin hi.1 h.pos
      have hsteady := serviceSlot_steady hin j
      rcases ih (hsteady.inside.trans hin) (h.of_eq hother) hi.2 with ⟨hp, hq, hs⟩
      exact ⟨hp, hq.trans hother, hs.trans (serviceSlot_skips hin j)⟩

/-- Servicing the queue calls a pending callback, or takes off what it has waited
    for. -/
theorem service_pends {w : World} (hin : w.inside = true) {i : Fin 3} {fn : Callback}
    (h : w.Pends i fn) :
    w.Called w.service fn ∨ w.service.Pends i fn ∧
      (w.service.clock.queue i).time = sub16 (w.clock.queue i).time (1 + w.clock.skips) := by
  -- The slots before this one, this one, and the slots after it.
  have hsplit : ∃ js ks, List.finRange 3 = js ++ i :: ks ∧ i ∉ js ∧ i ∉ ks := by
    rcases List.append_of_mem (List.mem_finRange i) with ⟨js, ks, hsplit⟩
    have hnodup := List.nodup_finRange 3
    rw [hsplit, List.nodup_append, List.nodup_cons] at hnodup
    refine ⟨js, ks, hsplit, fun hi => ?_, hnodup.2.1.1⟩
    exact hnodup.2.2 i hi i List.mem_cons_self rfl
  rcases hsplit with ⟨js, ks, hsplit, hjs, hks⟩
  have hnote : (w.note .serviced).Pends i fn := ⟨h.holds, h.pos, h.word⟩
  have hst := foldl_serviceSlot_steady (w := w.note .serviced) hin js
  rcases foldl_serviceSlot_other (w := w.note .serviced) hin hnote js hjs with ⟨hp, hq, hs⟩
  have hin' := hst.inside.trans hin
  have hself := serviceSlot_self hin' hp
  have hsteady := serviceSlot_steady hin' i
  have hfold : (List.finRange 3).foldl serviceSlot (w.note .serviced) =
      ks.foldl serviceSlot ((js.foldl serviceSlot (w.note .serviced)).serviceSlot i) := by
    rw [hsplit, List.foldl_append, List.foldl_cons]
  have hservice : w.service.clock.queue =
      (ks.foldl serviceSlot ((js.foldl serviceSlot (w.note .serviced)).serviceSlot i)).clock.queue ∧
      w.service.log =
        (ks.foldl serviceSlot ((js.foldl serviceSlot (w.note .serviced)).serviceSlot i)).log := by
    rw [← hfold]
    exact ⟨rfl, rfl⟩
  have hbefore := hst.countP_calls_le fn
  rcases hself with hcalled | ⟨hpends, htime⟩
  · refine Or.inl ?_
    have hafter := (foldl_serviceSlot_steady (hsteady.inside.trans hin') ks).countP_calls_le fn
    unfold Called at hcalled ⊢
    rw [hservice.2]
    exact Nat.lt_of_le_of_lt hbefore (Nat.lt_of_lt_of_le hcalled hafter)
  · rcases foldl_serviceSlot_other (hsteady.inside.trans hin') hpends ks hks with ⟨hp', hq', _⟩
    refine Or.inr ⟨hp'.of_eq (by rw [hservice.1]), ?_⟩
    rw [hservice.1, hq', htime, hq, hs]
    rfl

theorem Stepped.countP_calls_le {w v : World} {a : Action} (h : w.Stepped a v) (fn : Callback) :
    w.log.countP (Event.calls fn) ≤ v.log.countP (Event.calls fn) := by
  rcases h.log with ⟨es, hes⟩
  rw [hes, List.countP_append]
  exact Nat.le_add_left _ _

theorem starting_queue (w : World) : w.starting.clock.queue = w.clock.queue := by
  rw [starting_eq]
  rfl

/-- A request leaves a pending slot alone, wherever it is made. -/
theorem Pends.callIn {w : World} {i : Fin 3} {fn : Callback} (h : w.Pends i fn) (time : Nat)
    (fn' : Callback) : (w.callIn time fn').clock.queue i = w.clock.queue i := by
  unfold World.callIn
  cases hfree : w.clock.queue.free with
  | none => rfl
  | some j =>
      have hij : i ≠ j := by
        intro hij
        rw [hij] at h
        exact h.pos (Queue.free_eq_some hfree)
      simp only
      split
      · exact Function.update_of_ne hij ..
      · exact Function.update_of_ne hij ..

theorem Pends.leave {w : World} {i : Fin 3} {fn : Callback} (h : w.Pends i fn) :
    w.leave.Pends i fn :=
  h.of_eq rfl

/-- What is called while the queue is serviced is called on that tick. -/
theorem Called.leave {w u v : World} {fn : Callback} (h : u.Called v fn) (hlog : u.log = w.log) :
    w.Called v.leave fn := by
  unfold Called at h ⊢
  rw [← hlog]
  exact h

/-- A tick calls a pending callback, or takes off what it has waited for, or
    leaves it as it is. -/
theorem Ticked.pends {w v : World} {i : Fin 3} {fn : Callback} (htick : w.Ticked v)
    (h : w.Pends i fn) : w.Called v fn ∨ v.Pends i fn := by
  cases htick with
  | sendsStart v _ _ _ hv =>
      have hstart : w.starting.Pends i fn := h.of_eq (by rw [starting_queue])
      exact Or.inr (hstart.of_eq (hstart.of_keeps hv.queue))
  | starts v _ hv =>
      have hstart : w.starting.Pends i fn := h.of_eq (by rw [starting_queue])
      exact Or.inr (hstart.of_eq (hstart.of_keeps hv.queue))
  | sendsStop v _ _ _ hv =>
      have hend : w.ending.Pends i fn := h.of_eq rfl
      exact Or.inr (hend.of_eq (hend.of_keeps hv.queue))
  | ends v _ _ _ hv =>
      have hend : w.ending.Pends i fn := h.of_eq rfl
      exact Or.inr (hend.of_eq (hend.of_keeps hv.queue))
  | syncs => exact Or.inr (h.of_eq rfl)
  | services =>
      have hpass : w.passing.Pends i fn := h.of_eq (by rw [w.passing_queue.1])
      rcases service_pends w.passing_inside hpass with hcalled | ⟨hp, _⟩
      · exact Or.inl (hcalled.leave w.passing_log)
      · exact Or.inr hp.leave

/-- A pending callback stays until it is called. -/
theorem step_pends {w v : World} {i : Fin 3} {fn : Callback} (a : Action) (h : w.Pends i fn)
    (hstep : w.step a = some v) : w.Called v fn ∨ v.Pends i fn := by
  cases step_stepped hstep with
  | tick htick => exact htick.pends h
  | resume hframes hresumed =>
      cases hresumed with
      | start v hv => exact Or.inr (h.of_eq (h.of_keeps (v := v) hv.queue))
      | stop v hv => exact Or.inr (h.of_eq (h.of_keeps (v := v) hv.queue))
  | callIn => exact Or.inr (h.of_eq (h.callIn _ _))
  | bulb => exact Or.inr (h.of_eq rfl)
  | cancelBulb => exact Or.inr (h.of_eq rfl)
  | environment => exact Or.inr (h.of_eq rfl)

theorem Sound.of_keeps {w v : World} (h : w.Sound) (hq : w.clock.queue.Keeps v.clock.queue)
    (hduration : v.clock.bulbDuration < 4294967296)
    (hsync : v.clock.bulbDurationPCsync < 4294967296)
    (hframes : v.clock.newBulb = true → ∀ f ∈ v.frames, f.kind = .start) : v.Sound := by
  refine ⟨fun i => ?_, hduration, hsync, hframes⟩
  rcases hq i with heq | ⟨_, _, hword⟩
  · rw [heq]
    exact h.word i
  · exact hword

theorem word_update {q : Queue} (h : ∀ i, (q i).time < 65536) (j : Fin 3) {s : Slot}
    (hs : s.time < 65536) (i : Fin 3) : (Function.update q j s i).time < 65536 := by
  by_cases hij : i = j
  · rw [hij, Function.update_self]
    exact hs
  · rw [Function.update_of_ne hij]
    exact h i

theorem serviceSlot_word {w : World} (hin : w.inside = true)
    (h : ∀ i, (w.clock.queue i).time < 65536) (j i : Fin 3) :
    ((w.serviceSlot j).clock.queue i).time < 65536 := by
  unfold serviceSlot
  simp only
  split
  · exact h i
  · split
    · have hports := call_ports (w := { w with
        clock.queue := Function.update w.clock.queue j { w.clock.queue j with time := 0 }
        log := .called (w.clock.queue j).fn (w.clock.queue j).request :: w.log }) hin
        (w.clock.queue j).fn
      rcases hports.queue i with heq | ⟨_, _, hword⟩
      · rw [heq]
        exact word_update h j (by simp only; omega) i
      · exact hword
    · exact word_update h j (u16_lt _) i

theorem service_word {w : World} (hin : w.inside = true)
    (h : ∀ i, (w.clock.queue i).time < 65536) (i : Fin 3) :
    (w.service.clock.queue i).time < 65536 := by
  have hall : ∀ (js : List (Fin 3)) (v : World), v.inside = true →
      (∀ i, (v.clock.queue i).time < 65536) →
      ((js.foldl serviceSlot v).clock.queue i).time < 65536 := by
    intro js
    induction js with
    | nil => exact fun v _ hv => hv i
    | cons j js ih =>
        intro v hv hword
        exact ih _ ((serviceSlot_steady hv j).inside.trans hv) (serviceSlot_word hv hword j)
  exact hall _ (w.note .serviced) hin h

theorem starting_frames (w : World) : w.starting.frames = w.enter.frames := by
  rw [starting_eq]

theorem enter_kinds {w : World} {kind : FrameKind} (h : ∀ f ∈ w.frames, f.kind = kind) :
    ∀ f ∈ w.enter.frames, f.kind = kind := by
  unfold enter
  cases hframes : w.frames with
  | nil => exact fun f hf => absurd hf List.not_mem_nil
  | cons g gs =>
      rw [hframes] at h
      intro f hf
      rcases List.mem_cons.mp hf with heq | hmem
      · rw [heq]
        exact h g List.mem_cons_self
      · exact h f (List.mem_cons_of_mem g hmem)

theorem passing_duration_lt {w : World} (h : w.clock.bulbDuration < 4294967296) :
    w.passing.clock.bulbDuration < 4294967296 := by
  cases hrun : w.clock.bulbRunning with
  | false =>
      rw [passing_duration_rest hrun]
      exact h
  | true =>
      rw [passing_duration hrun]
      exact sub32_lt _ _

/-- A tick keeps the state sound. -/
theorem Ticked.sound {w v : World} (htick : w.Ticked v) (h : w.Sound) : v.Sound := by
  -- A tick that ends a bulb leaves no length.
  have hending : ∀ v, w.ending.Ports v → v.clock.bulbDuration < 4294967296 := by
    intro v hv
    rw [hv.steady.bulbDuration]
    simp only [ending, note]
    omega
  cases htick with
  | sendsStart v hnew _ _ hv =>
      have hkeeps := hv.queue
      rw [starting_queue] at hkeeps
      refine h.of_keeps hkeeps ?_ ?_ fun _ f hf => ?_
      · exact Eq.trans_lt hv.steady.bulbDuration (starting_words h.duration).1
      · exact Eq.trans_lt hv.steady.bulbDurationPCsync (starting_words h.duration).2
      · rcases List.mem_cons.mp hf with heq | hmem
        · rw [heq]
        · rw [hv.frames, starting_frames] at hmem
          exact enter_kinds (h.frames hnew) f hmem
  | starts v hnew hv =>
      have hkeeps := hv.queue
      rw [starting_queue] at hkeeps
      refine h.of_keeps hkeeps (finishStart_duration_lt v) ?_ Bool.noConfusion
      exact Eq.trans_lt hv.steady.bulbDurationPCsync (starting_words h.duration).2
  | sendsStop v hnew _ _ hv =>
      refine h.of_keeps hv.queue (hending v hv)
        (Eq.trans_lt hv.steady.bulbDurationPCsync h.sync) fun hn => ?_
      have hsame : v.clock.newBulb = false := hv.steady.newBulb.trans hnew
      exact absurd (hsame.symm.trans hn) Bool.noConfusion
  | ends v hnew _ _ hv =>
      refine h.of_keeps hv.queue (hending v hv)
        (Eq.trans_lt hv.steady.bulbDurationPCsync h.sync) fun hn => ?_
      have hsame : v.clock.newBulb = false := hv.steady.newBulb.trans hnew
      exact absurd (hsame.symm.trans hn) Bool.noConfusion
  | syncs hnew =>
      refine ⟨h.word, h.sync, ?_, fun hn => absurd (hnew.symm.trans hn) Bool.noConfusion⟩
      simp only [leave, syncTick]
      omega
  | services hnew =>
      have hsteady := w.passing_steady
      have hwords : ∀ i, (w.passing.service.clock.queue i).time < 65536 := by
        refine service_word w.passing_inside ?_
        rw [w.passing_queue.1]
        exact h.word
      have hduration := Eq.trans_lt hsteady.bulbDuration (passing_duration_lt h.duration)
      have hsync := hsteady.bulbDurationPCsync.trans w.passing_sync.1
      have hsame := hsteady.newBulb.trans (w.passing_newBulb.trans hnew)
      generalize w.passing.service = u at hwords hduration hsync hsame ⊢
      refine ⟨hwords, hduration, Eq.trans_lt hsync h.sync, fun hn => ?_⟩
      exact absurd (hsame.symm.trans hn) Bool.noConfusion

theorem callIn_sound {w : World} (h : w.Sound) (time : Nat) (fn : Callback) :
    (w.callIn time fn).Sound := by
  unfold callIn
  cases w.clock.queue.free with
  | none => exact h
  | some i =>
      simp only
      split
      · exact ⟨word_update h.word i (u16_lt time), h.duration, h.sync, h.frames⟩
      · exact ⟨word_update h.word i (u16_lt time), h.duration, h.sync, h.frames⟩

/-- A step keeps the state sound. -/
theorem step_sound {w v : World} (a : Action) (h : w.Sound) (hstep : w.step a = some v) :
    v.Sound := by
  cases step_stepped hstep with
  | tick htick => exact htick.sound h
  | resume hframes hresumed =>
      cases hresumed with
      | start v hv =>
          have hsync : v.clock.bulbDurationPCsync = w.clock.bulbDurationPCsync :=
            hv.steady.bulbDurationPCsync
          exact h.of_keeps (v := v.finishStart.leave) hv.queue (finishStart_duration_lt v)
            (Eq.trans_lt hsync h.sync) Bool.noConfusion
      | stop v hv =>
          have hduration : v.clock.bulbDuration = w.clock.bulbDuration := hv.steady.bulbDuration
          have hsync : v.clock.bulbDurationPCsync = w.clock.bulbDurationPCsync :=
            hv.steady.bulbDurationPCsync
          refine h.of_keeps (v := v.finishEnd.leave) hv.queue (Eq.trans_lt hduration h.duration)
            (Eq.trans_lt hsync h.sync) fun hn f hf => ?_
          have hnew : w.clock.newBulb = true := hv.steady.newBulb.symm.trans hn
          have hfs : v.frames = _ := hv.frames
          refine h.frames hnew f ?_
          rw [hframes]
          refine List.mem_cons_of_mem _ ?_
          simp only at hfs
          rw [← hfs]
          exact hf
  | callIn => exact callIn_sound h _ _
  | bulb hframes =>
      refine ⟨h.word, u32_lt _, h.sync, fun _ f hf => ?_⟩
      simp only [bulb, hframes] at hf
      exact absurd hf List.not_mem_nil
  | cancelBulb =>
      refine ⟨h.word, ?_, h.sync, Bool.noConfusion⟩
      simp only [cancelBulb]
      omega
  | environment => exact ⟨h.word, h.duration, h.sync, h.frames⟩

theorem idle_sound (conf : Settings) (irTicks : Nat) (link : Link) :
    (idle conf irTicks link).Sound := by
  refine ⟨fun i => ?_, ?_, ?_, Bool.noConfusion⟩
  · simp only [idle, Clock.reset]
    omega
  · simp only [idle, Clock.reset]
    omega
  · simp only [idle, Clock.reset]
    omega

/-- The rest of the ticks that start a bulb, and of those that end one. -/
def starts (w : World) : Nat := w.frames.countP fun f => decide (f.kind = .start)
def stops (w : World) : Nat := w.frames.countP fun f => decide (f.kind = .stop)

/-- How far the callback in a slot is from being called, when a tick that is to
    be made up for may throw it back once around the clock. -/
def fuse (i : Fin 3) (w : World) : Nat :=
  (if w.clock.skips = 0 then 0 else 65536) + (w.clock.queue i).time

/-- Whether the bulb that is running may end before that. -/
def closing (i : Fin 3) (w : World) : Nat :=
  if w.clock.bulbRunning = true ∧ 0 < w.clock.bulbDuration ∧ w.clock.bulbDuration ≤ w.fuse i
  then 1 else 0

/-- Whether the sync input may give it a new length. -/
def armed (w : World) : Nat := if w.clock.bulbDurationPCsync = 0 then 0 else 1

/-- How often a running bulb may be given a new length. -/
def chances (w : World) : Nat :=
  (if w.clock.newBulb then (if w.irShutterState then 4 else 8) else 0) + 2 * w.starts + w.armed

/-- A bound on the number of ticks until the callback in a slot is called. -/
def reserve (i : Fin 3) (w : World) : Nat :=
  131075 * w.chances + 65538 * w.closing i + 65537 * w.stops + w.fuse i

theorem enter_starts (w : World) : w.enter.starts = w.starts := by
  unfold starts enter
  cases w.frames with
  | nil => rfl
  | cons f fs => simp only [List.countP_cons]

theorem enter_stops (w : World) : w.enter.stops = w.stops := by
  unfold stops enter
  cases w.frames with
  | nil => rfl
  | cons f fs => simp only [List.countP_cons]

theorem closing_le (i : Fin 3) (w : World) : w.closing i ≤ 1 := by
  unfold closing
  split <;> omega

theorem armed_le (w : World) : w.armed ≤ 1 := by
  unfold armed
  split <;> omega

theorem fuse_le {w : World} {i : Fin 3} {fn : Callback} (h : w.Pends i fn) :
    w.fuse i < 131072 := by
  have hword := h.word
  unfold fuse
  split <;> omega

/-- What a slot is thrown back by when a tick is to be made up for. -/
theorem fuse_skip {w v : World} {i : Fin 3} (hq : v.clock.queue i = w.clock.queue i) :
    v.fuse i ≤ w.fuse i + 65536 := by
  unfold fuse
  rw [hq]
  split <;> split <;> omega

theorem starts_of_frames {w v : World} (h : v.frames = w.frames) : v.starts = w.starts := by
  unfold starts
  rw [h]

theorem stops_of_frames {w v : World} (h : v.frames = w.frames) : v.stops = w.stops := by
  unfold stops
  rw [h]

theorem fuse_of_eq {w v : World} {i : Fin 3} (hq : v.clock.queue i = w.clock.queue i)
    (hskips : v.clock.skips = w.clock.skips) : v.fuse i = w.fuse i := by
  unfold fuse
  rw [hq, hskips]

theorem Ports.skips {w v : World} (h : w.Ports v) : v.clock.skips = w.clock.skips := by
  rw [h.clock]

/-- A tick that starts a bulb brings the callback closer. -/
theorem Ticked.reserve_start {w v : World} {i : Fin 3} {fn : Callback} (htick : w.Ticked v)
    (h : w.Pends i fn) (hnew : w.clock.newBulb = true) : v.reserve i + 1 ≤ w.reserve i := by
  have hclosing := closing_le i v
  have hstart : w.starting.Pends i fn := h.of_eq (by rw [starting_queue])
  have hskips : w.starting.clock.skips = w.clock.skips := by
    rw [starting_eq]
    rfl
  cases htick with
  | sendsStart v _ hunlit hlit hv =>
      have hnewv : v.clock.newBulb = true := by
        rw [hv.steady.newBulb, starting_eq]
        exact hnew
      have hframes := hv.frames.trans w.starting_frames
      have hstarts := (starts_of_frames hframes).trans w.enter_starts
      have hstops := (stops_of_frames hframes).trans w.enter_stops
      have hq : v.clock.queue i = w.clock.queue i := by
        rw [hstart.of_keeps hv.queue, starting_queue]
      have hfuse := fuse_of_eq hq (hv.skips.trans hskips)
      -- The bulb is still to be started, but its code is being sent now.
      have hafter : { v with frames := ⟨.start, w.irTicks⟩ :: v.frames }.leave.chances ≤
          7 + 2 * w.starts := by
        have hcount : { v with frames := ⟨.start, w.irTicks⟩ :: v.frames }.leave.starts =
            w.starts + 1 := by
          unfold World.starts at hstarts ⊢
          simp only [leave, List.countP_cons, decide_true, if_true]
          rw [hstarts]
        have harmed := armed_le { v with frames := ⟨.start, w.irTicks⟩ :: v.frames }.leave
        have hnew' : { v with frames := ⟨.start, w.irTicks⟩ :: v.frames }.leave.clock.newBulb =
            true := hnewv
        have hlit' : { v with frames := ⟨.start, w.irTicks⟩ :: v.frames }.leave.irShutterState =
            true := hlit
        unfold chances
        rw [hcount, if_pos hnew', if_pos hlit']
        omega
      have hbefore : 8 + 2 * w.starts ≤ w.chances := by
        unfold chances
        rw [if_pos hnew, hunlit, if_neg Bool.false_ne_true]
        omega
      have hstops' :
          { v with frames := ⟨.start, w.irTicks⟩ :: v.frames }.leave.stops = w.stops := by
        unfold stops at hstops ⊢
        simp only [leave, List.countP_cons, reduceCtorEq, decide_false, Bool.false_eq_true,
          if_false, Nat.add_zero]
        exact hstops
      have hfuse' : { v with frames := ⟨.start, w.irTicks⟩ :: v.frames }.leave.fuse i = w.fuse i :=
        hfuse
      unfold reserve
      rw [hstops', hfuse']
      omega
  | starts v _ hv =>
      have hframes := hv.frames.trans w.starting_frames
      have hstarts := (starts_of_frames hframes).trans w.enter_starts
      have hstops := (stops_of_frames hframes).trans w.enter_stops
      have hq : v.finishStart.leave.clock.queue i = w.clock.queue i := by
        refine (hstart.of_keeps hv.queue).trans ?_
        rw [starting_queue]
      have hfuse := fuse_skip hq
      have hafter : v.finishStart.leave.chances ≤ 1 + 2 * w.starts := by
        have hsame : v.finishStart.leave.starts = w.starts := hstarts
        have harmed := armed_le v.finishStart.leave
        unfold chances
        rw [hsame, if_neg (show ¬ v.finishStart.leave.clock.newBulb = true from Bool.false_ne_true)]
        omega
      have hbefore : 4 + 2 * w.starts ≤ w.chances := by
        unfold chances
        rw [if_pos hnew]
        split <;> omega
      have hstops' : v.finishStart.leave.stops = w.stops := hstops
      unfold reserve
      rw [hstops']
      omega
  | sendsStop _ h => exact absurd (hnew.symm.trans h) Bool.noConfusion
  | ends _ h => exact absurd (hnew.symm.trans h) Bool.noConfusion
  | syncs h => exact absurd (hnew.symm.trans h) Bool.noConfusion
  | services h => exact absurd (hnew.symm.trans h) Bool.noConfusion

/-- With no bulb asked for, the chances are those of the codes being sent and of
    the sync input. -/
theorem chances_of_not_new {w : World} (h : w.clock.newBulb = false) :
    w.chances = 2 * w.starts + w.armed := by
  unfold chances
  rw [h, if_neg Bool.false_ne_true, Nat.zero_add]

theorem armed_of_eq {w v : World} (h : v.clock.bulbDurationPCsync = w.clock.bulbDurationPCsync) :
    v.armed = w.armed := by
  unfold armed
  rw [h]

/-- A bulb that ends was going to, and is not going to again. -/
theorem closing_end {w v : World} {i : Fin 3} {fn : Callback} (h : w.Pends i fn)
    (hrun : w.clock.bulbRunning = true) (hone : w.clock.bulbDuration = 1)
    (hzero : v.clock.bulbDuration = 0) : w.closing i = 1 ∧ v.closing i = 0 := by
  have hpos : 1 ≤ w.fuse i := by
    have := h.pos
    unfold fuse
    omega
  unfold closing
  constructor
  · rw [if_pos ⟨hrun, by omega, by omega⟩]
  · rw [if_neg fun hc => by omega]

/-- Servicing the queue does not bring the end of a bulb before the callback. -/
theorem closing_service {w v : World} {i : Fin 3} {fn : Callback} (h : w.Pends i fn)
    (hword : w.clock.bulbDuration < 4294967296) (hrun : v.clock.bulbRunning = w.clock.bulbRunning)
    (hduration : w.clock.bulbRunning = true →
      v.clock.bulbDuration = sub32 w.clock.bulbDuration 1)
    (hfuse : v.fuse i + 1 ≤ w.fuse i) : v.closing i ≤ w.closing i := by
  have hle := fuse_le h
  unfold closing
  by_cases hv : v.clock.bulbRunning = true ∧ 0 < v.clock.bulbDuration ∧
      v.clock.bulbDuration ≤ v.fuse i
  · rcases hv with ⟨hrunning, hpos, hshort⟩
    have hrunw : w.clock.bulbRunning = true := hrun.symm.trans hrunning
    -- A length of zero wraps to one that lasts longer than any callback.
    have hsub := hduration hrunw
    unfold sub32 u32 at hsub
    rw [if_pos ⟨hrunning, hpos, hshort⟩, if_pos ⟨hrunw, by omega, by omega⟩]
  · rw [if_neg hv]
    exact Nat.zero_le _

/-- A tick while no bulb is asked for brings the callback closer, or calls it. -/
theorem Ticked.reserve_run {w v : World} {i : Fin 3} {fn : Callback} (htick : w.Ticked v)
    (h : w.Pends i fn) (hnew : w.clock.newBulb = false)
    (hword : w.clock.bulbDuration < 4294967296) :
    w.Called v fn ∨ v.reserve i + 1 ≤ w.reserve i := by
  have hchances := chances_of_not_new hnew
  have hone : sub32 w.clock.bulbDuration 1 = 0 → w.clock.bulbDuration = 1 := by
    intro hend
    unfold sub32 u32 at hend
    omega
  have hending : w.ending.Pends i fn := h.of_eq rfl
  cases htick with
  | sendsStart _ h => exact absurd (hnew.symm.trans h) Bool.noConfusion
  | starts _ h => exact absurd (hnew.symm.trans h) Bool.noConfusion
  | sendsStop v _ hrun hend hv =>
      have hclosing := closing_end (v := { v with frames := ⟨.stop, w.irTicks⟩ :: v.frames }.leave)
        h hrun (hone hend) hv.steady.bulbDuration
      have hstarts : { v with frames := ⟨.stop, w.irTicks⟩ :: v.frames }.leave.starts =
          w.starts := by
        have hsame := (starts_of_frames hv.frames).trans w.enter_starts
        unfold World.starts at hsame ⊢
        simp only [leave, List.countP_cons, reduceCtorEq, decide_false, Bool.false_eq_true,
          if_false, Nat.add_zero]
        exact hsame
      have hstops : { v with frames := ⟨.stop, w.irTicks⟩ :: v.frames }.leave.stops =
          w.stops + 1 := by
        have hsame := (stops_of_frames hv.frames).trans w.enter_stops
        unfold World.stops at hsame ⊢
        simp only [leave, List.countP_cons, decide_true, if_true]
        rw [hsame]
      have harmed : { v with frames := ⟨.stop, w.irTicks⟩ :: v.frames }.leave.armed = w.armed :=
        armed_of_eq hv.steady.bulbDurationPCsync
      have hfuse : { v with frames := ⟨.stop, w.irTicks⟩ :: v.frames }.leave.fuse i = w.fuse i :=
        fuse_of_eq (hending.of_keeps hv.queue) hv.skips
      have hnew' :
          { v with frames := ⟨.stop, w.irTicks⟩ :: v.frames }.leave.clock.newBulb = false :=
        hv.steady.newBulb.trans hnew
      refine Or.inr ?_
      unfold reserve
      rw [hchances, chances_of_not_new hnew', hclosing.1, hclosing.2, hstarts, hstops, harmed,
        hfuse]
      omega
  | ends v _ hrun hend hv =>
      have hclosing :=
        closing_end (v := v.finishEnd.leave) h hrun (hone hend) hv.steady.bulbDuration
      have hstarts : v.finishEnd.leave.starts = w.starts :=
        (starts_of_frames hv.frames).trans w.enter_starts
      have hstops : v.finishEnd.leave.stops = w.stops :=
        (stops_of_frames hv.frames).trans w.enter_stops
      have harmed : v.finishEnd.leave.armed = w.armed := armed_of_eq hv.steady.bulbDurationPCsync
      have hfuse : v.finishEnd.leave.fuse i ≤ w.fuse i + 65536 :=
        fuse_skip (hending.of_keeps hv.queue)
      have hnew' : v.finishEnd.leave.clock.newBulb = false := hv.steady.newBulb.trans hnew
      refine Or.inr ?_
      unfold reserve
      rw [hchances, chances_of_not_new hnew', hclosing.1, hclosing.2, hstarts, hstops, harmed]
      omega
  | syncs _ hrun hend harmed hpin =>
      have hle := closing_le i w.enter.syncTick.leave
      have hstarts : w.enter.syncTick.leave.starts = w.starts := w.enter_starts
      have hstops : w.enter.syncTick.leave.stops = w.stops := w.enter_stops
      have hfuse : w.enter.syncTick.leave.fuse i ≤ w.fuse i + 65536 := fuse_skip rfl
      -- The input is taken once.
      have hbefore : w.armed = 1 := by
        unfold armed
        rw [if_neg harmed]
      have hafter : w.enter.syncTick.leave.armed = 0 := rfl
      have hnew' : w.enter.syncTick.leave.clock.newBulb = false := hnew
      refine Or.inr ?_
      unfold reserve
      rw [hchances, chances_of_not_new hnew', hstarts, hstops, hbefore, hafter]
      omega
  | services _ hrun =>
      have hpass : w.passing.Pends i fn := h.of_eq (by rw [w.passing_queue.1])
      rcases service_pends w.passing_inside hpass with hcalled | ⟨hp, htime⟩
      · exact Or.inl (hcalled.leave w.passing_log)
      · have hsteady := w.passing_steady
        have hfuse : w.passing.service.leave.fuse i + 1 ≤ w.fuse i := by
          have hpos := hp.pos
          have hpos' := h.pos
          have hlt := h.word
          have hskips : w.passing.service.leave.clock.skips = 0 := rfl
          have htime' : (w.passing.service.leave.clock.queue i).time =
              sub16 (w.clock.queue i).time (1 + w.clock.skips) := by
            rw [← w.passing_queue.1, ← w.passing_queue.2]
            exact htime
          unfold fuse
          rw [hskips, htime', if_pos rfl]
          unfold sub16 u16
          by_cases hzero : w.clock.skips = 0
          · rw [if_pos hzero, hzero]
            omega
          · rw [if_neg hzero]
            omega
        have hnew' : w.passing.service.clock.newBulb = false :=
          hsteady.newBulb.trans (w.passing_newBulb.trans hnew)
        have hrunning := hsteady.bulbRunning.trans w.passing_bulbRunning
        have hframes := hsteady.frames.trans w.passing_frames
        have hsync := hsteady.bulbDurationPCsync.trans w.passing_sync.1
        have hduration := hsteady.bulbDuration
        -- What is known of the world after the tick is all that is needed of it.
        generalize w.passing.service = u at hfuse hnew' hrunning hframes hsync hduration ⊢
        have hclosing : u.leave.closing i ≤ w.closing i :=
          closing_service h hword hrunning (fun hr => hduration.trans (passing_duration hr)) hfuse
        have hstarts : u.leave.starts = w.starts := (starts_of_frames hframes).trans w.enter_starts
        have hstops : u.leave.stops = w.stops := (stops_of_frames hframes).trans w.enter_stops
        have harmed : u.leave.armed = w.armed := armed_of_eq hsync
        refine Or.inr ?_
        unfold reserve
        rw [hchances, chances_of_not_new (w := u.leave) hnew', hstarts, hstops, harmed]
        omega

/-- The rest of a tick brings the callback closer. -/
theorem Resumed.reserve {w v : World} {kind : FrameKind} {left : Nat} {fs : List Frame} {i : Fin 3}
    {fn : Callback} (hresumed : w.Resumed fs kind v) (hframes : w.frames = ⟨kind, left⟩ :: fs)
    (h : w.Pends i fn) (hsound : w.Sound) : v.reserve i + 1 ≤ w.reserve i := by
  have hle := closing_le i v
  cases hresumed with
  | start v hv =>
      have hfs : v.frames = fs := hv.frames
      have hstarts : w.starts = v.finishStart.leave.starts + 1 := by
        unfold World.starts
        rw [hframes]
        simp only [leave, finishStart, hfs, List.countP_cons, decide_true, if_true]
      have hstops : w.stops = v.finishStart.leave.stops := by
        unfold World.stops
        rw [hframes]
        simp only [leave, finishStart, hfs, List.countP_cons, reduceCtorEq, decide_false,
          Bool.false_eq_true, if_false, Nat.add_zero]
      have hfuse : v.finishStart.leave.fuse i ≤ w.fuse i + 65536 :=
        fuse_skip (h.of_keeps (v := v) hv.queue)
      have harmed : v.finishStart.leave.armed = w.armed := armed_of_eq hv.steady.bulbDurationPCsync
      have hbefore : 2 * w.starts + w.armed ≤ w.chances := by
        unfold chances
        omega
      have hafter := chances_of_not_new (w := v.finishStart.leave) rfl
      unfold World.reserve
      rw [hafter, ← hstops, harmed]
      omega
  | stop v hv =>
      have hfs : v.frames = fs := hv.frames
      -- No bulb has been asked for while one is being ended.
      have hnew : w.clock.newBulb = false := by
        by_contra hnew
        rw [Bool.not_eq_false] at hnew
        have hkind := hsound.frames hnew ⟨.stop, left⟩ (by rw [hframes]; exact List.mem_cons_self)
        exact FrameKind.noConfusion hkind
      have hstarts : w.starts = v.finishEnd.leave.starts := by
        unfold World.starts
        rw [hframes]
        simp only [leave, finishEnd, hfs, List.countP_cons, reduceCtorEq, decide_false,
          Bool.false_eq_true, if_false, Nat.add_zero]
      have hstops : w.stops = v.finishEnd.leave.stops + 1 := by
        unfold World.stops
        rw [hframes]
        simp only [leave, finishEnd, hfs, List.countP_cons, decide_true, if_true]
      have hfuse : v.finishEnd.leave.fuse i ≤ w.fuse i + 65536 :=
        fuse_skip (h.of_keeps (v := v) hv.queue)
      have harmed : v.finishEnd.leave.armed = w.armed := armed_of_eq hv.steady.bulbDurationPCsync
      have hrest : v.finishEnd.leave.closing i = 0 := by
        unfold closing
        rw [if_neg fun hc => Bool.false_ne_true hc.1]
      have hnew' : v.finishEnd.leave.clock.newBulb = false := hv.steady.newBulb.trans hnew
      unfold World.reserve
      rw [chances_of_not_new hnew, chances_of_not_new hnew', ← hstarts, harmed, hrest]
      omega

/-- Asking for a bulb. -/
def Action.asks : Action → Bool
  | .bulb _ => true
  | .tick _ | .resume | .callIn _ _ | .cancelBulb | .environment _ _ _ => false

/-- What asking for a bulb may throw a callback back by. -/
def Action.setback (a : Action) : Nat := if a.asks then 1048600 else 0

theorem sum_setback (as : List Action) :
    (as.map Action.setback).sum = 1048600 * as.countP Action.asks := by
  induction as with
  | nil => rfl
  | cons a as ih =>
      rw [List.map_cons, List.sum_cons, List.countP_cons, ih, Action.setback]
      split <;> omega

/-- A request changes the queue and what is known of it. -/
theorem callIn_eq (w : World) (time : Nat) (fn : Callback) : ∃ q next log,
    w.callIn time fn = { w with clock.queue := q, nextRequest := next, log := log } := by
  unfold callIn
  cases w.clock.queue.free with
  | none => exact ⟨_, _, _, rfl⟩
  | some j =>
      simp only
      split
      · exact ⟨_, _, _, rfl⟩
      · exact ⟨_, _, _, rfl⟩

/-- A request made elsewhere is nothing to a pending callback. -/
theorem Pends.callIn_reserve {w : World} {i : Fin 3} {fn : Callback} (h : w.Pends i fn)
    (time : Nat) (fn' : Callback) : (w.callIn time fn').reserve i = w.reserve i := by
  have hq := h.callIn time fn'
  rcases w.callIn_eq time fn' with ⟨q, next, log, heq⟩
  rw [heq] at hq ⊢
  have hfuse : { w with clock.queue := q, nextRequest := next, log := log }.fuse i = w.fuse i :=
    fuse_of_eq hq rfl
  have hclosing : { w with clock.queue := q, nextRequest := next, log := log }.closing i =
      w.closing i := by
    unfold closing
    rw [hfuse]
  unfold reserve
  rw [hfuse, hclosing]
  rfl

/-- A step brings a pending callback closer, but for asking for a bulb. -/
theorem step_reserve {w v : World} {i : Fin 3} {fn : Callback} (a : Action) (h : w.Pends i fn)
    (hsound : w.Sound) (hstep : w.step a = some v) :
    w.Called v fn ∨ v.reserve i + (if a.passes then 1 else 0) ≤ w.reserve i + a.setback := by
  cases step_stepped hstep with
  | tick htick =>
      by_cases hnew : w.clock.newBulb = true
      · exact Or.inr (htick.reserve_start h hnew)
      · rw [Bool.not_eq_true] at hnew
        exact htick.reserve_run h hnew hsound.duration
  | resume hframes hresumed => exact Or.inr (hresumed.reserve hframes h hsound)
  | callIn => exact Or.inr (Nat.le_of_eq (h.callIn_reserve _ _))
  | @bulb duration =>
      have hstarts : (w.bulb duration).starts = w.starts := rfl
      have hstops : (w.bulb duration).stops = w.stops := rfl
      have hfuse : (w.bulb duration).fuse i = w.fuse i := rfl
      have harmed : (w.bulb duration).armed = w.armed := rfl
      have hrest : (w.bulb duration).closing i = 0 := by
        unfold closing
        rw [if_neg fun hc => Bool.false_ne_true hc.1]
      have hchances : (w.bulb duration).chances ≤ w.chances + 8 := by
        unfold chances
        rw [hstarts, harmed, if_pos (show (w.bulb duration).clock.newBulb = true from rfl)]
        split <;> omega
      have hsetback : (Action.bulb duration).setback = 1048600 := rfl
      refine Or.inr ?_
      rw [hsetback]
      unfold reserve
      rw [hstops, hfuse, hrest]
      simp only [Action.passes, Bool.false_eq_true, if_false]
      omega
  | cancelBulb =>
      have hstops : w.cancelBulb.stops = w.stops := rfl
      have hfuse : w.cancelBulb.fuse i = w.fuse i := rfl
      have hrest : w.cancelBulb.closing i = 0 := by
        unfold closing
        rw [if_neg fun hc => Bool.false_ne_true hc.1]
      have hchances : w.cancelBulb.chances ≤ w.chances := by
        have hafter := chances_of_not_new (w := w.cancelBulb) rfl
        have hstarts : w.cancelBulb.starts = w.starts := rfl
        have harmed : w.cancelBulb.armed = w.armed := rfl
        rw [hafter, hstarts, harmed]
        unfold chances
        omega
      have hsetback : Action.cancelBulb.setback = 0 := rfl
      refine Or.inr ?_
      rw [hsetback]
      unfold reserve
      rw [hstops, hfuse, hrest]
      simp only [Action.passes, Bool.false_eq_true, if_false]
      omega
  | environment => exact Or.inr (Nat.le_refl _)

/-- Between its request and its call a callback is pending in its slot. -/
def Follows (w : World) (i : Fin 3) (fn : Callback) (v : World) : Prop :=
  w.Called v fn ∨ v.Pends i fn ∧ v.Sound ∧
    v.log.countP (Event.calls fn) = w.log.countP (Event.calls fn)

theorem step_follows {w v u : World} {i : Fin 3} {fn : Callback} (a : Action)
    (h : w.Follows i fn v) (hstep : v.step a = some u) : w.Follows i fn u := by
  have hle := (step_stepped hstep).countP_calls_le fn
  rcases h with hcalled | ⟨hpends, hsound, hcount⟩
  · exact Or.inl (Nat.lt_of_lt_of_le hcalled hle)
  · rcases step_pends a hpends hstep with hcalled | hpends'
    · exact Or.inl (Eq.trans_lt hcount.symm hcalled)
    · by_cases hcalled : w.Called u fn
      · exact Or.inl hcalled
      · refine Or.inr ⟨hpends', step_sound a hsound hstep, ?_⟩
        unfold Called at hcalled
        omega

/-- A pending callback is called after finitely many ticks, so many more for each
    bulb that is asked for. -/
theorem pends_called {w v : World} {i : Fin 3} {fn : Callback} {as : List Action}
    (h : w.Pends i fn) (hsound : w.Sound) (hpath : Path step (fun _ _ => True) w as v)
    (hlong : w.reserve i + 1048600 * as.countP Action.asks < as.countP Action.passes) :
    w.Called v fn := by
  rw [← sum_setback] at hlong
  refine hpath.reaches (w.Follows i fn) (fun v => w.Called v fn) (reserve i) Action.passes
    Action.setback (fun _ a _ hinv _ hstep => step_follows a hinv hstep) ?_ ?_
    (Or.inr ⟨h, hsound, rfl⟩) (Or.inr hlong)
  · intro s a t _ hcalled _ hstep
    exact Nat.lt_of_lt_of_le hcalled ((step_stepped hstep).countP_calls_le fn)
  · intro s a t hinv hnot _ hstep
    rcases hinv with hcalled | ⟨hpends, hs, hcount⟩
    · exact absurd hcalled hnot
    · refine (step_reserve a hpends hs hstep).imp_left fun hcalled => ?_
      exact Eq.trans_lt hcount.symm hcalled

end World

end Shutter

end TimelapsePlus
