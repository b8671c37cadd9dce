import TimelapsePlus.Shutter.Effects

/-!
# What a Tick Does to an Exposure

A tick starts a bulb, ends one, takes the sync input, or services the queue, and
which of them depends on the clock and the sync pin alone. Starting a bulb and
ending one either go through on the tick or stop at the infrared code, and then
`resume` goes through with them later. `World.Ticked` lists the ways, each with
the state the exposure is in when it is done: all else that a tick which starts
or ends a bulb does on the way is `World.Ports`.

## Main definitions

* `World.starting`, `World.ending`: The exposure before a bulb is opened and
  before it is closed.
* `World.Ticked`: The ways a tick can go.
* `World.Resumed`: The ways the rest of one can.
* `World.Action.passes`: Ticks, and the rests of ticks.
* `World.Stepped`: The ways a step can.

## Theorems

* `starting_eq`: The lengths that a bulb starts with.
* `startTick_cases`, `endTick_cases`: A tick goes through or stops at the code.
* `count_ticked`, `resume_resumed`, `step_stepped`: There are no other ways.
-/

namespace TimelapsePlus

namespace Shutter

open Word

namespace World

/-- A tick has come to `shutter_bulbStartQuick`. -/
def starting (w : World) : World := (w.enter.note .skipped).prepareSync.note .bulbStart

/-- A tick has come to `shutter_bulbEndQuick`. -/
def ending (w : World) : World :=
  { w.enter.note .skipped with clock.bulbDuration := 0 }.note .bulbEnd

/-- The exposure has a tick less to go, if there is one. -/
def passing (w : World) : World :=
  if w.clock.bulbRunning then
    { w.enter with clock.bulbDuration := sub32 w.clock.bulbDuration 1 }
  else w.enter

/-- All but the length is left alone. -/
theorem passing_eq (w : World) :
    ∃ d, w.passing = { w.enter with clock.bulbDuration := d } := by
  unfold passing
  split
  · exact ⟨_, rfl⟩
  · exact ⟨_, rfl⟩

theorem passing_duration {w : World} (hrun : w.clock.bulbRunning = true) :
    w.passing.clock.bulbDuration = sub32 w.clock.bulbDuration 1 := by
  unfold passing
  rw [if_pos hrun]

theorem passing_duration_rest {w : World} (hrun : w.clock.bulbRunning = false) :
    w.passing.clock.bulbDuration = w.clock.bulbDuration := by
  unfold passing
  rw [hrun]
  rfl

section Passing

variable (w : World)

theorem passing_inside : w.passing.inside = true := by
  rcases w.passing_eq with ⟨d, heq⟩
  rw [heq]
  rfl

theorem passing_log : w.passing.log = w.log := by
  rcases w.passing_eq with ⟨d, heq⟩
  rw [heq]
  rfl

theorem passing_frames : w.passing.frames = w.enter.frames := by
  rcases w.passing_eq with ⟨d, heq⟩
  rw [heq]

theorem passing_newBulb : w.passing.clock.newBulb = w.clock.newBulb := by
  rcases w.passing_eq with ⟨d, heq⟩
  rw [heq]
  rfl

theorem passing_bulbRunning : w.passing.clock.bulbRunning = w.clock.bulbRunning := by
  rcases w.passing_eq with ⟨d, heq⟩
  rw [heq]
  rfl

theorem passing_sync :
    w.passing.clock.bulbDurationPCsync = w.clock.bulbDurationPCsync ∧
      w.passing.syncPin = w.syncPin := by
  rcases w.passing_eq with ⟨d, heq⟩
  rw [heq]
  exact ⟨rfl, rfl⟩

theorem passing_queue :
    w.passing.clock.queue = w.clock.queue ∧ w.passing.clock.skips = w.clock.skips := by
  rcases w.passing_eq with ⟨d, heq⟩
  rw [heq]
  exact ⟨rfl, rfl⟩

end Passing

/-- Servicing the queue leaves the exposure where the tick has brought it. -/
theorem passing_steady (w : World) : w.passing.Steady w.passing.service :=
  service_steady w.passing_inside

/-- The ways a tick can go. -/
inductive Ticked (w : World) : World → Prop
  /-- A bulb is started, and the tick stops at the infrared code. -/
  | sendsStart (v : World) (hnew : w.clock.newBulb = true) (hunlit : w.irShutterState = false)
      (hlit : v.irShutterState = true) (hv : w.starting.Ports v) :
      Ticked w { v with frames := ⟨.start, w.irTicks⟩ :: v.frames }.leave
  /-- A bulb is started. -/
  | starts (v : World) (hnew : w.clock.newBulb = true) (hv : w.starting.Ports v) :
      Ticked w v.finishStart.leave
  /-- A bulb is ended, and the tick stops at the infrared code. -/
  | sendsStop (v : World) (hnew : w.clock.newBulb = false) (hrun : w.clock.bulbRunning = true)
      (hend : sub32 w.clock.bulbDuration 1 = 0) (hv : w.ending.Ports v) :
      Ticked w { v with frames := ⟨.stop, w.irTicks⟩ :: v.frames }.leave
  /-- A bulb is ended. -/
  | ends (v : World) (hnew : w.clock.newBulb = false) (hrun : w.clock.bulbRunning = true)
      (hend : sub32 w.clock.bulbDuration 1 = 0) (hv : w.ending.Ports v) :
      Ticked w v.finishEnd.leave
  /-- The sync input is taken. -/
  | syncs (hnew : w.clock.newBulb = false) (hrun : w.clock.bulbRunning = true)
      (hend : sub32 w.clock.bulbDuration 1 ≠ 0) (harmed : w.clock.bulbDurationPCsync ≠ 0)
      (hpin : w.syncPin = true) : Ticked w w.enter.syncTick.leave
  /-- The queue is serviced. -/
  | services (hnew : w.clock.newBulb = false)
      (hrun : w.clock.bulbRunning = true → sub32 w.clock.bulbDuration 1 ≠ 0 ∧
        ¬ (w.clock.bulbDurationPCsync ≠ 0 ∧ w.syncPin = true)) :
      Ticked w w.passing.service.leave

/-- The ways the rest of a tick that has sent an infrared code can go. -/
inductive Resumed (w : World) (fs : List Frame) : FrameKind → World → Prop
  | start (v : World) (hv : { w with frames := fs, inside := true }.Ports v) :
      Resumed w fs .start v.finishStart.leave
  | stop (v : World) (hv : { w with frames := fs, inside := true }.Ports v) :
      Resumed w fs .stop v.finishEnd.leave

/-- Looking at the sync input sets the lengths of the exposure. -/
theorem prepareSync_eq (w : World) : w.prepareSync =
    { w with
      clock.bulbDurationPCsync :=
        if w.conf.auxPort = .sync ∧ w.syncPin = false ∧
            w.conf.camera.bulbEndOffset < w.clock.bulbDuration then
          w.clock.bulbDuration - w.conf.camera.bulbEndOffset
        else 0
      clock.bulbDuration :=
        if w.conf.auxPort = .sync ∧ w.syncPin = false ∧ w.conf.pcSyncRequired = true then
          u32 (w.clock.bulbDuration + 2000)
        else w.clock.bulbDuration } := by
  unfold prepareSync
  by_cases haux : w.conf.auxPort = .sync
  · cases hpin : w.syncPin with
    | false => simp only [haux, decide_true, Bool.not_false, Bool.and_self, if_true, true_and]
    | true =>
        simp only [haux, decide_true, Bool.not_true, Bool.and_false, Bool.false_eq_true, if_false,
          reduceCtorEq, false_and, and_false]
  · simp only [haux, decide_false, Bool.false_and, Bool.false_eq_true, if_false, false_and]

/-- The lengths that a bulb starts with. -/
theorem starting_eq (w : World) : w.starting =
    { w.enter with
      clock.bulbDurationPCsync :=
        if w.conf.auxPort = .sync ∧ w.syncPin = false ∧
            w.conf.camera.bulbEndOffset < w.clock.bulbDuration then
          w.clock.bulbDuration - w.conf.camera.bulbEndOffset
        else 0
      clock.bulbDuration :=
        if w.conf.auxPort = .sync ∧ w.syncPin = false ∧ w.conf.pcSyncRequired = true then
          u32 (w.clock.bulbDuration + 2000)
        else w.clock.bulbDuration
      log := .bulbStart :: .skipped :: w.log } := by
  rw [starting, prepareSync_eq]
  rfl

/-- The lengths that a bulb is started with are words. -/
theorem starting_words {w : World} (h : w.clock.bulbDuration < 4294967296) :
    w.starting.clock.bulbDuration < 4294967296 ∧
      w.starting.clock.bulbDurationPCsync < 4294967296 := by
  rw [starting_eq]
  simp only
  constructor
  · split
    · exact u32_lt _
    · exact h
  · split
    · exact Nat.lt_of_le_of_lt (Nat.sub_le _ _) h
    · omega

theorem finishStart_duration_lt (w : World) : w.finishStart.clock.bulbDuration < 4294967296 := by
  simp only [finishStart]
  split
  · exact sub32_lt _ _
  · exact u32_lt _

/-- A code that opens a bulb is sent when none has been, and is then noted. -/
theorem bulbStartHead_send {w : World} {io : Io} (h : (w.bulbStartHead io).2 = .send) :
    w.irShutterState = false ∧ (w.bulbStartHead io).1.irShutterState = true := by
  unfold bulbStartHead at h ⊢
  simp only at h ⊢
  by_cases hfirst : ((!w.cableConnected || w.usbPrimary || !w.conf.camera.interface.hasCable) &&
      !w.irShutterState) = true
  · rw [if_pos hfirst] at h ⊢
    rw [Bool.and_eq_true, Bool.not_eq_true'] at hfirst
    by_cases husb : (w.link.supportsBulb && w.conf.camera.interface.hasUsb) = true
    · rw [if_pos husb] at h
      split at h
      · exact Head.noConfusion h
      · exact Head.noConfusion h
    · rw [if_neg husb] at h ⊢
      split at h
      · rename_i hir
        rw [if_pos hir]
        exact ⟨hfirst.2, rfl⟩
      · exact Head.noConfusion h
  · rw [if_neg hfirst] at h
    exact Head.noConfusion h

theorem startTick_cases {w : World} (hin : w.inside = true) (io : Io) :
    ∃ v, ((w.note .skipped).prepareSync.note .bulbStart).Ports v ∧
      ((w.startTick io = { v with frames := ⟨.start, w.irTicks⟩ :: v.frames } ∧
          w.irShutterState = false ∧ v.irShutterState = true) ∨
        w.startTick io = v.finishStart) := by
  have hhead := (w.note .skipped).prepareSync.bulbStartHead_ports io
  have hinside : ((w.note .skipped).prepareSync.bulbStartHead io).1.inside = true := by
    rw [hhead.inside, prepareSync_eq]
    exact hin
  unfold startTick
  simp only
  cases hway : ((w.note .skipped).prepareSync.bulbStartHead io).2 with
  | abort => exact ⟨_, hhead, Or.inr rfl⟩
  | send =>
      have hlit := bulbStartHead_send hway
      rw [prepareSync_eq] at hlit ⊢
      rw [prepareSync_eq] at hhead
      exact ⟨_, hhead, Or.inl ⟨rfl, hlit⟩⟩
  | cable => exact ⟨_, hhead.trans (bulbStartCable_ports hinside), Or.inr rfl⟩

theorem endTick_cases {w : World} (hin : w.inside = true) (io : Io) :
    ∃ v, ({ w.note .skipped with clock.bulbDuration := 0 }.note .bulbEnd).Ports v ∧
      (w.endTick io = { v with frames := ⟨.stop, w.irTicks⟩ :: v.frames } ∨
        w.endTick io = v.finishEnd) := by
  have hhead := bulbEndHead_ports { w.note .skipped with clock.bulbDuration := 0 } io
  have hinside := hhead.inside.trans hin
  unfold endTick
  simp only
  split
  · exact ⟨_, hhead, Or.inl rfl⟩
  · exact ⟨_, hhead.trans (bulbEndCable_ports hinside), Or.inr rfl⟩

/-- A tick goes one of the ways. -/
theorem count_ticked (w : World) (io : Io) : w.Ticked (w.count io) := by
  unfold count
  by_cases hnew : w.clock.newBulb = true
  · rw [if_pos hnew]
    rcases startTick_cases (w := w.enter) rfl io with ⟨v, hv, ⟨hsend, hunlit, hlit⟩ | hstart⟩
    · rw [hsend]
      exact .sendsStart v hnew hunlit hlit hv
    · rw [hstart]
      exact .starts v hnew hv
  · rw [if_neg hnew]
    rw [Bool.not_eq_true] at hnew
    by_cases hrun : w.clock.bulbRunning = true
    · rw [if_pos hrun, bulbTick]
      by_cases hend : sub32 w.enter.clock.bulbDuration 1 = 0
      · rw [if_pos hend]
        rcases endTick_cases (w := w.enter) rfl io with ⟨v, hv, hsend | hdone⟩
        · rw [hsend]
          exact .sendsStop v hnew hrun hend hv
        · rw [hdone]
          exact .ends v hnew hrun hend hv
      · rw [if_neg hend]
        by_cases hsync : (decide (w.enter.clock.bulbDurationPCsync ≠ 0) && w.enter.syncPin) = true
        · rw [if_pos hsync]
          rw [Bool.and_eq_true, decide_eq_true_eq] at hsync
          exact .syncs hnew hrun hend hsync.1 hsync.2
        · rw [if_neg hsync]
          rw [Bool.and_eq_true, decide_eq_true_eq] at hsync
          have hservices := Ticked.services hnew fun _ => ⟨hend, hsync⟩
          rwa [passing, if_pos hrun] at hservices
    · rw [if_neg hrun]
      have hservices := Ticked.services hnew fun h => absurd h hrun
      rwa [passing, if_neg hrun] at hservices

/-- The rest of a tick goes one of the ways. -/
theorem resume_resumed (w : World) (f : Frame) (fs : List Frame) :
    w.Resumed fs f.kind (w.resume f fs) := by
  unfold resume
  cases f.kind with
  | start =>
      exact .start _ (bulbStartCable_ports (w := { w with frames := fs, inside := true }) rfl)
  | stop =>
      have hclear : { w with frames := fs, inside := true }.Ports
          { w with frames := fs, inside := true, irShutterState := false } :=
        ports_of_eq rfl rfl rfl
      exact .stop _ (hclear.trans (bulbEndCable_ports rfl))

/-- Ticks, and the rests of ticks. -/
def Action.passes : Action → Bool
  | .tick _ | .resume => true
  | .callIn _ _ | .bulb _ | .cancelBulb | .environment _ _ _ => false

/-- The ways a step can go. -/
inductive Stepped (w : World) : Action → World → Prop
  | tick {io : Io} {v : World} (h : w.Ticked v) : Stepped w (.tick io) v
  | resume {kind : FrameKind} {left : Nat} {fs : List Frame} {v : World}
      (hframes : w.frames = ⟨kind, left⟩ :: fs) (h : w.Resumed fs kind v) : Stepped w .resume v
  | callIn {time : Nat} {fn : Callback} (hframes : w.frames = []) :
      Stepped w (.callIn time fn) (w.callIn time fn)
  | bulb {duration : Nat} (hframes : w.frames = []) : Stepped w (.bulb duration) (w.bulb duration)
  | cancelBulb (hframes : w.frames = []) : Stepped w .cancelBulb w.cancelBulb
  | environment (cablePin syncPin : Bool) (link : Link) :
      Stepped w (.environment cablePin syncPin link)
        { w with cablePin := cablePin, syncPin := syncPin, link := link }

/-- A step goes one of the ways. -/
theorem step_stepped {w v : World} {a : Action} (hstep : w.step a = some v) : w.Stepped a v := by
  cases a with
  | tick io =>
      rw [step, Option.some.injEq] at hstep
      rw [← hstep]
      exact .tick (w.count_ticked io)
  | resume =>
      rw [step] at hstep
      cases hframes : w.frames with
      | nil =>
          rw [hframes] at hstep
          exact absurd hstep (by simp only [reduceCtorEq, not_false_eq_true])
      | cons f fs =>
          simp only [hframes] at hstep
          split at hstep
          · rw [Option.some.injEq] at hstep
            rw [← hstep]
            exact .resume hframes (w.resume_resumed f fs)
          · exact absurd hstep (by simp only [reduceCtorEq, not_false_eq_true])
  | callIn time fn =>
      rw [step, Option.ite_none_right_eq_some, Option.some.injEq] at hstep
      rw [← hstep.2]
      exact .callIn hstep.1
  | bulb duration =>
      rw [step, Option.ite_none_right_eq_some, Option.some.injEq] at hstep
      rw [← hstep.2]
      exact .bulb hstep.1
  | cancelBulb =>
      rw [step, Option.ite_none_right_eq_some, Option.some.injEq] at hstep
      rw [← hstep.2]
      exact .cancelBulb hstep.1
  | environment cablePin syncPin link =>
      rw [step, Option.some.injEq] at hstep
      rw [← hstep]
      exact .environment cablePin syncPin link

/-- A step adds to the log. -/
theorem Stepped.log {w v : World} {a : Action} (h : w.Stepped a v) : ∃ es, v.log = es ++ w.log := by
  cases h with
  | tick htick =>
      cases htick with
      | sendsStart v hnew _ _ hv =>
          rcases hv.log with ⟨es, hes, _⟩
          refine ⟨es ++ [.bulbStart, .skipped], ?_⟩
          rw [List.append_assoc]
          refine hes.trans ?_
          rw [starting_eq]
          rfl
      | starts v hnew hv =>
          rcases hv.log with ⟨es, hes, _⟩
          refine ⟨.offset :: es ++ [.bulbStart, .skipped], ?_⟩
          rw [List.cons_append, List.cons_append, List.append_assoc]
          refine congrArg (List.cons Event.offset) (hes.trans ?_)
          rw [starting_eq]
          rfl
      | sendsStop v _ _ _ hv =>
          rcases hv.log with ⟨es, hes, _⟩
          refine ⟨es ++ [.bulbEnd, .skipped], ?_⟩
          rw [List.append_assoc]
          exact hes
      | ends v _ _ _ hv =>
          rcases hv.log with ⟨es, hes, _⟩
          refine ⟨es ++ [.bulbEnd, .skipped], ?_⟩
          rw [List.append_assoc]
          exact hes
      | syncs => exact ⟨[.skipped], rfl⟩
      | services =>
          rcases w.passing_steady.log with ⟨es, hes, _⟩
          exact ⟨es, hes.trans (by rw [w.passing_log])⟩
  | resume hframes hresumed =>
      cases hresumed with
      | start v hv =>
          rcases hv.log with ⟨es, hes, _⟩
          exact ⟨.offset :: es, congrArg (List.cons Event.offset) hes⟩
      | stop v hv =>
          rcases hv.log with ⟨es, hes, _⟩
          exact ⟨es, hes⟩
  | callIn =>
      rcases (w.callIn_steady _ _).log with ⟨es, hes, _⟩
      exact ⟨es, hes⟩
  | bulb => exact ⟨[.bulb _], rfl⟩
  | cancelBulb => exact ⟨[.cancelled], rfl⟩
  | environment => exact ⟨[], rfl⟩

end World

end Shutter

end TimelapsePlus
