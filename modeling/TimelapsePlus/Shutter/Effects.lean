import TimelapsePlus.Shutter.World

/-!
# What the Shutter Functions Touch

The functions of the shutter press and release buttons, send codes, set flags,
and put requests into the queue. They leave everything else alone: of the clock
only the queue changes, and there only slots that were free; what they write to
the log is what they did at the ports. `World.Ports` says this, and holds of
each of them as long as it is called from inside `count`, where no request is
followed.

Servicing the queue calls some of them, and changes the counters of the clock as
well. It leaves the exposure alone: `World.Steady` says that, of both.

## Main definitions

* `Event.Port`: Something done at the ports.
* `Event.Exposure`: Something that belongs to an exposure.
* `Queue.Keeps`: A queue is left alone but for free slots.
* `World.Ports`: A function has used the ports and the queue only.
* `World.Steady`: The exposure is left alone.

## Theorems

* `callIn_ports`, `call_ports`, `bulbStartHead_ports`, ...: The functions of the
  shutter.
* `service_steady`: Servicing the queue.
-/

namespace TimelapsePlus

namespace Shutter

open Word

/-- Something done at the ports. -/
def Event.Port : Event → Prop
  | .pressed | .released | .opened _ | .closed _ => True
  | _ => False

/-- Something that belongs to an exposure: it is asked for, cancelled, started,
    given its offset, or ended. -/
def Event.Exposure : Event → Prop
  | .bulb _ | .cancelled | .bulbStart | .offset | .bulbEnd => True
  | _ => False

theorem Event.Port.not_exposure {e : Event} (h : e.Port) : ¬ e.Exposure := by
  cases e <;> first | exact id | exact absurd h id

/-- The queue is left alone, but for slots that were free and now hold requests
    that are not followed. -/
def Queue.Keeps (q q' : Queue) : Prop :=
  ∀ i, q' i = q i ∨ (q i).time = 0 ∧ (q' i).request = none ∧ (q' i).time < 65536

theorem Queue.Keeps.refl (q : Queue) : q.Keeps q := fun _ => Or.inl rfl

theorem Queue.Keeps.trans {q q' q'' : Queue} (h : q.Keeps q') (h' : q'.Keeps q'') :
    q.Keeps q'' := by
  intro i
  rcases h i with heq | ⟨hfree, hnone, hword⟩
  · rcases h' i with heq' | hnew
    · exact Or.inl (by rw [heq', heq])
    · exact Or.inr (by rw [heq] at hnew; exact hnew)
  · rcases h' i with heq' | hnew
    · exact Or.inr (by rw [heq']; exact ⟨hfree, hnone, hword⟩)
    · exact Or.inr ⟨hfree, hnew.2⟩

/-- A function has used the ports and the queue, and nothing else of the clock. -/
structure World.Ports (w v : World) : Prop where
  log : ∃ es, v.log = es ++ w.log ∧ ∀ e ∈ es, e.Port
  clock : v.clock = { w.clock with queue := v.clock.queue }
  queue : w.clock.queue.Keeps v.clock.queue
  frames : v.frames = w.frames
  next : v.nextRequest = w.nextRequest
  inside : v.inside = w.inside
  conf : v.conf = w.conf
  irTicks : v.irTicks = w.irTicks
  syncPin : v.syncPin = w.syncPin
  usbPrimary : v.usbPrimary = w.usbPrimary

namespace World

theorem Ports.refl (w : World) : w.Ports w :=
  ⟨⟨[], rfl, fun _ he => absurd he List.not_mem_nil⟩, rfl, Queue.Keeps.refl _, rfl, rfl, rfl, rfl,
    rfl, rfl, rfl⟩

theorem Ports.trans {w v u : World} (h : w.Ports v) (h' : v.Ports u) : w.Ports u := by
  refine ⟨?_, ?_, h.queue.trans h'.queue, h'.frames.trans h.frames, h'.next.trans h.next,
    h'.inside.trans h.inside, h'.conf.trans h.conf, h'.irTicks.trans h.irTicks,
    h'.syncPin.trans h.syncPin, h'.usbPrimary.trans h.usbPrimary⟩
  · rcases h.log with ⟨es, hes, hport⟩
    rcases h'.log with ⟨fs, hfs, hport'⟩
    refine ⟨fs ++ es, by rw [hfs, hes, List.append_assoc], fun e he => ?_⟩
    rcases List.mem_append.mp he with hf | he
    · exact hport' e hf
    · exact hport e he
  · rw [h'.clock, h.clock]

/-- Nothing but pins and flags is changed. -/
theorem ports_of_eq {w v : World} (hlog : v.log = w.log) (hclock : v.clock = w.clock)
    (hrest : (v.frames, v.nextRequest, v.inside, v.conf, v.irTicks, v.syncPin, v.usbPrimary) =
      (w.frames, w.nextRequest, w.inside, w.conf, w.irTicks, w.syncPin, w.usbPrimary)) :
    w.Ports v := by
  simp only [Prod.mk.injEq] at hrest
  rcases hrest with ⟨hframes, hnext, hinside, hconf, hticks, hsync, hprimary⟩
  exact ⟨⟨[], hlog, fun _ he => absurd he List.not_mem_nil⟩, by rw [hclock],
    fun i => Or.inl (by rw [hclock]), hframes, hnext, hinside, hconf, hticks, hsync, hprimary⟩

/-- Nothing but pins and flags is changed, and something is done at the ports. -/
theorem ports_of_cons {w v : World} {e : Event} (he : e.Port) (hlog : v.log = e :: w.log)
    (hclock : v.clock = w.clock)
    (hrest : (v.frames, v.nextRequest, v.inside, v.conf, v.irTicks, v.syncPin, v.usbPrimary) =
      (w.frames, w.nextRequest, w.inside, w.conf, w.irTicks, w.syncPin, w.usbPrimary)) :
    w.Ports v := by
  have h := ports_of_eq (w := { w with log := v.log }) (v := v) rfl hclock hrest
  refine ⟨⟨[e], hlog, fun e' he' => ?_⟩, h.clock, h.queue, h.frames, h.next, h.inside, h.conf,
    h.irTicks, h.syncPin, h.usbPrimary⟩
  rw [List.mem_singleton.mp he']
  exact he

/-- A request made inside `count` is not followed. -/
theorem callIn_ports {w : World} (hin : w.inside = true) (time : Nat) (fn : Callback) :
    w.Ports (w.callIn time fn) := by
  unfold callIn
  cases hfree : w.clock.queue.free with
  | none => exact .refl w
  | some i =>
      simp only [hin, Bool.true_or, if_true]
      refine ⟨⟨[], rfl, fun _ he => absurd he List.not_mem_nil⟩, rfl, fun j => ?_, rfl, rfl,
        hin.symm, rfl, rfl, rfl, rfl⟩
      by_cases hj : j = i
      · refine Or.inr ⟨by rw [hj]; exact Queue.free_eq_some hfree, ?_⟩
        simp only [hj, Function.update_self, true_and]
        exact u16_lt time
      · exact Or.inl (Function.update_of_ne hj ..)

theorem shutterClose_ports (w : World) : w.Ports w.shutterClose :=
  ports_of_cons (e := .released) trivial rfl rfl rfl

theorem shutterFull_ports (w : World) : w.Ports w.shutterFull := by
  unfold shutterFull
  split
  · exact .refl w
  · exact ports_of_cons (e := .pressed) trivial rfl rfl rfl

theorem shutterOff_ports {w : World} (hin : w.inside = true) : w.Ports w.shutterOff := by
  unfold shutterOff
  split
  · exact .refl w
  · have hclose := w.shutterClose_ports
    have hcall := callIn_ports (hclose.inside.trans hin) 20 .checkCable
    exact (hclose.trans hcall).trans (ports_of_eq rfl rfl rfl)

theorem shutterHalf_ports {w : World} (hin : w.inside = true) : w.Ports w.shutterHalf := by
  unfold shutterHalf
  have hoff := shutterOff_ports hin
  split
  · exact .refl w
  · split
    · exact hoff.trans (callIn_ports (hoff.inside.trans hin) 30 .shutterHalfDelayed)
    · exact hoff

/-- Every callback uses the ports and the queue only. -/
theorem call_ports {w : World} (hin : w.inside = true) (fn : Callback) : w.Ports (w.call fn) := by
  cases fn with
  | checkCable => exact ports_of_eq rfl rfl rfl
  | shutterHalfDelayed =>
      simp only [call, shutterHalfDelayed]
      split
      · exact .refl w
      · exact w.shutterClose_ports.trans (ports_of_eq rfl rfl rfl)
  | shutterOff => exact shutterOff_ports hin
  | shutterHalf => exact shutterHalf_ports hin
  | aux1Off =>
      simp only [call, aux1Off]
      split
      · exact w.shutterClose_ports
      · exact ports_of_eq rfl rfl rfl
  | aux2Off =>
      simp only [call, aux2Off]
      split
      · exact ports_of_eq rfl rfl rfl
      · exact ports_of_eq rfl rfl rfl

theorem usbBulbStart_ports (w : World) (io : Io) : w.Ports (w.usbBulbStart io) := by
  unfold usbBulbStart
  split
  · exact ports_of_eq rfl rfl rfl
  · split
    · exact ports_of_eq rfl rfl rfl
    · exact ports_of_cons (e := .opened .usb) trivial rfl rfl rfl

theorem usbBulbEnd_ports (w : World) (io : Io) : w.Ports (w.usbBulbEnd io) := by
  unfold usbBulbEnd
  split
  · exact .refl w
  · split
    · exact ports_of_eq rfl rfl rfl
    · exact ports_of_cons (e := .closed .usb) trivial rfl rfl rfl

theorem bulbStartHead_ports (w : World) (io : Io) :
    (w.note .bulbStart).Ports (w.bulbStartHead io).1 := by
  unfold bulbStartHead
  have hv : (w.note .bulbStart).Ports
      { w with lastShutterError := false, log := .bulbStart :: w.log } := ports_of_eq rfl rfl rfl
  simp only
  split
  · split
    · split
      · exact hv.trans (ports_of_eq rfl rfl rfl)
      · exact hv.trans (usbBulbStart_ports _ io)
    · split
      · exact hv.trans (ports_of_cons (e := .opened .ir) trivial rfl rfl rfl)
      · exact hv
  · exact hv

theorem pressOpen_ports (w : World) (via : Via) : w.Ports (w.pressOpen via) := by
  unfold pressOpen
  split
  · exact .refl w
  · exact w.shutterFull_ports.trans (ports_of_cons (e := .opened via) trivial rfl rfl rfl)

theorem pressClose_ports (w : World) : w.Ports w.pressClose := by
  unfold pressClose
  split
  · exact .refl w
  · exact w.shutterFull_ports.trans (ports_of_cons (e := .closed .toggle) trivial rfl rfl rfl)

theorem bulbStartCable_ports {w : World} (hin : w.inside = true) : w.Ports w.bulbStartCable := by
  unfold bulbStartCable
  split
  · split
    · exact w.pressOpen_ports .hold
    · split
      · exact .refl w
      · have hopen := (w.pressOpen_ports .toggle).trans
          (ports_of_eq (v := { w.pressOpen .toggle with shutterState := true }) rfl rfl rfl)
        exact hopen.trans (callIn_ports (hopen.inside.trans hin) _ _)
  · exact .refl w

theorem bulbEndHead_ports (w : World) (io : Io) :
    (w.note .bulbEnd).Ports (w.bulbEndHead io).1 := by
  unfold bulbEndHead
  simp only
  split
  · split
    · exact (usbBulbEnd_ports _ io).trans (ports_of_eq rfl rfl rfl)
    · split
      · exact ports_of_cons (e := .closed .ir) trivial rfl rfl rfl
      · exact ports_of_eq rfl rfl rfl
  · exact .refl _

theorem bulbEndCable_ports {w : World} (hin : w.inside = true) : w.Ports w.bulbEndCable := by
  unfold bulbEndCable
  split
  · split
    · exact shutterOff_ports hin
    · split
      · have hclose := w.pressClose_ports.trans
          (ports_of_eq (v := { w.pressClose with shutterState := false }) rfl rfl rfl)
        exact hclose.trans (callIn_ports (hclose.inside.trans hin) _ _)
      · exact .refl w
  · exact .refl w

/-- The exposure is left alone: nothing is written to the log that belongs to
    one, and the clock times the one it did. -/
structure Steady (w v : World) : Prop where
  log : ∃ es, v.log = es ++ w.log ∧ ∀ e ∈ es, ¬ e.Exposure
  newBulb : v.clock.newBulb = w.clock.newBulb
  bulbRunning : v.clock.bulbRunning = w.clock.bulbRunning
  bulbDuration : v.clock.bulbDuration = w.clock.bulbDuration
  bulbDurationPCsync : v.clock.bulbDurationPCsync = w.clock.bulbDurationPCsync
  frames : v.frames = w.frames
  inside : v.inside = w.inside
  conf : v.conf = w.conf
  irTicks : v.irTicks = w.irTicks
  syncPin : v.syncPin = w.syncPin
  usbPrimary : v.usbPrimary = w.usbPrimary

theorem Steady.refl (w : World) : w.Steady w :=
  ⟨⟨[], rfl, fun _ he => absurd he List.not_mem_nil⟩, rfl, rfl, rfl, rfl, rfl, rfl, rfl, rfl, rfl,
    rfl⟩

theorem Steady.trans {w v u : World} (h : w.Steady v) (h' : v.Steady u) : w.Steady u := by
  refine ⟨?_, h'.newBulb.trans h.newBulb, h'.bulbRunning.trans h.bulbRunning,
    h'.bulbDuration.trans h.bulbDuration, h'.bulbDurationPCsync.trans h.bulbDurationPCsync,
    h'.frames.trans h.frames, h'.inside.trans h.inside, h'.conf.trans h.conf,
    h'.irTicks.trans h.irTicks, h'.syncPin.trans h.syncPin, h'.usbPrimary.trans h.usbPrimary⟩
  rcases h.log with ⟨es, hes, hnot⟩
  rcases h'.log with ⟨fs, hfs, hnot'⟩
  refine ⟨fs ++ es, by rw [hfs, hes, List.append_assoc], fun e he => ?_⟩
  rcases List.mem_append.mp he with hf | he
  · exact hnot' e hf
  · exact hnot e he

theorem Ports.steady {w v : World} (h : w.Ports v) : w.Steady v := by
  refine ⟨?_, by rw [h.clock], by rw [h.clock], by rw [h.clock], by rw [h.clock], h.frames,
    h.inside, h.conf, h.irTicks, h.syncPin, h.usbPrimary⟩
  rcases h.log with ⟨es, hes, hport⟩
  exact ⟨es, hes, fun e he => (hport e he).not_exposure⟩

/-- Something is written to the log that does not belong to an exposure. -/
theorem note_steady (w : World) {e : Event} (he : ¬ e.Exposure) : w.Steady (w.note e) := by
  refine ⟨⟨[e], rfl, fun e' he' => ?_⟩, rfl, rfl, rfl, rfl, rfl, rfl, rfl, rfl, rfl, rfl⟩
  rw [List.mem_singleton.mp he']
  exact he

/-- A request is not part of an exposure, wherever it is made. -/
theorem callIn_steady (w : World) (time : Nat) (fn : Callback) : w.Steady (w.callIn time fn) := by
  have hset : ∀ q, w.Steady { w with clock.queue := q } := fun _ =>
    ⟨⟨[], rfl, fun _ he => absurd he List.not_mem_nil⟩, rfl, rfl, rfl, rfl, rfl, rfl, rfl, rfl, rfl,
      rfl⟩
  unfold callIn
  cases w.clock.queue.free with
  | none => exact .refl w
  | some i =>
      simp only
      split
      · exact hset _
      · have hnote := note_steady w (e := .accepted w.nextRequest fn (u16 time)) id
        exact ⟨hnote.log, rfl, rfl, rfl, rfl, rfl, rfl, rfl, rfl, rfl, rfl⟩

theorem serviceSlot_steady {w : World} (hin : w.inside = true) (i : Fin 3) :
    w.Steady (w.serviceSlot i) := by
  have hset : ∀ time, w.Steady
      { w with
        clock.queue := Function.update w.clock.queue i { w.clock.queue i with time := time } } :=
    fun _ => ⟨⟨[], rfl, fun _ he => absurd he List.not_mem_nil⟩, rfl, rfl, rfl, rfl, rfl, rfl, rfl,
      rfl, rfl, rfl⟩
  unfold serviceSlot
  simp only
  split
  · exact .refl w
  · split
    · have hcalled := (hset 0).trans (note_steady _ (e := .called (w.clock.queue i).fn
        (w.clock.queue i).request) id)
      exact hcalled.trans (call_ports (hcalled.inside.trans hin) (w.clock.queue i).fn).steady
    · exact hset _

theorem foldl_serviceSlot_steady {w : World} (hin : w.inside = true) (js : List (Fin 3)) :
    w.Steady (js.foldl serviceSlot w) := by
  induction js generalizing w with
  | nil => exact .refl w
  | cons j js ih =>
      have hsteady := serviceSlot_steady hin j
      exact hsteady.trans (ih (hsteady.inside.trans hin))

/-- Servicing the queue leaves the exposure alone. -/
theorem service_steady {w : World} (hin : w.inside = true) : w.Steady w.service := by
  have hnote := w.note_steady (e := .serviced) id
  have h := hnote.trans (foldl_serviceSlot_steady (hnote.inside.trans hin) (List.finRange 3))
  unfold service
  generalize (List.finRange 3).foldl serviceSlot (w.note .serviced) = v at h
  exact ⟨h.log, h.newBulb, h.bulbRunning, h.bulbDuration, h.bulbDurationPCsync, h.frames,
    h.inside, h.conf, h.irTicks, h.syncPin, h.usbPrimary⟩

end World

end Shutter

end TimelapsePlus
