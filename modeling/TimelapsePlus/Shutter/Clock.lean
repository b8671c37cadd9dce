import Mathlib.Data.List.FinRange
import Mathlib.Logic.Function.Basic
import TimelapsePlus.Lib.Word
import TimelapsePlus.Shutter.Settings

/-!
# The Clock and Its Queue

The state of the clock: its counters, the bulb exposure it is timing, and the
three slots of its queue of callbacks. A slot is free when its time is zero. A
request takes the first free slot and is dropped when there is none; a request
for a time of zero takes a slot and leaves it free.

What a run has done is written to a log, newest first, as `Event`s. The log is
not in the code. It says what the code did at its ports and which of its
functions were entered, and properties of a run are properties of its log.

## Main definitions

* `Callback`: The functions that are ever put into the queue.
* `Slot`, `Queue`: The queue.
* `Queue.free`: The slot the next request takes.
* `Clock`: The state of the clock.
* `Via`, `Event`: What a log is made of.

## Theorems

* `free_eq_some`: The slot the next request takes is free.
* `free_eq_none`: No request is taken exactly when every slot is pending.
-/

namespace TimelapsePlus

namespace Shutter

open Word

/-- The functions that are put into the queue. -/
inductive Callback
  | checkCable
  | shutterHalfDelayed
  | shutterOff
  | shutterHalf
  | aux1Off
  | aux2Off
deriving Repr, DecidableEq

/-- `inTime[i]` and `inFunction[i]`, and the number of the request that is in
    the slot, if it is one that is followed. -/
structure Slot where
  time : Nat
  fn : Callback
  request : Option Nat
deriving Repr, DecidableEq

/-- The queue, of `CLOCK_IN_QUEUE` slots. -/
abbrev Queue := Fin 3 → Slot

/-- The first free slot. -/
def Queue.free (q : Queue) : Option (Fin 3) :=
  (List.finRange 3).find? fun i => decide ((q i).time = 0)

theorem Queue.free_eq_some {q : Queue} {i : Fin 3} (h : q.free = some i) : (q i).time = 0 := by
  have := List.find?_some h
  rwa [decide_eq_true_eq] at this

theorem Queue.free_eq_none {q : Queue} : q.free = none ↔ ∀ i, (q i).time ≠ 0 := by
  unfold Queue.free
  rw [List.find?_eq_none]
  constructor
  · intro h i
    have := h i (List.mem_finRange i)
    rwa [decide_eq_true_eq] at this
  · intro h i _
    rw [decide_eq_true_eq]
    exact h i

/-- The state of the clock. -/
structure Clock where
  ms : Nat
  eventMs : Nat
  seconds : Nat
  bulbRunning : Bool
  usingSync : Bool
  newBulb : Bool
  bulbDuration : Nat
  bulbDurationPCsync : Nat
  skips : Nat
  queue : Queue

/-- A clock after a reset, with nothing in its queue. -/
def Clock.reset : Clock where
  ms := 0
  eventMs := 0
  seconds := 0
  bulbRunning := false
  usingSync := false
  newBulb := false
  bulbDuration := 0
  bulbDurationPCsync := 0
  skips := 0
  queue := fun _ => ⟨0, .checkCable, none⟩

/-- The ways a bulb is opened and closed. -/
inductive Via
  | hold
  | toggle
  | ir
  | usb
deriving Repr, DecidableEq

/-- What a run has done. -/
inductive Event
  /-- A request made outside `count` is taken. -/
  | accepted (request : Nat) (fn : Callback) (time : Nat)
  /-- A tick on which a bulb starts, ends, or takes the sync input. -/
  | skipped
  /-- A tick that services the queue. -/
  | serviced
  /-- A callback is called. -/
  | called (fn : Callback) (request : Option Nat)
  /-- `Clock::bulb`. -/
  | bulb (duration : Nat)
  /-- `Clock::cancelBulb`. -/
  | cancelled
  /-- `shutter_bulbStartQuick` is entered. -/
  | bulbStart
  /-- The offset is applied to the length of the exposure. -/
  | offset
  /-- `shutter_bulbEndQuick` is entered. -/
  | bulbEnd
  /-- The shutter button is pressed, or let go. -/
  | pressed
  | released
  /-- A bulb is opened, or its close is sent. -/
  | opened (via : Via)
  | closed (via : Via)
deriving Repr, DecidableEq

end Shutter

end TimelapsePlus
