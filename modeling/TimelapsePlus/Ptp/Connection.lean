import TimelapsePlus.Lib.Run
import TimelapsePlus.Ptp.Opening

/-!
# The Cable

A camera comes and goes as it is plugged in and out, and four things are to follow. The
interface is brought up by interrupts, at any time. `PTP_Task` looks at it once a turn of
the main loop, and opens a session with a camera that it finds, or marks that there is none.
`notify.task` looks at what `PTP_Task` has come to, and calls for the object to be made anew
or closed. And an exposure or an error can have all of it taken down and brought up again
within a call, where `notify.task` does not look.

They look at flags, and a flag that goes down and up between two looks is not seen to move.
So the object may be left over from another camera, or stay ready when there is none. This
needs a camera that comes up before the one before has been seen to go, or one that is lost
after it has been brought up again and before `notify.task` has seen that. Else the object
is the one of the camera that is there.

Which camera it is does not stand anywhere in the code. Cameras are counted here as they
come up, and the count that each of the four is about is kept beside it. What is read of a
camera, and what is made of it, are in the modules about these. An interrupt comes before or
after `PTP_Task` and the others, and not within them.

## Main definitions

* `Connection`: The driver and the object, as far as the cable goes.
* `Connection.ptpTask`: `PTP_Task`.
* `Connection.notify`: `notify.task` and `message_notify`, of `PTP_Ready`.
* `Connection.enable`, `Connection.disable`, `Connection.turn`: Bringing up and taking down.
* `Connection.step`: All of it.
* `Connection.Seen`: What is asked of a run.
* `Connection.Follows`: The driver and the object are those of the camera that is there.

## Theorems

* `ptpTask_cases`: What `PTP_Task` does.
* `step_sound`: What each step keeps.
* `run_clean`: A driver that is ready has no error, in any run.
* `object_follows`: The object follows the cable, in every run of its kind.
* `object_left`: In other runs it need not.
-/

namespace TimelapsePlus

namespace Ptp

open Word Usb

/-- How many times `PTP::enable` looks for the camera. -/
def enableTries : Nat := 200

/-- Where the main loop stands: before `notify.task`, between it and `PTP_Task`, or after
    that. -/
inductive LoopStage
  | tasks
  | notified
  | polled
deriving Repr, DecidableEq

/-- Where `PTP::enable` stands: it is not called, or it looks for the camera so many times
    more, or it has found it and calls `PTP_Task` once more. -/
inductive Enabling
  | idle
  | trying (n : Nat)
  | found
deriving Repr, DecidableEq

/-- The driver's variables, with `PTP_Connected`, whether `configured` is what stands for a
    configured interface, and whether the controller is on; `USBmode`; of the object `ready`
    and `disabled`; and the checksum that `notify` has of `PTP_Ready`. Then what is not in
    the code: the number of the camera that came up last, of the one whose names were read
    last, of the one that the object was last made for, and of the one whose settings were
    last asked for, and whether the object was left half made. -/
structure Connection where
  driver : Driver
  connected : Bool
  seen : Bool
  running : Bool
  usbMode : Bool
  ready : Bool
  disabled : Bool
  chksum : Bool
  stage : LoopStage
  enabling : Enabling
  camera : Nat
  known : Option Nat
  object : Option Nat
  settings : Option Nat
  halfMade : Bool

/-- What happens next. The interrupts come with what the USB stack reports, and a camera with
    its answers to come. -/
inductive Connection.Happening
  | attached
  | enumerated (descriptor : List UInt8) (camera : Option (Silence × List Answer))
  | unattached
  | hostError
  | transaction (opCode : Nat) (receive : Bool) (params : List Nat) (data : List UInt8)
  | fetchData (offset : Nat)
  | disable
  | enable
  | look (released : Bool) (protocol : Protocol)
  | notify (protocol : Protocol)
  | poll (released : Bool)
  | turn (host : Bool)

/-- A camera comes up. -/
def Connection.Happening.comesUp : Connection.Happening → Bool
  | .enumerated _ (some _) => true
  | _ => false

namespace Connection

/-- `PTP_Task`. -/
def ptpTask (c : Connection) (released : Bool) : Connection :=
  if c.driver.usb.configured then
    if c.seen then c
    else
      let d := c.driver.openSession released
      let r := d.transaction operationGetDeviceInfo true [] []
      if r.1 = .ok then
        { c with seen := true, driver := { r.2 with ready := true }, known := some c.camera }
      else { c with seen := true, driver := r.2 }
  else { c with seen := false, driver.ready := false }

/-- `settings_setup_camera_index` for the camera's serial, and `PTP::init` up to the
    `checkEvent` that it ends with. A transaction that fails leaves the object half made. -/
def init (c : Connection) (protocol : Protocol) : Connection :=
  let g := greet c.driver (greetings protocol)
  { c with
    driver := g.2
    settings := c.known
    ready := c.ready || g.1
    object := if g.1 then c.known else c.object
    halfMade := !g.1 }

/-- `PTP::close`. -/
def close (c : Connection) : Connection := { c with ready := false, halfMade := false }

/-- `message_notify` for `PTP_Ready`. -/
def messageNotify (c : Connection) (protocol : Protocol) : Connection :=
  if c.driver.ready then if c.ready then c else c.init protocol
  else if c.disabled then c
  else { c with settings := none }.close

/-- `notify.task`, of `PTP_Ready`. -/
def notify (c : Connection) (protocol : Protocol) : Connection :=
  if c.chksum = c.driver.ready then c
  else { c with chksum := c.driver.ready }.messageNotify protocol

/-- `PTP_Disable`, and `PTP_Shutdown` and what takes the controller out of its mode. -/
def shutdown (c : Connection) : Connection :=
  { c with driver := c.driver.shutdown, seen := false, connected := false, running := false }

/-- `PTP::disable`. -/
def disable (c : Connection) : Connection := { c with disabled := true }.shutdown.close

/-- `PTP::enable`, up to where it looks for the camera. -/
def enable (c : Connection) : Connection :=
  let c' := { c with driver := c.driver.enable, seen := false, running := true }
  if c.disabled then { c' with disabled := false, enabling := .trying enableTries } else c'

/-- A look for the camera. -/
def look (c : Connection) (n : Nat) (released : Bool) (protocol : Protocol) : Connection :=
  let c := c.ptpTask released
  if c.driver.ready then { c.init protocol with enabling := .found }
  else { c with enabling := if n = 0 then .idle else .trying n }

/-- The end of a turn of the main loop. `host` is whether a cable for a camera is plugged
    in, or a camera is asked for. -/
def turn (c : Connection) (host : Bool) : Connection :=
  if c.disabled then c
  else if host ∧ c.usbMode = false then { c with usbMode := true }.enable
  else if host = false ∧ c.usbMode then { c with usbMode := false }.shutdown
  else c

/-- One step, if it can be taken. -/
def step (c : Connection) : Happening → Option Connection
  | .attached =>
    if c.running then
      some { c with
        connected := true
        driver.error := 0
        driver.bytesRemaining := 0
        driver.usb.configured := false
        driver.usb.packets := [] }
    else none
  | .enumerated descriptor camera =>
    if c.running ∧ c.connected ∧ c.driver.usb.configured = false then
      let c := { c with driver.buffer := store c.driver.buffer 0 (descriptor.take bufferSize) }
      match camera with
      | none => some c
      | some (wait, answers) =>
        some { c with
          camera := c.camera + 1
          driver.usb := ⟨true, wait, answers, [], c.driver.usb.sent⟩ }
    else none
  | .unattached =>
    some { c with
      connected := false
      driver.error := 0
      driver.usb.configured := false
      driver.usb.packets := [] }
  -- The stack reports the error, which leaves its mark, and then that the camera is off, which
  -- takes it away.
  | .hostError => some { c.shutdown with driver.error := 0 }
  | .transaction opCode receive params data =>
    some { c with driver := (c.driver.transaction opCode receive params data).2 }
  | .fetchData offset => some { c with driver := (c.driver.fetchData offset).2 }
  | .disable => if c.enabling = .idle ∧ c.stage ≠ .notified then some c.disable else none
  | .enable =>
    if c.enabling = .idle ∧ c.stage ≠ .notified ∧ c.disabled then some c.enable else none
  | .look released protocol =>
    match c.enabling with
    | .idle => none
    | .trying n => some (c.look (n - 1) released protocol)
    | .found => some { c.ptpTask released with enabling := .idle }
  | .notify protocol =>
    if c.enabling = .idle ∧ c.stage = .tasks then
      some { c.notify protocol with stage := .notified }
    else none
  | .poll released =>
    if c.enabling = .idle ∧ c.stage = .notified then
      let c' := if c.usbMode ∧ c.disabled = false then c.ptpTask released else c
      some { c' with stage := .polled }
    else none
  | .turn host =>
    if c.enabling = .idle ∧ c.stage = .polled then some { c.turn host with stage := .tasks }
    else none

/-- A camera comes up only when the one before has been seen to go: by `PTP_Task`, and by the
    object, which has been closed. And an object that is ready, while `notify.task` has not
    seen the camera come up, does not lose its camera. -/
def Seen (c : Connection) (l : Happening) : Prop :=
  (l.comesUp = true → c.seen = false ∧ c.ready = false) ∧
    ∀ d ∈ c.step l, c.chksum = false ∧ c.ready = true ∧ d.ready = true → d.driver.ready = true

instance (c : Connection) (l : Happening) : Decidable (c.Seen l) :=
  inferInstanceAs (Decidable (_ ∧ _))

/-- When the firmware starts. -/
def powerUp : Connection where
  driver := { Driver.idle [] with ready := false, usb.configured := false }
  connected := false
  seen := false
  running := false
  usbMode := false
  ready := false
  disabled := false
  chksum := false
  stage := .tasks
  enabling := .idle
  camera := 0
  known := none
  object := none
  settings := none
  halfMade := false

/-- A driver that is ready has no error, and has read the names of the camera that came up
    last. An object that is ready is the one of the camera whose names were read, and so are
    the settings. And unless there is something that `notify.task` has still to see, the object
    is ready when the driver is, and only then, but for one that was left half made. -/
structure Follows (c : Connection) : Prop where
  known : c.driver.ready = true → c.driver.error = 0 ∧ c.known = some c.camera
  object : c.ready = true → c.object = c.known ∧ c.settings = c.known
  ready : c.chksum = c.driver.ready → c.ready = true → c.driver.ready = true
  made : c.chksum = c.driver.ready → c.driver.ready = true → c.ready = true ∨ c.halfMade = true

open Driver (Loses)

variable {c d : Connection}

/-- What holds of the driver and the object, wherever the main loop stands. -/
structure Core (c : Connection) : Prop where
  seen : c.driver.ready = true → c.seen = true
  known : c.driver.ready = true → c.known = some c.camera
  fresh : c.driver.usb.configured = true → c.seen = false → c.ready = false
  object : c.ready = true → c.object = c.known ∧ c.settings = c.known
  down : c.running = false → c.driver.usb.configured = false

/-- What every step keeps. Between `notify.task` and `PTP_Task` the driver can still be lost,
    but it does not come up where that would not be seen. -/
structure Sound (c : Connection) : Prop extends Core c where
  off : c.disabled = true → c.driver.ready = false ∧ c.ready = false
  lost : c.chksum = false → c.driver.ready = false → c.ready = false
  made : c.chksum = true → c.driver.ready = true → c.ready = true ∨ c.halfMade = true
  due : c.stage = .notified → c.chksum = true → c.driver.ready = false →
    c.seen = true ∨ c.running = false
  quiet : c.stage = .notified → c.chksum = false → c.driver.ready = false
  idle : c.stage = .notified → c.enabling = .idle
  trying : ∀ n, c.enabling = .trying n →
    c.driver.ready = false ∧ c.ready = false ∧ c.disabled = false
  found : c.enabling = .found → (c.ready = true ∨ c.halfMade = true) ∧ c.disabled = false

theorem Sound.follows (h : c.Sound) (herror : c.driver.ready = true → c.driver.error = 0) :
    c.Follows where
  known := fun hready => ⟨herror hready, h.known hready⟩
  object := h.object
  ready := fun hsame hready => by
    cases hdriver : c.driver.ready with
    | true => rfl
    | false =>
        rw [hdriver] at hsame
        exact absurd hready (by rw [h.lost hsame hdriver]; exact Bool.false_ne_true)
  made := fun hsame hdriver => h.made (hsame.trans hdriver) hdriver

theorem powerUp_sound : powerUp.Sound where
  seen := fun h => absurd h Bool.false_ne_true
  known := fun h => absurd h Bool.false_ne_true
  fresh := fun _ _ => rfl
  object := fun h => absurd h Bool.false_ne_true
  down := fun _ => rfl
  off := fun h => absurd h Bool.false_ne_true
  lost := fun _ _ => rfl
  made := fun h => absurd h Bool.false_ne_true
  due := nofun
  quiet := nofun
  idle := nofun
  trying := nofun
  found := nofun

/-- A driver that has lost something keeps the rest. -/
theorem Core.loses (h : c.Core) {driver : Driver} (hloses : Loses c.driver driver) :
    ({ c with driver := driver } : Connection).Core where
  seen := fun hready => h.seen (hloses.ready hready).1
  known := fun hready => h.known (hloses.ready hready).1
  fresh := fun hup => h.fresh (hloses.configured hup)
  object := h.object
  down := fun hoff => Bool.eq_false_iff.mpr fun hup =>
    absurd (hloses.configured hup) (Bool.eq_false_iff.mp (h.down hoff))

/-- The same of all that is kept. An object that `notify.task` has not seen come up is not to
    lose its camera. -/
theorem Sound.loses (h : c.Sound) (connected : Bool) {driver : Driver}
    (hloses : Loses c.driver driver)
    (hheld : c.chksum = false → c.ready = true → driver.ready = true) :
    ({ c with connected := connected, driver := driver } : Connection).Sound where
  toCore := { h.toCore.loses hloses with }
  off := fun hoff => ⟨Bool.eq_false_iff.mpr fun hready =>
    absurd (hloses.ready hready).1 (Bool.eq_false_iff.mp (h.off hoff).1), (h.off hoff).2⟩
  lost := fun hunseen hdriver => Bool.eq_false_iff.mpr fun hready =>
    absurd (hheld hunseen hready) (Bool.eq_false_iff.mp hdriver)
  made := fun hseen hready => h.made hseen (hloses.ready hready).1
  due := fun hstage hseen _ => by
    cases hwas : c.driver.ready with
    | true => exact Or.inl (h.seen hwas)
    | false => exact h.due hstage hseen hwas
  quiet := fun hstage hunseen => Bool.eq_false_iff.mpr fun hready =>
    absurd (hloses.ready hready).1 (Bool.eq_false_iff.mp (h.quiet hstage hunseen))
  idle := h.idle
  trying := fun n htrying => ⟨Bool.eq_false_iff.mpr fun hready =>
    absurd (hloses.ready hready).1 (Bool.eq_false_iff.mp (h.trying n htrying).1),
    (h.trying n htrying).2⟩
  found := h.found

/-- The driver is taken down. -/
theorem Sound.taken (h : c.Sound) {driver : Driver} (hdriver : driver.ready = false)
    (hdown : driver.usb.configured = false) (hheld : c.chksum = false → c.ready = false) :
    ({ c with driver := driver, seen := false, connected := false, running := false } :
      Connection).Sound where
  seen := fun hready => absurd hready (Bool.eq_false_iff.mp hdriver)
  known := fun hready => absurd hready (Bool.eq_false_iff.mp hdriver)
  fresh := fun hup => absurd hup (Bool.eq_false_iff.mp hdown)
  object := h.object
  down := fun _ => hdown
  off := fun hoff => ⟨hdriver, (h.off hoff).2⟩
  lost := fun hunseen _ => hheld hunseen
  made := fun _ hready => absurd hready (Bool.eq_false_iff.mp hdriver)
  due := fun _ _ _ => Or.inr rfl
  quiet := fun _ _ => hdriver
  idle := h.idle
  trying := fun n htrying => ⟨hdriver, (h.trying n htrying).2⟩
  found := h.found

/-- What `PTP_Task` does: nothing, or it looks at a camera that it has not seen, and is ready
    only if it has read its names, or it marks that there is none. -/
theorem ptpTask_cases (h : c.Core) (released : Bool) :
    c.ptpTask released = c ∨
      (∃ driver known, c.ptpTask released =
          { c with seen := true, driver := driver, known := known } ∧
        c.driver.usb.configured = true ∧ c.seen = false ∧
        (driver.ready = true → known = some c.camera)) ∨
      (c.ptpTask released = { c with seen := false, driver.ready := false } ∧
        c.driver.usb.configured = false) := by
  by_cases hup : c.driver.usb.configured = true
  · by_cases hseen : c.seen = true
    · exact Or.inl (by rw [ptpTask, if_pos hup, if_pos hseen])
    · have hunseen := Bool.eq_false_iff.mpr hseen
      have hopen := Driver.openSession_loses c.driver released
      have hask := Driver.transaction_loses (c.driver.openSession released)
        operationGetDeviceInfo true [] []
      refine Or.inr (Or.inl ?_)
      rw [ptpTask, if_pos hup, if_neg hseen]
      simp only
      split
      · exact ⟨_, _, rfl, hup, hunseen, fun _ => rfl⟩
      · -- A driver that was not ready is not ready now.
        refine ⟨_, c.known, rfl, hup, hunseen, fun hready => ?_⟩
        exact absurd (h.seen ((hopen.trans hask).ready hready).1) hseen
  · refine Or.inr (Or.inr ⟨?_, Bool.eq_false_iff.mpr hup⟩)
    rw [ptpTask, if_neg hup]

theorem ptpTask_core (h : c.Core) (released : Bool) : (c.ptpTask released).Core := by
  rcases ptpTask_cases h released with heq | ⟨driver, known, heq, hup, hseen, hready⟩ | ⟨heq, hup⟩
  · rw [heq]
    exact h
  · rw [heq]
    have hclosed := h.fresh hup hseen
    exact {
      seen := fun _ => rfl
      known := hready
      fresh := fun _ h => absurd h.symm Bool.false_ne_true
      object := fun hready => absurd hready (Bool.eq_false_iff.mp hclosed)
      down := fun hoff => absurd hup (Bool.eq_false_iff.mp (h.down hoff)) }
  · rw [heq]
    exact {
      seen := fun h => absurd h Bool.false_ne_true
      known := fun h => absurd h Bool.false_ne_true
      fresh := fun h => absurd h (Bool.eq_false_iff.mp hup)
      object := h.object
      down := h.down }

/-- The object is made anew for the camera that is there. -/
theorem init_core (h : c.Core) (hready : c.driver.ready = true) (hclosed : c.ready = false)
    (protocol : Protocol) : (c.init protocol).Core := by
  have hloses := Driver.greet_loses c.driver (greetings protocol)
  have hcore := h.loses hloses
  refine { hcore with fresh := fun _ hseen => ?_, object := fun hmade => ?_ }
  · exact absurd (h.seen hready) (Bool.eq_false_iff.mp hseen)
  · have hgreeted : (greet c.driver (greetings protocol)).1 = true := by
      have hor : (c.ready || (greet c.driver (greetings protocol)).1) = true := hmade
      rw [hclosed, Bool.false_or] at hor
      exact hor
    exact ⟨if_pos hgreeted, rfl⟩

/-- It is ready, or left half made. -/
theorem init_made (c : Connection) (protocol : Protocol) :
    (c.init protocol).ready = true ∨ (c.init protocol).halfMade = true := by
  show (c.ready || (greet c.driver (greetings protocol)).1) = true ∨
    (!(greet c.driver (greetings protocol)).1) = true
  cases (greet c.driver (greetings protocol)).1 with
  | true => exact Or.inl (Bool.or_true _)
  | false => exact Or.inr rfl

/-- A driver that is not ready any more after `init` has not been greeted. -/
theorem init_lost (hready : c.driver.ready = true) (hclosed : c.ready = false)
    {protocol : Protocol} (hlost : (c.init protocol).driver.ready = false) :
    (c.init protocol).ready = false := by
  cases hgreeted : (greet c.driver (greetings protocol)).1 with
  | true =>
      have hstays := Driver.greet_ok hgreeted
      exact absurd (hstays.trans hready) (Bool.eq_false_iff.mp hlost)
  | false =>
      show (c.ready || (greet c.driver (greetings protocol)).1) = false
      rw [hclosed, hgreeted]
      rfl

theorem notify_sound (h : c.Sound) (protocol : Protocol) (henabling : c.enabling = .idle) :
    ({ c.notify protocol with stage := .notified } : Connection).Sound := by
  unfold notify
  by_cases hsame : c.chksum = c.driver.ready
  · rw [if_pos hsame]
    exact { h with
      due := fun _ hseen hlost => absurd (hsame.symm.trans hseen) (Bool.eq_false_iff.mp hlost)
      quiet := fun _ hunseen => hsame.symm.trans hunseen
      idle := fun _ => henabling }
  · rw [if_neg hsame]
    unfold messageNotify
    cases hready : c.driver.ready with
    | false =>
        simp only [Bool.false_eq_true, if_false]
        by_cases hoff : c.disabled = true
        · -- It has been closed already.
          rw [if_pos hoff]
          exact { h with
            lost := fun _ _ => (h.off hoff).2
            made := nofun
            due := nofun
            quiet := fun _ _ => hready
            idle := fun _ => henabling }
        · rw [if_neg hoff]
          exact {
            seen := h.seen
            known := h.known
            fresh := fun _ _ => rfl
            object := nofun
            down := h.down
            off := fun h => absurd h hoff
            lost := fun _ _ => rfl
            made := nofun
            due := nofun
            quiet := fun _ _ => hready
            idle := fun _ => henabling
            trying := fun n htrying => ⟨hready, rfl, (h.trying n htrying).2.2⟩
            found := fun hfound => absurd (henabling.symm.trans hfound) nofun }
    | true =>
        simp only [if_true]
        have hon : c.disabled = false := Bool.eq_false_iff.mpr fun hoff =>
          absurd hready (Bool.eq_false_iff.mp (h.off hoff).1)
        by_cases hopen : c.ready = true
        · rw [if_pos hopen]
          exact { h with
            lost := nofun
            made := fun _ _ => Or.inl hopen
            due := fun _ _ hlost => absurd hready (Bool.eq_false_iff.mp hlost)
            quiet := nofun
            idle := fun _ => henabling }
        · rw [if_neg hopen]
          have hcore : ({ c with chksum := true } : Connection).Core := { h.toCore with }
          exact { init_core hcore hready (Bool.eq_false_iff.mpr hopen) protocol with
            off := fun hoff => absurd hoff (Bool.eq_false_iff.mp hon)
            lost := nofun
            made := fun _ _ => init_made { c with chksum := true } protocol
            due := fun _ _ _ => Or.inl (h.seen hready)
            quiet := nofun
            idle := fun _ => henabling
            trying := fun n htrying => absurd (henabling.symm.trans htrying) nofun
            found := fun hfound => absurd (henabling.symm.trans hfound) nofun }

/-- `PTP_Task` in the main loop does not bring up a driver that `notify.task` has seen up. -/
theorem poll_sound (h : c.Sound) (hstage : c.stage = .notified) (hon : c.disabled = false)
    (released : Bool) :
    ({ c.ptpTask released with stage := .polled } : Connection).Sound := by
  have henabling := h.idle hstage
  have hcore := ptpTask_core h.toCore released
  rcases ptpTask_cases h.toCore released with
    heq | ⟨driver, known, heq, hup, hseen, -⟩ | ⟨heq, -⟩
  · rw [heq]
    exact { h with due := nofun, quiet := nofun, idle := nofun }
  · have hclosed := h.fresh hup hseen
    have hdown : c.driver.ready = false := Bool.eq_false_iff.mpr fun hready =>
      absurd (h.seen hready) (Bool.eq_false_iff.mp hseen)
    rw [heq] at hcore ⊢
    exact { hcore with
      off := fun hoff => absurd hoff (Bool.eq_false_iff.mp hon)
      lost := fun _ _ => hclosed
      made := fun htold _ => by
        -- It would have been seen to go.
        rcases h.due hstage htold hdown with hseen' | hstopped
        · exact absurd hseen' (Bool.eq_false_iff.mp hseen)
        · exact absurd hup (Bool.eq_false_iff.mp (h.down hstopped))
      due := nofun
      quiet := nofun
      idle := nofun
      trying := fun n htrying => absurd (henabling.symm.trans htrying) nofun
      found := fun hfound => absurd (henabling.symm.trans hfound) nofun }
  · rw [heq] at hcore ⊢
    exact { hcore with
      off := fun hoff => absurd hoff (Bool.eq_false_iff.mp hon)
      lost := fun hunseen _ => h.lost hunseen (h.quiet hstage hunseen)
      made := nofun
      due := nofun
      quiet := nofun
      idle := nofun
      trying := fun n htrying => absurd (henabling.symm.trans htrying) nofun
      found := fun hfound => absurd (henabling.symm.trans hfound) nofun }

/-- What `PTP_Task` has nothing to do with. -/
theorem ptpTask_same (h : c.Core) (released : Bool) :
    (c.ptpTask released).ready = c.ready ∧ (c.ptpTask released).disabled = c.disabled ∧
      (c.ptpTask released).stage = c.stage ∧ (c.ptpTask released).chksum = c.chksum ∧
      (c.ptpTask released).halfMade = c.halfMade := by
  rcases ptpTask_cases h released with heq | ⟨driver, known, heq, -⟩ | ⟨heq, -⟩
  · rw [heq]
    exact ⟨rfl, rfl, rfl, rfl, rfl⟩
  · rw [heq]
    exact ⟨rfl, rfl, rfl, rfl, rfl⟩
  · rw [heq]
    exact ⟨rfl, rfl, rfl, rfl, rfl⟩

/-- A look for the camera makes the object for what it finds. -/
theorem look_sound (h : c.Sound) {n : Nat} (henabling : c.enabling = .trying n) (k : Nat)
    (released : Bool) (protocol : Protocol) : (c.look k released protocol).Sound := by
  rcases h.trying n henabling with ⟨-, hclosed, hon⟩
  rcases ptpTask_same h.toCore released with ⟨hready, hdisabled, hstage, -⟩
  have hcore := ptpTask_core h.toCore released
  have hstill := hready.trans hclosed
  have hbusy : (c.ptpTask released).stage ≠ .notified := fun hnotified =>
    absurd ((h.idle (hstage.symm.trans hnotified)).symm.trans henabling) nofun
  have hawake : ¬ (c.ptpTask released).disabled = true :=
    Bool.eq_false_iff.mp (hdisabled.trans hon)
  unfold look
  simp only
  generalize c.ptpTask released = e at hcore hstill hbusy hawake
  by_cases hup : e.driver.ready = true
  · rw [if_pos hup]
    exact { init_core hcore hup hstill protocol with
      off := fun hoff => absurd hoff hawake
      lost := fun _ hlost => init_lost hup hstill hlost
      made := fun _ _ => init_made e protocol
      due := fun hnotified => absurd hnotified hbusy
      quiet := fun hnotified => absurd hnotified hbusy
      idle := fun hnotified => absurd hnotified hbusy
      trying := nofun
      found := fun _ => ⟨init_made e protocol, Bool.eq_false_iff.mpr hawake⟩ }
  · rw [if_neg hup]
    exact { hcore with
      off := fun hoff => absurd hoff hawake
      lost := fun _ _ => hstill
      made := fun _ hready => absurd hready hup
      due := fun hnotified => absurd hnotified hbusy
      quiet := fun hnotified => absurd hnotified hbusy
      idle := fun hnotified => absurd hnotified hbusy
      trying := fun _ _ => ⟨Bool.eq_false_iff.mpr hup, hstill, Bool.eq_false_iff.mpr hawake⟩
      found := fun hfound => by
        by_cases hzero : k = 0
        · rw [if_pos hzero] at hfound
          cases hfound
        · rw [if_neg hzero] at hfound
          cases hfound }

/-- And so it is when `PTP_Task` is called once more. -/
theorem found_sound (h : c.Sound) (henabling : c.enabling = .found) (released : Bool)
    (hheld : c.chksum = false → c.ready = true → (c.ptpTask released).driver.ready = true) :
    ({ c.ptpTask released with enabling := .idle } : Connection).Sound := by
  rcases h.found henabling with ⟨hmade, hon⟩
  rcases ptpTask_same h.toCore released with ⟨hready, hdisabled, hstage, hchksum, hhalf⟩
  have hbusy : (c.ptpTask released).stage ≠ .notified := fun hnotified =>
    absurd ((h.idle (hstage.symm.trans hnotified)).symm.trans henabling) nofun
  exact { ptpTask_core h.toCore released with
    off := fun hoff => absurd (hdisabled.symm.trans hoff) (Bool.eq_false_iff.mp hon)
    lost := fun hunseen hlost => Bool.eq_false_iff.mpr fun hopen =>
      absurd (hheld (hchksum.symm.trans hunseen) (hready.symm.trans hopen))
        (Bool.eq_false_iff.mp hlost)
    made := fun _ _ => hmade.imp hready.trans hhalf.trans
    due := fun hnotified => absurd hnotified hbusy
    quiet := fun hnotified => absurd hnotified hbusy
    idle := fun hnotified => absurd hnotified hbusy
    trying := nofun
    found := nofun }

/-- A camera comes up where there is none left to be seen. -/
theorem enumerated_sound (h : c.Sound) (hrunning : c.running = true) (hseen : c.seen = false)
    (hclosed : c.ready = false) (buffer : Nat → UInt8) (usb : Host) :
    ({ c with
      camera := c.camera + 1
      driver := { c.driver with buffer := buffer, usb := usb } } : Connection).Sound := by
  have hdown : c.driver.ready = false := Bool.eq_false_iff.mpr fun hready =>
    absurd (h.seen hready) (Bool.eq_false_iff.mp hseen)
  exact { h with
    known := fun hready => absurd hready (Bool.eq_false_iff.mp hdown)
    fresh := fun _ _ => hclosed
    down := fun hoff => absurd hrunning (Bool.eq_false_iff.mp hoff) }

/-- The controller is brought up, with nothing on it so far. -/
theorem enable_sound (h : c.Sound) (hstage : c.stage ≠ .notified)
    (henabling : c.enabling = .idle) (hheld : c.chksum = false → c.ready = false) :
    c.enable.Sound := by
  have hcore : ({ c with driver := c.driver.enable, seen := false, running := true } :
      Connection).Core := {
    seen := nofun
    known := nofun
    fresh := nofun
    object := h.object
    down := nofun }
  unfold enable
  simp only
  by_cases hoff : c.disabled = true
  · rw [if_pos hoff]
    exact { hcore with
      off := nofun
      lost := fun hunseen _ => hheld hunseen
      made := nofun
      due := fun hnotified => absurd hnotified hstage
      quiet := fun hnotified => absurd hnotified hstage
      idle := fun hnotified => absurd hnotified hstage
      trying := fun _ _ => ⟨rfl, (h.off hoff).2, rfl⟩
      found := nofun }
  · rw [if_neg hoff]
    exact { hcore with
      off := fun h => absurd h hoff
      lost := fun hunseen _ => hheld hunseen
      made := nofun
      due := fun hnotified => absurd hnotified hstage
      quiet := fun hnotified => absurd hnotified hstage
      idle := fun hnotified => absurd hnotified hstage
      trying := fun n htrying => absurd (henabling.symm.trans htrying) nofun
      found := fun hfound => absurd (henabling.symm.trans hfound) nofun }

theorem disable_sound (hstage : c.stage ≠ .notified)
    (henabling : c.enabling = .idle) : c.disable.Sound where
  seen := nofun
  known := nofun
  fresh := nofun
  object := nofun
  down := fun _ => rfl
  off := fun _ => ⟨rfl, rfl⟩
  lost := fun _ _ => rfl
  made := nofun
  due := fun hnotified => absurd hnotified hstage
  quiet := fun hnotified => absurd hnotified hstage
  idle := fun hnotified => absurd hnotified hstage
  trying := fun _ htrying => absurd (henabling.symm.trans htrying) nofun
  found := fun hfound => absurd (henabling.symm.trans hfound) nofun

/-- The end of a turn takes the controller up or down, or nothing. -/
theorem turn_sound (h : c.Sound) (hstage : c.stage = .polled) (henabling : c.enabling = .idle)
    (host : Bool) (hheld : c.chksum = false → c.ready = true → (c.turn host).ready = true →
      (c.turn host).driver.ready = true) : (c.turn host).Sound := by
  have hbusy : c.stage ≠ .notified := by
    rw [hstage]
    nofun
  -- An object that has not been seen come up is not ready where the driver is not.
  have hclosed : (c.turn host).driver.ready = false → (c.turn host).ready = c.ready →
      c.chksum = false → c.ready = false := fun hlost hsame hunseen =>
    Bool.eq_false_iff.mpr fun hopen =>
      absurd (hheld hunseen hopen (hsame.trans hopen)) (Bool.eq_false_iff.mp hlost)
  unfold turn at hclosed ⊢
  by_cases hoff : c.disabled = true
  · rw [if_pos hoff]
    exact h
  · rw [if_neg hoff] at hclosed ⊢
    have hon : c.disabled = false := Bool.eq_false_iff.mpr hoff
    split
    · next hup =>
        rw [if_pos hup] at hclosed
        have hsame : ({ c with usbMode := true } : Connection).Sound := { h with }
        refine enable_sound hsame hbusy henabling (hclosed ?_ ?_)
        · unfold enable
          simp only [hon, Bool.false_eq_true, if_false]
          rfl
        · unfold enable
          simp only [hon, Bool.false_eq_true, if_false]
    · next hup =>
        rw [if_neg hup] at hclosed
        split
        · next hdown =>
            rw [if_pos hdown] at hclosed
            have hsame : ({ c with usbMode := false } : Connection).Sound := { h with }
            exact hsame.taken rfl rfl (hclosed rfl rfl)
        · exact h

/-- Each step keeps it, as it is asked of a run. -/
theorem step_sound (h : c.Sound) {l : Happening} (hseen : c.Seen l) (hstep : c.step l = some d) :
    d.Sound := by
  rcases hseen with ⟨hgone, hheld⟩
  have hkept := hheld d hstep
  cases l with
  | attached =>
      simp only [step, Option.ite_none_right_eq_some, Option.some.injEq] at hstep
      rcases hstep with ⟨-, rfl⟩
      exact h.loses true ⟨fun hready => ⟨hready, fun _ => rfl⟩, nofun⟩
        fun hunseen hready => hkept ⟨hunseen, hready, hready⟩
  | enumerated descriptor camera =>
      simp only [step, Option.ite_none_right_eq_some] at hstep
      rcases hstep with ⟨⟨hrunning, -, -⟩, hstep⟩
      cases camera with
      | none =>
          simp only [Option.some.injEq] at hstep
          subst hstep
          exact h.loses c.connected (.of_same rfl rfl rfl)
            fun hunseen hready => hkept ⟨hunseen, hready, hready⟩
      | some answers =>
          simp only [Option.some.injEq] at hstep
          subst hstep
          rcases hgone rfl with ⟨hunseen, hclosed⟩
          exact enumerated_sound h hrunning hunseen hclosed _ _
  | unattached =>
      simp only [step, Option.some.injEq] at hstep
      subst hstep
      exact h.loses false ⟨fun hready => ⟨hready, fun _ => rfl⟩, nofun⟩
        fun hunseen hready => hkept ⟨hunseen, hready, hready⟩
  | hostError =>
      simp only [step, Option.some.injEq] at hstep
      subst hstep
      exact h.taken rfl rfl fun hunseen => Bool.eq_false_iff.mpr fun hready =>
        absurd (hkept ⟨hunseen, hready, hready⟩) Bool.false_ne_true
  | transaction opCode receive params data =>
      simp only [step, Option.some.injEq] at hstep
      subst hstep
      exact h.loses c.connected (Driver.transaction_loses c.driver opCode receive params data)
        fun hunseen hready => hkept ⟨hunseen, hready, hready⟩
  | fetchData offset =>
      simp only [step, Option.some.injEq] at hstep
      subst hstep
      exact h.loses c.connected (Driver.fetchData_loses c.driver offset)
        fun hunseen hready => hkept ⟨hunseen, hready, hready⟩
  | disable =>
      simp only [step, Option.ite_none_right_eq_some, Option.some.injEq] at hstep
      rcases hstep with ⟨⟨henabling, hstage⟩, rfl⟩
      exact disable_sound hstage henabling
  | enable =>
      simp only [step, Option.ite_none_right_eq_some, Option.some.injEq] at hstep
      rcases hstep with ⟨⟨henabling, hstage, hoff⟩, rfl⟩
      exact enable_sound h hstage henabling fun _ => (h.off hoff).2
  | look released protocol =>
      cases henabling : c.enabling with
      | idle =>
          simp only [step, henabling, reduceCtorEq] at hstep
      | trying n =>
          simp only [step, henabling, Option.some.injEq] at hstep
          subst hstep
          exact look_sound h henabling (n - 1) released protocol
      | found =>
          simp only [step, henabling, Option.some.injEq] at hstep
          subst hstep
          refine found_sound h henabling released fun hunseen hready => ?_
          exact hkept ⟨hunseen, hready, (ptpTask_same h.toCore released).1.trans hready⟩
  | notify protocol =>
      simp only [step, Option.ite_none_right_eq_some, Option.some.injEq] at hstep
      rcases hstep with ⟨⟨henabling, -⟩, rfl⟩
      exact notify_sound h protocol henabling
  | poll released =>
      simp only [step, Option.ite_none_right_eq_some, Option.some.injEq] at hstep
      rcases hstep with ⟨⟨-, hstage⟩, rfl⟩
      by_cases hmode : c.usbMode = true ∧ c.disabled = false
      · rw [if_pos hmode]
        exact poll_sound h hstage hmode.2 released
      · rw [if_neg hmode]
        exact { h with due := nofun, quiet := nofun, idle := nofun }
  | turn host =>
      simp only [step, Option.ite_none_right_eq_some, Option.some.injEq] at hstep
      rcases hstep with ⟨⟨henabling, hstage⟩, rfl⟩
      have hturn := turn_sound h hstage henabling host fun hunseen hready hstill =>
        hkept ⟨hunseen, hready, hstill⟩
      exact { hturn with due := nofun, quiet := nofun, idle := nofun }

theorem ptpTask_clean (h : c.driver.Clean) (released : Bool) :
    (c.ptpTask released).driver.Clean := by
  unfold ptpTask
  split
  · split
    · exact h
    · simp only
      split
      · next hok =>
          have hwell := Driver.transaction_ok hok
          exact fun _ => hwell.2.error.trans hwell.1
      · exact ((Driver.openSession_loses c.driver released).trans
          (Driver.transaction_loses _ operationGetDeviceInfo true [] [])).clean h
  · exact nofun

theorem init_clean (h : c.driver.Clean) (protocol : Protocol) :
    (c.init protocol).driver.Clean := (Driver.greet_loses c.driver _).clean h

theorem enable_clean (c : Connection) : c.enable.driver.Clean := by
  unfold enable
  simp only
  split
  · exact nofun
  · exact nofun

/-- A driver that is ready has no error, whatever happens. -/
theorem step_clean (h : c.driver.Clean) {l : Happening} (hstep : c.step l = some d) :
    d.driver.Clean := by
  cases l with
  | attached =>
      simp only [step, Option.ite_none_right_eq_some, Option.some.injEq] at hstep
      rcases hstep with ⟨-, rfl⟩
      exact fun _ => rfl
  | enumerated descriptor camera =>
      simp only [step, Option.ite_none_right_eq_some] at hstep
      rcases hstep with ⟨-, hstep⟩
      cases camera with
      | none =>
          simp only [Option.some.injEq] at hstep
          subst hstep
          exact h
      | some answers =>
          simp only [Option.some.injEq] at hstep
          subst hstep
          exact h
  | unattached =>
      simp only [step, Option.some.injEq] at hstep
      subst hstep
      exact fun _ => rfl
  | hostError =>
      simp only [step, Option.some.injEq] at hstep
      subst hstep
      exact fun _ => rfl
  | transaction opCode receive params data =>
      simp only [step, Option.some.injEq] at hstep
      subst hstep
      exact (Driver.transaction_loses c.driver opCode receive params data).clean h
  | fetchData offset =>
      simp only [step, Option.some.injEq] at hstep
      subst hstep
      exact (Driver.fetchData_loses c.driver offset).clean h
  | disable =>
      simp only [step, Option.ite_none_right_eq_some, Option.some.injEq] at hstep
      rcases hstep with ⟨-, rfl⟩
      exact nofun
  | enable =>
      simp only [step, Option.ite_none_right_eq_some, Option.some.injEq] at hstep
      rcases hstep with ⟨-, rfl⟩
      exact enable_clean c
  | look released protocol =>
      have htask := ptpTask_clean h released
      cases henabling : c.enabling with
      | idle =>
          simp only [step, henabling, reduceCtorEq] at hstep
      | trying n =>
          simp only [step, henabling, Option.some.injEq] at hstep
          subst hstep
          unfold look
          simp only
          split
          · exact init_clean htask protocol
          · exact htask
      | found =>
          simp only [step, henabling, Option.some.injEq] at hstep
          subst hstep
          exact htask
  | notify protocol =>
      simp only [step, Option.ite_none_right_eq_some, Option.some.injEq] at hstep
      rcases hstep with ⟨-, rfl⟩
      show (c.notify protocol).driver.Clean
      unfold notify messageNotify
      split
      · exact h
      · split
        · split
          · exact h
          · exact @init_clean { c with chksum := c.driver.ready } h protocol
        · split
          · exact h
          · exact h
  | poll released =>
      simp only [step, Option.ite_none_right_eq_some, Option.some.injEq] at hstep
      rcases hstep with ⟨-, rfl⟩
      split
      · exact ptpTask_clean h released
      · exact h
  | turn host =>
      simp only [step, Option.ite_none_right_eq_some, Option.some.injEq] at hstep
      rcases hstep with ⟨-, rfl⟩
      show (c.turn host).driver.Clean
      unfold turn
      split
      · exact h
      · split
        · exact enable_clean _
        · split
          · exact nofun
          · exact h

/-- A driver that is ready has no error, in any run. -/
theorem run_clean {ok : Connection → Happening → Prop} (h : Run step ok powerUp c) :
    c.driver.Clean :=
  h.invariant (fun c => c.driver.Clean) (fun _ _ _ hs _ hstep => step_clean hs hstep) nofun

/-- The object follows the cable: in every run in which a camera comes up only when the one
    before has been seen to go, and an object that has been made anew does not lose its camera
    before `notify.task` has seen it, the driver and the object are those of the camera that
    came up last. -/
theorem object_follows (h : Run step Seen powerUp c) : c.Follows := by
  have hsound := h.invariant Sound (fun _ _ _ hs hseen hstep => step_sound hs hseen hstep)
    powerUp_sound
  exact hsound.follows (run_clean h)

/-- A camera that opens a session and tells its names. -/
def opens : Option (Silence × List Answer) :=
  some (.timeout, [⟨noError, noError, [okResponse]⟩,
    ⟨noError, noError, [dataContainer operationGetDeviceInfo [1, 2, 3], okResponse]⟩])

/-- A turn of the main loop, with a camera or without. -/
def round (host : Bool) : List Happening := [.notify .nikon, .poll false, .turn host]

/-- A camera is plugged in, and after a while is brought up again. -/
def plugged : List Happening :=
  round true ++ [.attached, .enumerated [] opens] ++ round true ++ [.notify .nikon, .poll false,
    .disable, .enable, .attached, .enumerated [] opens, .look false .nikon, .look false .nikon]

/-- The object is there, and is the one of the camera that has come up again. -/
theorem object_follows_again : ∃ c, steps step powerUp plugged = some c ∧ c.Follows ∧
    c.ready = true ∧ c.object = some 2 := by
  have hallowed : allowed step Seen powerUp plugged = true := by decide +kernel
  rcases run_of_allowed plugged hallowed with ⟨c, hsteps, hrun⟩
  have hmade : (steps step powerUp plugged).map (fun c => (c.ready, c.object)) =
      some (true, some 2) := by decide +kernel
  rw [hsteps, Option.map_some, Option.some.injEq, Prod.mk.injEq] at hmade
  exact ⟨c, hsteps, object_follows hrun, hmade⟩

/-- The camera fails twice: once it is seen to, and then after it has been brought up again
    and before that has been seen. And then another one is plugged in. -/
def exchanged : List Happening :=
  round true ++ [.attached, .enumerated [] opens] ++ round true ++
    [.notify .nikon, .poll false, .transaction 1 false [] [], .turn true] ++
    [.notify .nikon, .poll false, .disable, .enable, .attached, .enumerated [] opens,
      .look false .nikon, .look false .nikon, .transaction 1 false [] [], .turn true] ++
    [.notify .nikon, .unattached, .poll false, .turn true, .attached, .enumerated [] opens] ++
    round true ++ [.notify .nikon]

/-- The object is then left over from the camera before. -/
theorem object_left : ∃ c, steps step powerUp exchanged = some c ∧ c.ready = true ∧
    c.driver.ready = true ∧ c.known = some 3 ∧ c.object = some 2 := by
  have hleft : (steps step powerUp exchanged).map
      (fun c => (c.ready, c.driver.ready, c.known, c.object)) =
      some (true, true, some 3, some 2) := by decide +kernel
  cases hsteps : steps step powerUp exchanged with
  | none =>
      rw [hsteps] at hleft
      cases hleft
  | some c =>
      rw [hsteps, Option.map_some, Option.some.injEq, Prod.mk.injEq, Prod.mk.injEq,
        Prod.mk.injEq] at hleft
      exact ⟨c, rfl, hleft⟩

end Connection

end Ptp

end TimelapsePlus
