import TimelapsePlus.Lib.Run
import TimelapsePlus.Shutter.Clock

/-!
# The Shutter and the Clock

Everything the timer interrupt touches: the clock, the pins that drive the
shutter and the auxiliary ports, the flags that remember what is open, and what
the shutter code knows of the camera.

A tick is a call of `count`. It starts a bulb, ends one, or takes the sync
input, and then leaves the queue alone; otherwise it services the queue. The
functions that start and end a bulb send an infrared code by calling `advance`,
which calls `count` for every millisecond the code takes, from inside the tick
that is starting or ending the bulb. Such a tick is cut in two. `count` ends
where `advance` begins, leaving a `Frame` that says what is still to be done
and how many ticks `advance` has left; further ticks are nested ticks, and
`resume` does the rest. The sending code enables interrupts when it is done, so
a nested tick may also come when `advance` has none left.

The pins and the camera change between steps, and what the camera answers to a
transaction comes with the step that makes it.

## Main definitions

* `Link`: What the shutter code knows of the camera.
* `Frame`: The rest of a tick that is sending an infrared code.
* `World`: The state.
* `World.callIn`: `Clock::in`.
* `World.shutterOff`, `World.shutterHalf`, `World.shutterFull`, ...: The
  functions of the shutter.
* `World.count`: A tick, up to the infrared code it may send.
* `World.resume`: The rest of such a tick.
* `World.step`: One step of the firmware at the level of the clock.
-/

namespace TimelapsePlus

namespace Shutter

open Word

/-- What the shutter code knows of the camera. -/
structure Link where
  ready : Bool
  staticReady : Bool
  supportsBulb : Bool
  supportsCapture : Bool
  bulbOpen : Bool
  busy : Bool
deriving Repr, DecidableEq

/-- No camera is connected. -/
def Link.none : Link := ⟨false, false, false, false, false, false⟩

/-- Whether the transactions of a step fail: setting the bulb mode, starting a
    bulb, ending it, and taking a picture. -/
structure Io where
  modeError : Bool
  startError : Bool
  endError : Bool
  captureError : Bool
deriving Repr, DecidableEq

/-- Every transaction succeeds. -/
def Io.ok : Io := ⟨false, false, false, false⟩

/-- What a tick that is sending an infrared code is doing. -/
inductive FrameKind
  | start
  | stop
deriving Repr, DecidableEq

/-- The rest of a tick that is sending an infrared code: how many ticks
    `advance` has left. -/
structure Frame where
  kind : FrameKind
  left : Nat
deriving Repr, DecidableEq

/-- The state. `irTicks` is the number of ticks an infrared code takes; `inside`,
    `nextRequest` and `log` are not in the code. -/
structure World where
  conf : Settings
  irTicks : Nat
  clock : Clock
  frames : List Frame
  shutterOpen : Bool
  mirrorUp : Bool
  aux1 : Bool
  aux2 : Bool
  shutterState : Bool
  irShutterState : Bool
  cableConnected : Bool
  usbPrimary : Bool
  lastShutterError : Bool
  cablePin : Bool
  syncPin : Bool
  link : Link
  inside : Bool
  nextRequest : Nat
  log : List Event

namespace World

/-- Write to the log. -/
def note (w : World) (e : Event) : World := { w with log := e :: w.log }

/-- `Clock::in`. A request made outside `count` gets a number and is followed. -/
def callIn (w : World) (time : Nat) (fn : Callback) : World :=
  match w.clock.queue.free with
  | none => w
  | some i =>
      if w.inside || decide (u16 time = 0) then
        { w with clock.queue := Function.update w.clock.queue i ⟨u16 time, fn, none⟩ }
      else
        { w with
          clock.queue := Function.update w.clock.queue i ⟨u16 time, fn, some w.nextRequest⟩
          nextRequest := w.nextRequest + 1
          log := .accepted w.nextRequest fn (u16 time) :: w.log }

/-- `SHUTTER_CLOSE`, which lets the whole button go. -/
def shutterClose (w : World) : World :=
  { w with shutterOpen := false, mirrorUp := false, log := .released :: w.log }

/-- `CHECK_CABLE`. -/
def checkCable (w : World) : World :=
  { w with
    cableConnected :=
      w.cablePin && (decide (w.conf.cameraPort = .default) || decide (w.conf.auxPort ≠ .sync)) }

/-- `shutter_off_quick`. -/
def shutterOffQuick (w : World) : World :=
  if w.conf.motionSync then w
  else { w.shutterClose with irShutterState := false, shutterState := false }

/-- `shutter_off`. -/
def shutterOff (w : World) : World :=
  if w.conf.motionSync then w
  else { w.shutterClose.callIn 20 .checkCable with irShutterState := false, shutterState := false }

/-- `shutter_half`. -/
def shutterHalf (w : World) : World :=
  if w.conf.motionSync then w
  else if w.conf.camera.halfPress then w.shutterOff.callIn 30 .shutterHalfDelayed
  else w.shutterOff

/-- `shutter_half_delayed`. -/
def shutterHalfDelayed (w : World) : World :=
  if w.conf.motionSync then w else { w.shutterClose with mirrorUp := true }

/-- `shutter_full`. -/
def shutterFull (w : World) : World :=
  if w.conf.motionSync then w
  else { w with shutterOpen := true, mirrorUp := true, log := .pressed :: w.log }

def aux1On (w : World) : World :=
  if w.conf.motionSync then { w with shutterOpen := true } else { w with aux1 := true }

def aux1Off (w : World) : World :=
  if w.conf.motionSync then w.shutterClose else { w with aux1 := false }

def aux2On (w : World) : World :=
  if w.conf.motionSync then { w with mirrorUp := true } else { w with aux2 := true }

def aux2Off (w : World) : World :=
  if w.conf.motionSync then { w with mirrorUp := false } else { w with aux2 := false }

/-- `(*inFunction[i])()`. -/
def call (w : World) : Callback → World
  | .checkCable => w.checkCable
  | .shutterHalfDelayed => w.shutterHalfDelayed
  | .shutterOff => w.shutterOff
  | .shutterHalf => w.shutterHalf
  | .aux1Off => w.aux1Off
  | .aux2Off => w.aux2Off

/-- `PTP::bulbStart`. -/
def usbBulbStart (w : World) (io : Io) : World :=
  if !w.link.staticReady || !w.link.supportsBulb then { w with lastShutterError := true }
  else if io.startError then
    { w with link := { w.link with bulbOpen := true, busy := true }, lastShutterError := true }
  else
    { w with
      link := { w.link with bulbOpen := true, busy := true }
      log := .opened .usb :: w.log }

/-- `PTP::bulbEnd`. -/
def usbBulbEnd (w : World) (io : Io) : World :=
  if !w.link.staticReady || !w.link.bulbOpen || !w.link.supportsBulb then w
  else if io.endError then { w with link := { w.link with busy := true } }
  else
    { w with
      link := { w.link with bulbOpen := false, busy := true }
      log := .closed .usb :: w.log }

/-- How the first half of `shutter_bulbStartQuick` ends: in an early return, with
    an infrared code to send, or going on to the cable. -/
inductive Head
  | abort
  | send
  | cable
deriving Repr, DecidableEq

/-- The first half of `shutter_bulbStartQuick`. -/
def bulbStartHead (w : World) (io : Io) : World × Head :=
  let v := { w with lastShutterError := false, log := .bulbStart :: w.log }
  if (!w.cableConnected || w.usbPrimary || !w.conf.camera.interface.hasCable) &&
      !w.irShutterState then
    if w.link.supportsBulb && w.conf.camera.interface.hasUsb then
      if io.modeError then ({ v with lastShutterError := true }, .abort)
      else (v.usbBulbStart io, .cable)
    else if w.conf.camera.interface.hasIr && !w.usbPrimary then
      ({ v with irShutterState := true, log := .opened .ir :: v.log }, .send)
    else (v, .cable)
  else (v, .cable)

/-- Press the button to open a bulb. -/
def pressOpen (w : World) (via : Via) : World :=
  if w.conf.motionSync then w else w.shutterFull.note (.opened via)

/-- Press the button a second time to close one. -/
def pressClose (w : World) : World :=
  if w.conf.motionSync then w else w.shutterFull.note (.closed .toggle)

/-- The second half of `shutter_bulbStartQuick`. -/
def bulbStartCable (w : World) : World :=
  if w.conf.camera.interface.hasCable && !w.usbPrimary then
    match w.conf.camera.bulbMode with
    | .hold => w.pressOpen .hold
    | .toggle =>
        if w.shutterState then w
        else
          { w.pressOpen .toggle with shutterState := true }.callIn w.conf.pressTime
            (if w.link.ready then .shutterOff else .shutterHalf)
  else w

/-- The first half of `shutter_bulbEndQuick`, and whether it sends an infrared
    code. -/
def bulbEndHead (w : World) (io : Io) : World × Bool :=
  let v := { w with log := .bulbEnd :: w.log }
  if w.link.bulbOpen || w.irShutterState then
    if w.link.bulbOpen && w.conf.camera.interface.hasUsb then
      ({ v.usbBulbEnd io with irShutterState := false }, false)
    else if w.conf.camera.interface.hasIr && !w.usbPrimary then
      ({ v with log := .closed .ir :: v.log }, true)
    else ({ v with irShutterState := false }, false)
  else (v, false)

/-- The second half of `shutter_bulbEndQuick`. -/
def bulbEndCable (w : World) : World :=
  if w.conf.camera.interface.hasCable && !w.usbPrimary then
    match w.conf.camera.bulbMode with
    | .hold => w.shutterOff
    | .toggle =>
        if w.shutterState then
          { w.pressClose with shutterState := false }.callIn w.conf.pressTime .shutterOff
        else w
  else w

/-- What `count` does about the sync input before it starts a bulb. -/
def prepareSync (w : World) : World :=
  if decide (w.conf.auxPort = .sync) && !w.syncPin then
    { w with
      clock.bulbDurationPCsync :=
        if w.conf.camera.bulbEndOffset < w.clock.bulbDuration then
          w.clock.bulbDuration - w.conf.camera.bulbEndOffset
        else 0
      clock.bulbDuration :=
        if w.conf.pcSyncRequired then u32 (w.clock.bulbDuration + 2000) else w.clock.bulbDuration }
  else { w with clock.bulbDurationPCsync := 0 }

/-- What `count` does when it has started a bulb. -/
def finishStart (w : World) : World :=
  { w with
    clock.newBulb := false
    clock.bulbRunning := true
    clock.bulbDuration :=
      if w.conf.camera.negBulbOffset then sub32 w.clock.bulbDuration w.conf.camera.bulbOffset
      else u32 (w.clock.bulbDuration + w.conf.camera.bulbOffset)
    clock.skips := u8 (w.clock.skips + 1)
    log := .offset :: w.log }

/-- What `count` does when it has ended one. -/
def finishEnd (w : World) : World :=
  { w with
    clock.bulbRunning := false
    clock.usingSync := if w.clock.bulbDurationPCsync ≠ 0 then false else w.clock.usingSync
    clock.skips := u8 (w.clock.skips + 1) }

/-- A tick that starts a bulb. -/
def startTick (w : World) (io : Io) : World :=
  let r := (w.note .skipped).prepareSync.bulbStartHead io
  match r.2 with
  | .abort => r.1.finishStart
  | .cable => r.1.bulbStartCable.finishStart
  | .send => { r.1 with frames := ⟨.start, w.irTicks⟩ :: r.1.frames }

/-- A tick that ends one. -/
def endTick (w : World) (io : Io) : World :=
  let r := { w.note .skipped with clock.bulbDuration := 0 }.bulbEndHead io
  if r.2 then { r.1 with frames := ⟨.stop, w.irTicks⟩ :: r.1.frames }
  else r.1.bulbEndCable.finishEnd

/-- A tick that takes the sync input. -/
def syncTick (w : World) : World :=
  { w with
    clock.bulbDuration := w.clock.bulbDurationPCsync
    clock.bulbDurationPCsync := 0
    clock.usingSync := true
    clock.skips := u8 (w.clock.skips + 1)
    log := .skipped :: w.log }

/-- One slot of the queue is serviced. -/
def serviceSlot (w : World) (i : Fin 3) : World :=
  let s := w.clock.queue i
  let time := sub16 s.time (1 + w.clock.skips)
  if s.time = 0 then w
  else if time = 0 then
    { w with
      clock.queue := Function.update w.clock.queue i { s with time := 0 }
      log := .called s.fn s.request :: w.log }.call s.fn
  else { w with clock.queue := Function.update w.clock.queue i { s with time := time } }

/-- A tick that services the queue. -/
def service (w : World) : World :=
  let v := (List.finRange 3).foldl serviceSlot (w.note .serviced)
  { v with
    clock.ms := if 1000 ≤ v.clock.ms then v.clock.ms - 1000 else v.clock.ms
    clock.seconds := if 1000 ≤ v.clock.ms then u32 (v.clock.seconds + 1) else v.clock.seconds
    clock.skips := 0 }

/-- `count` is entered; `advance` has one tick less to go. -/
def enter (w : World) : World :=
  { w with
    clock.ms := u16 (w.clock.ms + 1)
    clock.eventMs := u32 (w.clock.eventMs + 1)
    frames := match w.frames with
      | [] => []
      | f :: fs => { f with left := f.left - 1 } :: fs
    inside := true }

/-- `count` returns, or sends an infrared code. -/
def leave (w : World) : World := { w with inside := false }

/-- A tick while a bulb is running. -/
def bulbTick (w : World) (io : Io) : World :=
  if sub32 w.clock.bulbDuration 1 = 0 then w.endTick io
  else if decide (w.clock.bulbDurationPCsync ≠ 0) && w.syncPin then w.syncTick
  else { w with clock.bulbDuration := sub32 w.clock.bulbDuration 1 }.service

/-- `Clock::count`, up to the infrared code it may send. -/
def count (w : World) (io : Io) : World :=
  (if w.clock.newBulb then w.enter.startTick io
    else if w.clock.bulbRunning then w.enter.bulbTick io
    else w.enter.service).leave

/-- The rest of a tick that has sent an infrared code. -/
def resume (w : World) (f : Frame) (fs : List Frame) : World :=
  let v := { w with frames := fs, inside := true }
  match f.kind with
  | .start => v.bulbStartCable.finishStart.leave
  | .stop => { v with irShutterState := false }.bulbEndCable.finishEnd.leave

/-- `Clock::bulb`. -/
def bulb (w : World) (duration : Nat) : World :=
  { w with
    clock.bulbRunning := false
    clock.bulbDuration := u32 duration
    clock.newBulb := true
    log := .bulb duration :: w.log }

/-- `Clock::cancelBulb`. -/
def cancelBulb (w : World) : World :=
  { w with
    clock.bulbRunning := false
    clock.bulbDuration := 0
    clock.newBulb := false
    log := .cancelled :: w.log }

/-- What happens next, at the level of the clock. -/
inductive Action
  | tick (io : Io)
  | resume
  | callIn (time : Nat) (fn : Callback)
  | bulb (duration : Nat)
  | cancelBulb
  | environment (cablePin syncPin : Bool) (link : Link)

/-- One step. The main loop stands still while an infrared code is being sent. -/
def step (w : World) : Action → Option World
  | .tick io => some (w.count io)
  | .resume =>
      match w.frames with
      | [] => none
      | f :: fs => if f.left = 0 then some (w.resume f fs) else none
  | .callIn time fn => if w.frames = [] then some (w.callIn time fn) else none
  | .bulb duration => if w.frames = [] then some (w.bulb duration) else none
  | .cancelBulb => if w.frames = [] then some w.cancelBulb else none
  | .environment cablePin syncPin link =>
      some { w with cablePin := cablePin, syncPin := syncPin, link := link }

/-- A world in which nothing has happened yet. -/
def idle (conf : Settings) (irTicks : Nat) (link : Link) : World where
  conf := conf
  irTicks := irTicks
  clock := .reset
  frames := []
  shutterOpen := false
  mirrorUp := false
  aux1 := false
  aux2 := false
  shutterState := false
  irShutterState := false
  cableConnected := false
  usbPrimary := false
  lastShutterError := false
  cablePin := false
  syncPin := false
  link := link
  inside := false
  nextRequest := 0
  log := []

end World

end Shutter

end TimelapsePlus
