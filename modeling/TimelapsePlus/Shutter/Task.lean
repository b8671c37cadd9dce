import TimelapsePlus.Lib.Stages
import TimelapsePlus.Shutter.Release

/-!
# The Task of the Intervalometer

`shutter::task` is called again and again by the main loop, and between its calls
the menu may start a run, stop it or pause it. A call looks at the state of the
run block by block, and each block here is a stage under the name of the state it
is for. A call waits in some places, for the camera to wake up or for a bulb to
start, and the clock ticks on while it does. So a call is cut where it waits: it
leaves its `Place` and the number of ticks it waits for, and is gone on with when
they have passed.

What a call reads that no definition here decides comes with it as `Found`: the
alerts of the menu, the answers of the camera, the exposure that tables and light
readings come to. So does the connection to the camera when it is taken up again.

Five fields of the state are not in the code. They say which exposures were taken.

## Main definitions

* `Program`: The parts of the programme that are read.
* `RunState`, `Place`: Where a run is, and where a call of `task` waits.
* `Found`: What a call reads.
* `Intervalometer`: The state between steps.
* `Intervalometer.task`, `Intervalometer.goOn`: A call up to where it waits, and
  from there on.
* `Order`, `Intervalometer.step`: One step.

## Theorems

* `delay_of_ne` and its like: A block that is not for the state of the run does
  nothing.
-/

namespace TimelapsePlus

namespace Shutter

open Word

/-- `current.brampMethod`. -/
inductive BrampMethod
  | keyframe
  | guided
  | auto
deriving Repr, DecidableEq

/-- `current.nightMode`: the ramp's target is found by the light sensor, put
    together by hand, or a fixed one. -/
inductive NightMode
  | auto
  | custom
  | fixed
deriving Repr, DecidableEq

/-- The parts of `program` that are read, and `conf.arbitraryBulb`. The mode is the
    three flags; of the interval's modes only the external one matters here. -/
structure Program where
  timelapse : Bool
  hdr : Bool
  ramp : Bool
  delay : Nat
  duration : Nat
  photos : Nat
  external : Bool
  gap : Nat
  exps : Nat
  exp : Nat
  brampMethod : BrampMethod
  nightMode : NightMode
  nightND : Nat
  arbitraryBulb : Bool
deriving Repr, DecidableEq

/-- The exposures a photo is made of. -/
def Program.size (p : Program) : Nat := if p.hdr then p.exps else 1

/-- `run_state`. -/
inductive RunState
  | delay
  | bulb
  | photo
  | gap
  | next
  | ended
  | error
  | externalTrigger
  | externalTriggerRelease
deriving Repr, DecidableEq

/-- Where `shutter_capture` is called from. -/
inductive Shot
  | photo
  | manual
  | basic
deriving Repr, DecidableEq

/-- Where a call of `task` waits. -/
inductive Place
  /-- The camera is read before the run. -/
  | loading
  /-- The camera wakes up at the end of the delay. -/
  | waking
  /-- The camera's connection is given up for a picture, and then its button half
      pressed. -/
  | captureOff (c : Shot)
  | captureHalf (c : Shot)
  /-- An infrared code is sent. -/
  | shutterNow (c : Shot)
  /-- The connection is taken up again. -/
  | captureFinish (c : Shot)
  /-- A picture of an exposure ramp has been taken. -/
  | manual
  /-- The camera's connection is given up for a bulb, and then its button half
      pressed. -/
  | prepareOff
  | prepareHalf
  /-- A bulb starts. -/
  | starting
  /-- The connection is taken up again after a bulb. -/
  | finishing
  /-- A bulb has ended. -/
  | settling
  /-- The focus is moved. -/
  | focusing
  /-- The camera is woken up after an error, and its connection reset. -/
  | nudging
  | disabling
  | enabling
deriving Repr, DecidableEq

/-- `SHUTTER_MODE_BULB` and `SHUTTER_MODE_PTP`. -/
structure ShutterType where
  bulb : Bool
  ptp : Bool
deriving Repr, DecidableEq

/-- What the focus needs before the next picture. -/
inductive Focus
  | settled
  | waits
  | moves
deriving Repr, DecidableEq

/-- What a call of `task` reads: the answers of the camera, whether an alert is
    waiting, whether the ramp has come to where a filter is taken off, or to its
    target for the night, the kind and the length of an exposure and the interval
    to the next, whether the camera refuses a value set, whether it is in manual
    mode, `PTP_Error` and `PTP_Connected`, the focus, the motors, `CHECK_EXTERNAL`
    when it is first looked at and when it is looked at again, and the connection
    to the camera when it is taken up again. -/
structure Found where
  io : Io
  alert : Bool
  ndDue : Bool
  nightReached : Bool
  shutterType : ShutterType
  bulbLength : Nat
  interval : Nat
  setError : Bool
  manual : Bool
  ptpError : Bool
  ptpConnected : Bool
  focus : Focus
  motorsRunning : Bool
  trigger : Bool
  triggerHeld : Bool
  link : Link

/-- A call of `task` that finds nothing amiss, with no camera connected. -/
def Found.plain : Found where
  io := .ok
  alert := false
  ndDue := false
  nightReached := false
  shutterType := ⟨true, false⟩
  bulbLength := 1000
  interval := 10
  setError := false
  manual := false
  ptpError := false
  ptpConnected := false
  focus := .settled
  motorsRunning := false
  trigger := false
  triggerHeld := false
  link := .none

/-- A time-lapse of ten photos. -/
def Program.plain : Program where
  timelapse := true
  hdr := false
  ramp := false
  delay := 5
  duration := 240
  photos := 10
  external := false
  gap := 30
  exps := 3
  exp := 46
  brampMethod := .auto
  nightMode := .auto
  nightND := 0
  arbitraryBulb := false

/-- The state between steps. `refused` to `finished` are not in the code: whether
    the last exposure was refused, the pictures taken of the photo in hand, the
    photos with all their pictures, and whether the run has started and ended by
    itself. -/
structure Intervalometer where
  world : World
  program : Program
  running : Bool
  enter : Bool
  paused : Bool
  pausing : Nat
  hasND : Bool
  showND : Bool
  preChecked : Nat
  runState : RunState
  oldState : Option RunState
  exps : Nat
  photos : Nat
  infinitePhotos : Bool
  photosTaken : Nat
  photosRemaining : Nat
  interval : Nat
  bulbLength : Nat
  lastPhotoEndMs : Nat
  lastPhotoMs : Nat
  usingUSB : Bool
  disabled : Bool
  switchBack : BrampMethod
  errorRetryCount : Nat
  place : Option Place
  left : Nat
  refused : Bool
  taken : Nat
  sets : Nat
  started : Bool
  finished : Bool

/-- `Clock::Ms`. -/
def Clock.totalMs (c : Clock) : Nat := u32 (c.ms + c.seconds * 1000)

/-- `settings_mirror_up_time`. -/
def mirrorUpTime : Nat := 3

namespace World

/-- `Clock::tare`. -/
def tare (w : World) : World := { w with clock.eventMs := 0 }

/-- `Clock::reset`. -/
def resetClock (w : World) : World :=
  { w with
    clock.eventMs := 0
    clock.seconds := 0
    clock.ms := 0
    clock.bulbRunning := false
    clock.newBulb := false
    clock.usingSync := false }

/-- The cable is looked for while the button is not half pressed. -/
def senseCable (w : World) : World := if w.mirrorUp then w else w.checkCable

/-- What `camera.close` leaves of the connection. -/
def unlink (w : World) : World := { w with link := .none }

/-- The connection is taken up with no bulb open. -/
def relink (w : World) (link : Link) : World :=
  { w with link := { link with bulbOpen := false, busy := false } }

/-- `camera.bulb_open = true`. -/
def flagOpen (w : World) : World := { w with link := { w.link with bulbOpen := true } }

end World

namespace Intervalometer

/-- A call of `task` waits. -/
def rest (s : Intervalometer) (place : Place) (ms : Nat) : Flow Intervalometer :=
  .back { s with place := some place, left := ms }

/-- The camera is one whose connection is given up for every exposure. -/
def sony (s : Intervalometer) : Bool := decide (s.world.conf.camera.cameraMake = .sony)

/-- `camera.disable`, up to its delay. -/
def disable (s : Intervalometer) : Intervalometer :=
  { s with world := s.world.unlink, disabled := true }

/-- `camera.enable`, from its delay on. -/
def enable (s : Intervalometer) (f : Found) : Intervalometer :=
  { s with world := s.world.relink f.link, disabled := false }

/-- `task` is entered. -/
def arrive (s : Intervalometer) : Flow Intervalometer :=
  if s.running || s.enter then .on { s with world := s.world.senseCable }
  else .back { s with world := s.world.senseCable }

/-- The ramp's target for the night is put together by hand. -/
def customNight (s : Intervalometer) : Bool :=
  s.program.ramp && decide (s.program.nightMode = .custom)

/-- The ramp's target for the night is to be confirmed. -/
def asksTarget (s : Intervalometer) : Bool :=
  s.program.ramp && decide (s.program.nightMode ≠ .auto) &&
    decide (s.program.brampMethod = .auto)

/-- What the precheck does once when no alert is waiting. -/
def load (s : Intervalometer) : Intervalometer :=
  { s with
    switchBack := s.program.brampMethod
    hasND := if s.customNight then decide (0 < s.program.nightND) else s.hasND
    showND := if s.customNight then false else s.showND
    preChecked := if s.asksTarget then 2 else 3 }

/-- A run that is to start is in its precheck. -/
def toStart (s : Intervalometer) : Bool :=
  s.running && (!s.enter || decide (0 < s.preChecked))

/-- The initialization before the alerts. -/
def prepare (s : Intervalometer) : Intervalometer :=
  { s with
    enter := true
    paused := false
    pausing := 0
    program := { s.program with
      photos :=
        if s.program.ramp then u16 (s.program.duration * 600 / s.program.gap)
        else s.program.photos }
    interval := s.program.gap
    usingUSB := s.world.link.ready
    world := { s.world with
      usbPrimary := decide (s.world.conf.camera.interface = .auto) && s.world.link.ready &&
        s.world.link.supportsBulb }
    preChecked := if s.preChecked = 0 then 1 else s.preChecked }

/-- The initialization, up to where the camera is read. -/
def startup (f : Found) (s : Intervalometer) : Flow Intervalometer :=
  if s.toStart then
    let t := s.prepare
    if f.alert then .back t
    else if t.preChecked = 1 then t.load.rest .loading (if t.world.link.ready then 500 else 0)
    else .on t
  else .on s

/-- The initialization after the precheck. -/
def reset (s : Intervalometer) : Intervalometer :=
  { s with
    preChecked := 0
    world := s.world.tare.resetClock.shutterClose
    runState := .delay
    photos := 0
    exps := 0
    infinitePhotos :=
      if s.program.ramp then s.program.external else decide (s.program.photos = 0)
    photosRemaining := s.program.photos
    photosTaken := 0
    lastPhotoEndMs := 0
    lastPhotoMs := 0
    taken := 0
    sets := 0
    started := true
    finished := false }

/-- The run starts, when the precheck is over. -/
def launch (s : Intervalometer) : Flow Intervalometer :=
  if s.toStart then if s.preChecked < 3 then .back s else .on s.reset
  else .on s

/-- A run that is resumed waits for the camera to come to rest. -/
def resume (s : Intervalometer) : Flow Intervalometer :=
  if decide (0 < s.pausing) && s.paused then
    if 8 < s.pausing then
      if s.showND then .on { s with hasND := false, showND := false }
      else .on { s with paused := false, pausing := 0 }
    else .on { s with pausing := s.pausing + 1 }
  else .on s

/-- A paused run goes no further. -/
def whilePaused (f : Found) (s : Intervalometer) : Flow Intervalometer :=
  if s.paused then .back s
  else if s.hasND && f.ndDue then .on { s with showND := true }
  else .on s

/-- A pause asked for starts between exposures. -/
def startPause (s : Intervalometer) : Flow Intervalometer :=
  if decide (0 < s.pausing) && decide (s.runState ≠ .bulb) then
    .on { s with pausing := 0, paused := true }
  else .on s

/-- A run that has been stopped is to end. -/
def cancel (s : Intervalometer) : Flow Intervalometer :=
  if s.running then .on s else .on { s with runState := .ended }

/-- `RUN_DELAY`. -/
def delay (s : Intervalometer) : Flow Intervalometer :=
  if s.runState = .delay then
    let t := { s with oldState := some .delay }
    let seconds := t.world.clock.eventMs / 1000
    if t.program.delay < seconds then
      .on { t with world := t.world.tare.resetClock, lastPhotoMs := 0, runState := .photo }
    else if t.program.delay ≤ seconds + mirrorUpTime then
      { t with world := t.world.shutterHalf }.rest .waking 100
    else if t.program.external then .on { t with runState := .externalTrigger }
    else .on t
  else .on s

/-- The end of `RUN_DELAY`, when the camera has been woken up. -/
def delayAwake (s : Intervalometer) : Flow Intervalometer :=
  .on { s with
    world := if s.world.usbPrimary then s.world.shutterOff else s.world
    runState := if s.program.external then .externalTrigger else s.runState }

/-- What a caller of `shutter_capture` does when it is back. -/
def captured (c : Shot) (s : Intervalometer) : Flow Intervalometer :=
  match c with
  | .photo =>
      let t := { s with taken := if s.refused then s.taken else s.taken + 1, runState := .next }
      if decide (t.interval ≤ mirrorUpTime) && !t.world.link.ready then
        .on { t with world := t.world.shutterHalf }
      else .on t
  | .manual => s.rest .manual 10
  | .basic => .on s

/-- The end of `shutter_capture`: `shutter_bulbEndFinish`. -/
def captureEnd (c : Shot) (s : Intervalometer) : Flow Intervalometer :=
  if s.disabled && s.sony then { s with world := s.world.shutterOffQuick }.rest (.captureFinish c) 500
  else s.captured c

/-- `shutter_capture`, when the delays for a Sony camera are over. -/
def captureCore (c : Shot) (f : Found) (s : Intervalometer) : Flow Intervalometer :=
  let r := s.world.capture f.io
  let t := { s with world := r.1, refused := r.1.lastShutterError }
  if r.2 then t.rest (.shutterNow c) t.world.irTicks else t.captureEnd c

/-- `shutter_capture`. -/
def capture (c : Shot) (f : Found) (s : Intervalometer) : Flow Intervalometer :=
  if s.world.link.ready && s.sony then
    { s with world := s.world.shutterOffQuick }.disable.rest (.captureOff c) 1000
  else s.captureCore c f

/-- The button is half pressed for a camera that was disconnected. -/
def captureHalf (c : Shot) (s : Intervalometer) : Flow Intervalometer :=
  { s with world := s.world.shutterHalf }.rest (.captureHalf c) 1500

/-- The next picture may be taken. -/
def photoDue (s : Intervalometer) : Bool :=
  decide (u16 (s.exps + s.photos) = 0) ||
    decide (s.world.conf.camera.cameraFPS ≤
      u8 (sub32 s.world.clock.totalMs s.lastPhotoEndMs / 10))

/-- `RUN_PHOTO`. -/
def photo (f : Found) (s : Intervalometer) : Flow Intervalometer :=
  if decide (s.runState = .photo) && s.photoDue then
    let t := { s with lastPhotoEndMs := 0, oldState := some .photo }
    if decide (0 < t.program.exp) || t.program.ramp || t.program.arbitraryBulb then
      .on { t with world := t.world.tare, runState := .bulb }
    else { t with exps := u8 (t.exps + 1) }.capture .photo f
  else .on s

/-- The kind of an exposure. -/
def shutterMode (p : Program) (found : ShutterType) : ShutterType :=
  if p.ramp then ⟨true, false⟩
  else if p.hdr then
    if found.ptp then found
    else if found.bulb then ⟨true, false⟩ else ⟨false, true⟩
  else if p.arbitraryBulb then ⟨true, false⟩
  else found

/-- The clock is told to start the bulb. -/
def bulbStart (s : Intervalometer) : Flow Intervalometer :=
  { s with world := s.world.bulb s.bulbLength }.rest .starting 10

/-- A bulb is asked for, after the delays of `shutter_bulbStartPrepare`. -/
def bulbPrepare (s : Intervalometer) : Flow Intervalometer :=
  let t := { s with world := s.world.flagOpen }
  if t.world.link.ready && t.sony then
    { t with world := t.world.shutterOffQuick }.disable.rest .prepareOff 1000
  else t.bulbStart

/-- The button is half pressed for a camera that was disconnected. -/
def prepareHalf (s : Intervalometer) : Flow Intervalometer :=
  { s with world := s.world.shutterHalf }.rest .prepareHalf 1000

/-- An exposure starts. -/
def expose (f : Found) (s : Intervalometer) : Flow Intervalometer :=
  if s.program.ramp && f.manual && s.world.link.ready then s.capture .manual f
  else if (shutterMode s.program f.shutterType).bulb then s.bulbPrepare
  else s.capture .basic f

/-- The camera is set before an exposure. -/
def expSetup (f : Found) (s : Intervalometer) : Intervalometer :=
  if s.program.ramp then
    { s with
      world := s.world.shutterOff.shutterOffQuick
      interval := f.interval
      program := { s.program with
        brampMethod :=
          if decide (s.program.brampMethod = .auto) && f.nightReached then .guided
          else s.program.brampMethod } }
  else if s.program.hdr || (shutterMode s.program f.shutterType).ptp then
    { s with world := s.world.shutterOffQuick }
  else s

/-- A bulb has ended. -/
def bulbOver (s : Intervalometer) : Flow Intervalometer :=
  let t := { s with
    exps := u8 (s.exps + 1)
    taken := if s.refused then s.taken else s.taken + 1 }
  if t.disabled && t.sony then { t with world := t.world.shutterOffQuick }.rest .finishing 500
  else t.rest .settling 50

/-- `RUN_BULB`. -/
def bulb (f : Found) (s : Intervalometer) : Flow Intervalometer :=
  if s.runState = .bulb then
    if s.oldState ≠ some .bulb then
      let t := { s with oldState := some .bulb, bulbLength := f.bulbLength }.expSetup f
      if t.program.ramp && f.setError then .back { t with runState := .error }
      else t.expose f
    else if s.world.clock.bulbRunning then .on s
    else s.bulbOver
  else .on s

/-- What `RUN_BULB` does when an exposure has been started. -/
def bulbStarted (f : Found) (s : Intervalometer) : Flow Intervalometer :=
  if s.world.lastShutterError then
    let t := { s with world := s.world.cancelBulb, oldState := some .delay }
    .back (if f.ptpError then { t with runState := .error } else t)
  else .on { s with refused := false }

/-- The end of `RUN_BULB`. -/
def bulbSettled (s : Intervalometer) : Flow Intervalometer :=
  let t := { s with runState := .next }
  if decide (t.interval ≤ mirrorUpTime) && !t.world.link.ready then
    .back { t with world := t.world.shutterHalf }
  else .back t

/-- The photos of a run are all taken. -/
def complete (s : Intervalometer) : Bool :=
  if s.program.ramp then decide (s.program.duration * 60 ≤ s.world.clock.seconds)
  else decide (s.program.photos ≤ s.photos) || !s.program.timelapse && decide (1 ≤ s.photos)

/-- The photo in hand is done. -/
def photoDone (s : Intervalometer) : Bool :=
  !s.program.hdr || decide (s.program.exps ≤ s.exps)

/-- The photo in hand is counted. -/
def countPhoto (s : Intervalometer) : Intervalometer :=
  { s with
    exps := 0
    photos := u16 (s.photos + 1)
    world := s.world.tare
    runState := .gap
    sets := if s.program.size ≤ s.taken then s.sets + 1 else s.sets
    taken := 0 }

/-- The next exposure of the photo in hand is taken. -/
def nextExposure (s : Intervalometer) : Intervalometer :=
  { s with world := s.world.tare, runState := .photo }

/-- On to the next photo, or to the next of its exposures. -/
def proceed (s : Intervalometer) : Intervalometer :=
  if s.photoDone then s.countPhoto
  else if s.world.link.busy then s
  else s.nextExposure

/-- The run ends when its photos are all taken; a ramp without an end is given a
    longer one. -/
def conclude (s : Intervalometer) : Intervalometer :=
  if s.infinitePhotos then
    if s.program.ramp then
      { s with program := { s.program with duration := u16 (s.world.clock.seconds / 60 + 20) } }
    else s
  else if s.complete then { s with runState := .ended }
  else s

/-- The status shows the photos taken. -/
def report (s : Intervalometer) : Intervalometer :=
  { s with
    photosRemaining := sub16 s.program.photos s.photos
    photosTaken := s.photos }

/-- `RUN_NEXT`. -/
def next (f : Found) (s : Intervalometer) : Flow Intervalometer :=
  if s.runState = .next then
    let t :=
      if s.oldState = some .next then s
      else { s with oldState := some .next, lastPhotoEndMs := s.world.clock.totalMs }
    if t.usingUSB && t.disabled then .back t
    else if f.ptpConnected && f.ptpError || t.usingUSB && !t.world.link.ready then
      .back { t with runState := .error }
    else .on t.proceed.conclude.report
  else .on s

/-- The next picture is due. -/
def gapOver (s : Intervalometer) : Bool :=
  decide (s.interval ≤ sub32 s.world.clock.totalMs s.lastPhotoMs / 100)

/-- The next picture is waited for. -/
def gapWait (s : Intervalometer) : Intervalometer :=
  if s.gapOver then
    { s with
      lastPhotoMs := s.world.clock.totalMs
      world := s.world.tare
      runState := .photo }
  else if decide (s.interval ≤
      sub32 s.world.clock.totalMs s.lastPhotoMs / 100 + mirrorUpTime * 10) &&
      !s.world.link.ready then
    { s with world := s.world.shutterHalf }
  else s

/-- The end of `RUN_GAP`, when the focus is settled. -/
def gapSettled (f : Found) (s : Intervalometer) : Flow Intervalometer :=
  if s.runState = .gap then
    if f.motorsRunning then .on s
    else if s.program.external then .on { s.gapWait with runState := .externalTrigger }
    else .on s.gapWait
  else .on s

/-- `RUN_GAP`, up to the focus. -/
def gap (f : Found) (s : Intervalometer) : Flow Intervalometer :=
  if s.runState = .gap then
    let t :=
      if s.oldState = some .gap then s
      else
        { s with
          oldState := some .gap
          world :=
            if decide (s.world.conf.auxPort = .dolly) ||
                decide (s.world.conf.cameraPort = .dolly) then
              s.world.auxPulse
            else s.world }
    match f.focus with
    | .settled => .on t
    | .waits => .back t
    | .moves => t.rest .focusing 200
  else .on s

/-- The external intervalometer has been silent for ten times the interval. -/
def silent (s : Intervalometer) : Bool :=
  decide (2 < s.photos) &&
    decide (s.interval ≤ sub32 s.world.clock.totalMs s.lastPhotoMs / 1000)

/-- `RUN_EXTERNAL_TRIGGER`. -/
def externalTrigger (f : Found) (s : Intervalometer) : Flow Intervalometer :=
  if s.runState = .externalTrigger then
    if f.trigger then .on { s with runState := .externalTriggerRelease }
    else if s.silent then .on { s with runState := .ended }
    else .on s
  else .on s

/-- `RUN_EXTERNAL_TRIGGER_RELEASE`. -/
def externalTriggerRelease (f : Found) (s : Intervalometer) : Flow Intervalometer :=
  if s.runState = .externalTriggerRelease then
    if f.triggerHeld then
      if s.silent then .on { s with runState := .ended } else .on s
    else
      .on { s with
        interval :=
          if 1 < s.photos then u16 (sub32 s.world.clock.totalMs s.lastPhotoMs / 100)
          else s.interval
        lastPhotoMs := s.world.clock.totalMs
        world := s.world.tare
        runState := .photo }
  else .on s

/-- The end of `RUN_ERROR`. -/
def errorCounted (s : Intervalometer) : Flow Intervalometer :=
  if s.world.link.ready then .back { s with errorRetryCount := 0, runState := .next }
  else .back { s with errorRetryCount := s.errorRetryCount + 1 }

/-- `RUN_ERROR`. -/
def error (f : Found) (s : Intervalometer) : Flow Intervalometer :=
  if s.runState = .error then
    if s.oldState ≠ some .error ∨ 40 < s.errorRetryCount then
      { s with
        errorRetryCount := 0
        oldState := some .error
        world := (s.world.shutterOff.usbBulbEnd f.io).shutterHalf }.rest .nudging 100
    else s.errorCounted
  else .on s

/-- `camera.resetConnection`, up to its delay. -/
def errorReset (s : Intervalometer) : Flow Intervalometer :=
  { s with world := s.world.shutterOff }.disable.rest .disabling 600

/-- `camera.enable`, up to its delay. -/
def errorEnable (s : Intervalometer) : Flow Intervalometer :=
  { s with world := s.world.shutterOffQuick }.rest .enabling 500

/-- `RUN_END`. -/
def finish (f : Found) (s : Intervalometer) : Flow Intervalometer :=
  if s.runState = .ended then
    .back { s with
      oldState := some .ended
      program := { s.program with brampMethod := s.switchBack }
      pausing := 0
      paused := false
      enter := false
      finished := s.finished || s.running
      running := false
      world := { (s.world.shutterOff.usbBulbEnd f.io).aux1Off.aux2Off with usbPrimary := false }
      preChecked := 0 }
  else .on s

/-- The blocks from `RUN_NEXT` on. -/
def fromNext (f : Found) : List (Intervalometer → Flow Intervalometer) :=
  [next f, gap f, gapSettled f, externalTrigger f, externalTriggerRelease f, error f, finish f]

/-- The blocks from `RUN_PHOTO` on. -/
def fromPhoto (f : Found) : List (Intervalometer → Flow Intervalometer) :=
  [photo f, bulb f] ++ fromNext f

/-- The blocks from where a run has been checked. -/
def fromResume (f : Found) : List (Intervalometer → Flow Intervalometer) :=
  [resume, whilePaused f, startPause, cancel, delay] ++ fromPhoto f

/-- The blocks of `task`. -/
def stages (f : Found) : List (Intervalometer → Flow Intervalometer) :=
  [arrive, startup f, launch] ++ fromResume f

/-- The blocks after a picture. -/
def afterShot (f : Found) : Shot → List (Intervalometer → Flow Intervalometer)
  | .photo => bulb f :: fromNext f
  | .manual => fromNext f
  | .basic => fromNext f

/-- The camera is connected again. -/
def reconnect (f : Found) (s : Intervalometer) : Flow Intervalometer := .on (s.enable f)

/-- What is done from where a call waits. -/
def after (f : Found) : Place → List (Intervalometer → Flow Intervalometer)
  | .loading => launch :: fromResume f
  | .waking => delayAwake :: fromPhoto f
  | .captureOff c => [captureHalf c]
  | .captureHalf c => captureCore c f :: afterShot f c
  | .shutterNow c => captureEnd c :: afterShot f c
  | .captureFinish c => [reconnect f, captured c] ++ afterShot f c
  | .manual => bulbStarted f :: fromNext f
  | .prepareOff => [prepareHalf]
  | .prepareHalf => [bulbStart]
  | .starting => bulbStarted f :: fromNext f
  | .finishing => [reconnect f, fun s => s.rest .settling 50]
  | .settling => [bulbSettled]
  | .focusing => gapSettled f :: [externalTrigger f, externalTriggerRelease f, error f, finish f]
  | .nudging => [errorReset]
  | .disabling => [errorEnable]
  | .enabling => [reconnect f, errorCounted]

/-- A call of `task`, up to where it waits. -/
def task (s : Intervalometer) (f : Found) : Intervalometer := chain (stages f) s

/-- A call of `task`, from where it waits. -/
def goOn (s : Intervalometer) (place : Place) (f : Found) : Intervalometer :=
  chain (after f place) { s with place := none }

/-- `shutter::begin`. -/
def begin (s : Intervalometer) : Intervalometer :=
  { s with paused := false, pausing := 0, running := true }

/-- The run is stopped. -/
def stop (s : Intervalometer) : Intervalometer := { s with running := false }

/-- `shutter::pause`. -/
def pause (s : Intervalometer) (p : Bool) : Intervalometer :=
  if p then
    if s.paused then s else { s with pausing := 1 }
  else if 1 < s.pausing then s
  else { s with pausing := 1, paused := true }

/-- The ramp's target is shown, and confirmed. -/
def confirm (s : Intervalometer) : Intervalometer :=
  if s.preChecked = 0 then s else { s with preChecked := 3 }

/-- The main loop is at work: no call of `task` waits, and no infrared code is
    being sent. -/
def atRest (s : Intervalometer) : Bool := s.place.isNone && s.world.frames.isEmpty

end Intervalometer

/-- What happens next. -/
inductive Order
  | tick (io : Io)
  | resume
  | pins (cablePin syncPin : Bool)
  | connect (link : Link) (disabled : Bool)
  | task (f : Found)
  | goOn (f : Found)
  | begin
  | stop
  | pause (p : Bool)
  | confirm
  | switchTo (method : BrampMethod)

namespace Intervalometer

/-- One step. What other parts of the firmware do to the connection never says
    that a bulb is open. -/
def step (s : Intervalometer) : Order → Option Intervalometer
  | .tick io => some { s with world := s.world.count io, left := s.left - 1 }
  | .resume => (s.world.step .resume).map fun w => { s with world := w }
  | .pins cablePin syncPin =>
      some { s with world := { s.world with cablePin := cablePin, syncPin := syncPin } }
  | .connect link disabled =>
      some { s with
        world := { s.world with
          link := { link with bulbOpen := link.bulbOpen && s.world.link.bulbOpen } }
        disabled := disabled }
  | .task f => if s.atRest then some (s.task f) else none
  | .goOn f =>
      match s.place with
      | none => none
      | some p =>
          if s.left = 0 ∧ s.world.frames = [] then some (s.goOn p f) else none
  | .begin => if s.atRest then some s.begin else none
  | .stop => if s.atRest then some s.stop else none
  | .pause p => if s.atRest then some (s.pause p) else none
  | .confirm => if s.atRest then some s.confirm else none
  | .switchTo method =>
      if s.atRest then
        some { s with program := { s.program with
          brampMethod := method
          nightMode := if method = .auto then .auto else s.program.nightMode } }
      else none

/-- An intervalometer between runs. -/
def idle (world : World) (program : Program) : Intervalometer where
  world := world
  program := program
  running := false
  enter := false
  paused := false
  pausing := 0
  hasND := false
  showND := false
  preChecked := 0
  runState := .delay
  oldState := none
  exps := 0
  photos := 0
  infinitePhotos := false
  photosTaken := 0
  photosRemaining := 0
  interval := 0
  bulbLength := 0
  lastPhotoEndMs := 0
  lastPhotoMs := 0
  usingUSB := false
  disabled := false
  switchBack := .keyframe
  errorRetryCount := 0
  place := none
  left := 0
  refused := false
  taken := 0
  sets := 0
  started := false
  finished := false

section Skip

/-! A block that is not for the state of the run goes on to the next. -/

variable {s : Intervalometer} (f : Found)

theorem delay_of_ne (h : s.runState ≠ .delay) : s.delay = .on s := by rw [delay, if_neg h]

theorem photo_of_ne (h : s.runState ≠ .photo) : s.photo f = .on s := by
  rw [photo, decide_eq_false h, Bool.false_and]
  rfl

theorem bulb_of_ne (h : s.runState ≠ .bulb) : s.bulb f = .on s := by rw [bulb, if_neg h]

theorem next_of_ne (h : s.runState ≠ .next) : s.next f = .on s := by rw [next, if_neg h]

theorem gap_of_ne (h : s.runState ≠ .gap) : s.gap f = .on s := by rw [gap, if_neg h]

theorem gapSettled_of_ne (h : s.runState ≠ .gap) : s.gapSettled f = .on s := by
  rw [gapSettled, if_neg h]

theorem externalTrigger_of_ne (h : s.runState ≠ .externalTrigger) :
    s.externalTrigger f = .on s := by
  rw [externalTrigger, if_neg h]

theorem externalTriggerRelease_of_ne (h : s.runState ≠ .externalTriggerRelease) :
    s.externalTriggerRelease f = .on s := by
  rw [externalTriggerRelease, if_neg h]

theorem error_of_ne (h : s.runState ≠ .error) : s.error f = .on s := by rw [error, if_neg h]

theorem finish_of_ne (h : s.runState ≠ .ended) : s.finish f = .on s := by rw [finish, if_neg h]

end Skip

end Intervalometer

end Shutter

end TimelapsePlus
