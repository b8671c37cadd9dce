import TimelapsePlus.Ptp.Eos
import TimelapsePlus.Ptp.Nikon
import TimelapsePlus.Ptp.Sony

/-!
# Sessions with a Camera

The firmware's calls to the camera, one after the other, as a system of labelled
steps. A step makes at most one transaction. A call that makes several, or that
loops, is broken up: between its steps the session's task says where in the
call the firmware stands, and `proceed` goes on from there. No other call can
be made until the task is idle again, which is when the call has returned.

Each step hands over, beside the next session, the transaction it made, with
the driver it was made from. Nothing looks at it; it is there to be reasoned
about.

A label carries what the environment decides: the time, what has arrived on the
event pipe, and with `enable` the USB interface as the hardware brings it up.
What the camera does is in the driver, as the answers to come.

## Main definitions

* `Task`: Where the firmware stands.
* `Session`: The camera as the firmware knows it, the driver, and the task.
* `Request`: A transaction and the driver it was made from.
* `Session.checkEvent`, `Session.nikonEventsStep`, `Session.askProperty`,
  `Session.describe`: `PTP::checkEvent` and `PTP::updatePtpParameters`.
* `Session.sonyReadProperties`, `Session.sonyStep`: `PTP::sonyReadProperties`.
* `Session.eosStep`: The Canon parser.
* `Session.step`: All of it.

## Theorems

* `eosStep_eq`: The parser's steps are those of `Walk.step`.
-/

namespace TimelapsePlus

namespace Ptp

open Word Usb

def sonyEventObjectCreated : Nat := 0xC202
def sonyEventChange : Nat := 0xC203
def eosOcPropertySet : Nat := 0x9110

/-- `BUSY_TIMEOUT_SECONDS`. -/
def busyTimeoutSeconds : Nat := 5

/-- The properties `updatePtpParameters` asks for, in its order. -/
inductive NikonProperty
  | iso
  | aperture
  | shutter
deriving Repr, DecidableEq

def NikonProperty.code : NikonProperty → Nat
  | .iso => nikonDpcIso
  | .aperture => nikonDpcAperture
  | .shutter => nikonDpcShutter

/-- Where the firmware stands: between calls; in `checkEvent` before it asks a
    Nikon for its events, what is on the event pipe in hand; in
    `updatePtpParameters` before it asks for a property, or with its
    description in the buffer; in the Canon parser; or in the Sony one. -/
inductive Task
  | idle
  | events (event : List UInt8)
  | ask (p : NikonProperty)
  | describe (p : NikonProperty)
  | eos (phase : Phase) (ret : Ret)
  | sony (i : Nat) (ret : Ret)
deriving Repr, DecidableEq

/-- The camera, the driver, the task, and the two static variables of
    `checkEvent`. -/
structure Session where
  camera : Camera
  driver : Driver
  task : Task
  count : Nat
  busySeconds : Nat

/-- A transaction, with the driver it was made from. -/
structure Request where
  before : Driver
  opCode : Nat
  receive : Bool
  params : List Nat
  data : List UInt8

def Request.run (q : Request) : Ret × Driver :=
  q.before.transaction q.opCode q.receive q.params q.data

/-- The session after a step, and the transaction it made. -/
structure Outcome where
  session : Session
  request : Option Request

/-- What happens next. -/
inductive Label
  | checkEvent (now : Nat) (event : List UInt8)
  | command (opCode : Nat) (receive : Bool) (params : List Nat) (data : List UInt8)
  | setFocus (value : Nat)
  | readProperties
  | init (protocol : Protocol) (supports : Supports)
  | close
  | enable (usb : Host)
  | proceed

/-- `PTP_GetEvent`: the code of the event that has arrived, or zero. Only the
    header is read, so the event's value is the first parameter of whatever
    container was read last. -/
def Driver.getEvent (d : Driver) (event : List UInt8) : Nat × Driver :=
  if d.usb.configured = false ∨ event = [] then (0, d)
  else
    let d' := { d with block := store d.block 0 (event.take (commandSize 0)) }
    (if event.length < commandSize 0 then 0 else le16 d'.block 6, d')

namespace Session

/-- Make no transaction. -/
def quiet (s : Session) : Outcome := ⟨s, none⟩

/-- Make a transaction, and go on with what it returns. -/
def ask (s : Session) (opCode : Nat) (receive : Bool) (params : List Nat) (data : List UInt8)
    (next : Ret → Session → Session) : Outcome :=
  let q : Request := ⟨s.driver, opCode, receive, params, data⟩
  ⟨next q.run.1 { s with driver := q.run.2 }, some q⟩

/-- The busy flag is dropped after a while. -/
def expireBusy (s : Session) (now : Nat) : Session :=
  if s.camera.busy then
    if s.busySeconds ≠ 0 then
      if busyTimeoutSeconds ≤ sub32 now s.busySeconds then
        { s with busySeconds := 0, camera.busy := false }
      else s
    else { s with busySeconds := now }
  else s

/-- The start of `sonyReadProperties`. -/
def sonyReadProperties (s : Session) : Outcome :=
  { s with camera.needUpdate := false }.ask sonyOcGetConfig true [] [] fun ret s =>
    if ret = Ret.error then s else { s with task := .sony 8 ret }

/-- A turn of the loop of `sonyReadProperties`. -/
def sonyStep (s : Session) (i : Nat) (ret : Ret) : Session :=
  match SonyFrame.turn ⟨i, ret, s.driver⟩ s.camera with
  | .error (_, d) => { s with driver := d, task := .idle }
  | .ok (f, c) => { s with camera := c, driver := f.driver, task := .sony f.i f.ret }

/-- An event of a Sony camera. -/
def sonyEvent (s : Session) (event : List UInt8) : Session :=
  let e := s.driver.getEvent event
  let s := { s with driver := e.2 }
  if e.1 = sonyEventObjectCreated then
    { s with camera.busy := false, camera.currentObject := le32 e.2.block (commandSize 0) }
  else if e.1 = sonyEventChange ∧ s.camera.busy = false then
    { s with camera.needUpdate := true }
  else s

/-- The Sony part of `checkEvent`. -/
def sonyCheck (s : Session) (event : List UInt8) : Outcome :=
  let s := s.sonyEvent event
  if s.camera.needUpdate then s.sonyReadProperties else s.quiet

/-- The start of the Canon part of `checkEvent`. -/
def eosCheck (s : Session) : Outcome :=
  s.ask eosOcEventGet true [] [] fun ret s =>
    if ret = Ret.error then s
    else { s with
      camera.busy := s.camera.busy && decide (s.driver.bytesReceived ≠ 0)
      task := .eos (.events 0) ret }

/-- A turn of the Canon parser. -/
def eosStep (s : Session) (phase : Phase) (ret : Ret) : Session :=
  let t := Frame.turn ⟨phase, ret, s.driver⟩
  match t.next with
  | .error (_, d) => { s with driver := d, task := .idle }
  | .ok f => { s with
      camera := s.camera.apply t.output
      driver := f.driver
      task := .eos f.phase f.ret }

/-- The start of the Nikon part of `checkEvent`: a camera that can tell is asked
    whether it is ready. -/
def nikonCheck (s : Session) (event : List UInt8) : Outcome :=
  if s.camera.supports.cameraReady then
    { s with driver.ignoreErrors := true }.ask nikonOcCameraReady false [] [] fun _ s =>
      if s.driver.responseCode ≠ responseOk then { s with camera.busy := true }
      else { s with camera.busy := false, task := .events event }
  else { s with task := .events event }.quiet

/-- The rest of it, once the events are read: the properties are asked for if
    they may have changed. -/
def nikonUpdate (s : Session) : Session :=
  if s.camera.needUpdate then { s with camera.needUpdate := false, task := .ask .iso }
  else { s with task := .idle }

/-- An event of a Nikon that cannot list them: every now and then, that the
    properties may have changed, and what is on the event pipe. -/
def nikonPoll (s : Session) (event : List UInt8) : Session :=
  let s :=
    if 10 < s.count then { s with camera.needUpdate := true, count := 0 }
    else { s with count := u8 (s.count + 1) }
  let e := s.driver.getEvent event
  let s := { s with driver := e.2 }
  if e.1 = 0 then s
  else { s with
    camera := { s.camera with busy := false }.applyPtpEvent (e.1, le32 e.2.block (commandSize 0)) }

/-- The middle of it: the camera's events. -/
def nikonEventsStep (s : Session) (event : List UInt8) : Outcome :=
  if s.camera.supports.event then
    s.ask nikonOcEventGet true [] [] fun ret s =>
      if ret ≠ .ok then { s with task := .idle }
      else
        let received := s.driver.bytesReceived
        let events := nikonEvents s.driver.buffer received received 2
        { s with camera := events.foldl Camera.applyPtpEvent s.camera }.nikonUpdate
  else (s.nikonPoll event).nikonUpdate.quiet

/-- `updatePtpParameters` asks for the description of a property. -/
def askProperty (s : Session) (p : NikonProperty) : Outcome :=
  s.ask ptpOcPropertyList true [p.code] [] fun ret s =>
    if ret ≠ .ok then { s with task := .idle } else { s with task := .describe p }

/-- `updatePtpParameters` reads it, and goes on to the next one. -/
def describe (s : Session) (p : NikonProperty) : Session :=
  let received := s.driver.bytesReceived
  let buffer := s.driver.buffer
  match p with
  | .iso => { s with camera := s.camera.describeIso received buffer, task := .ask .aperture }
  | .aperture =>
      { s with camera := s.camera.describeAperture received buffer, task := .ask .shutter }
  | .shutter => { s with camera := s.camera.describeShutter received buffer, task := .idle }

/-- `PTP::checkEvent`. -/
def checkEvent (s : Session) (now : Nat) (event : List UInt8) : Outcome :=
  if s.camera.ready = false ∨ s.camera.bulbOpen then s.quiet
  else
    let s := s.expireBusy now
    match s.camera.protocol with
    | .nikon => s.nikonCheck event
    | .sony => s.sonyCheck event
    | .eos => s.eosCheck
    | _ => s.quiet

/-- `PTP::setFocus`, with the data block of `setEosParameter`. -/
def setFocus (s : Session) (value : Nat) : Outcome :=
  if s.camera.ready ∧ s.camera.protocol = .eos then
    { s with driver.ignoreErrors := true }.ask eosOcPropertySet false []
      (encode32 0x0C ++ encode32 eosDpcAfMode ++ encode32 value) fun _ s => s
  else s.quiet

/-- What `PTP::init` makes of the camera before it talks to it. -/
def init (s : Session) (protocol : Protocol) (supports : Supports) : Session :=
  { s with camera := { s.camera with
      protocol := protocol
      supports := supports
      isoAvail.count := 0
      shutterAvail.count := 0
      apertureAvail.count := 0
      isoPTP := 0xFF
      shutterPTP := 0xFF
      aperturePTP := 0xFF
      currentObject := 0
      ready := true
      busy := false
      bulbOpen := false
      modeLiveView := false
      recording := false
      videoMode := true
      needUpdate := true } }

/-- `PTP::close`. -/
def close (s : Session) : Session :=
  { s with camera := { s.camera with
      supports := ⟨false, false, false, false, false⟩
      isoAvail.count := 0
      shutterAvail.count := 0
      apertureAvail.count := 0
      isoPTP := 0xFF
      shutterPTP := 0xFF
      aperturePTP := 0xFF
      ready := false
      busy := false
      bulbOpen := false } }

/-- `PTP_Enable`, with the interface the hardware brings up. -/
def enable (s : Session) (usb : Host) : Session :=
  { s with driver := { s.driver with
      bytesRemaining := 0
      error := 0
      ready := false
      usb := usb } }

/-- One step, if the label can happen where the firmware stands. -/
def step (s : Session) (l : Label) : Option Outcome :=
  match s.task, l with
  | .idle, .checkEvent now event => some (s.checkEvent now event)
  | .idle, .command opCode receive params data =>
      some (s.ask opCode receive params data fun _ s => s)
  | .idle, .setFocus value => some (s.setFocus value)
  | .idle, .readProperties => some s.sonyReadProperties
  | .idle, .init protocol supports => some (s.init protocol supports).quiet
  | .idle, .close => some s.close.quiet
  | .idle, .enable usb => some (s.enable usb).quiet
  | .events event, .proceed => some (s.nikonEventsStep event)
  | .ask p, .proceed => some (s.askProperty p)
  | .describe p, .proceed => some (s.describe p).quiet
  | .eos phase ret, .proceed => some (s.eosStep phase ret).quiet
  | .sony i ret, .proceed => some (s.sonyStep i ret).quiet
  | _, _ => none

/-- The session after a step. -/
def next (s : Session) (l : Label) : Option Session := (s.step l).map Outcome.session

/-- The session the Canon parser's state stands for. -/
def ofWalk (s : Session) (w : Walk) : Session :=
  { s with camera := w.camera, driver := w.frame.driver, task := .eos w.frame.phase w.frame.ret }

/-- The parser's steps are those of its loop. -/
theorem eosStep_eq (s : Session) (w : Walk) :
    (s.ofWalk w).eosStep w.frame.phase w.frame.ret = match w.step with
      | .ok w' => s.ofWalk w'
      | .error (_, w') =>
        { s with camera := w'.camera, driver := w'.frame.driver, task := .idle } := by
  cases hw : w.step with
  | ok w' =>
      rcases step_eq_ok w w' hw with ⟨hnext, hcamera, _⟩
      simp only [eosStep, ofWalk, hnext, hcamera]
  | error r =>
      rcases step_eq_error w r.2 r.1 hw with ⟨hnext, hcamera, _⟩
      simp only [eosStep, ofWalk, hnext, hcamera]

end Session

end Ptp

end TimelapsePlus
