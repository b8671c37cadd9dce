import TimelapsePlus.Ptp.Setters

/-!
# Bulb Mode and Manual Mode

The camera object with all its calls: the session, what `init` has kept of the
list of operations, the setters, the captures, and the two calls that change the
mode. `bulbMode` remembers the shutter speed it takes the camera from, and
`manualMode` goes back to it, or to 1/400 where none is remembered. Some Canon
cameras have bulb among their shutter speeds and are set like the others; the
rest change their mode, and remember nothing.

The variables belong to the object and not to the camera. `close` and `init`
reset them one by one when a camera goes and the next one comes, which is how
the object gets from one camera to another.

A call that changes the mode of a Sony camera goes on in several steps, as the
setters do. One that ends by looking at the camera's last response takes a step
for that.

## Main definitions

* `Camera.inBulbMode`: `PTP::isInBulbMode`.
* `Device`: The object.
* `greetings`, `greet`: The transactions by which `init` connects.
* `Device.connect`: `PTP::close`, and `PTP::init` with the next camera.
* `Device.bulbMode`, `Device.manualMode`: The functions.
* `Device.next`: All of it.
* `Device.powerUp`: The object with no camera so far.
-/

namespace TimelapsePlus

namespace Ptp

open Word Usb

def eosOcPcConnect : Nat := 0x9114
def eosOcExtendedEventInfoSet : Nat := 0x9115
def sonyOcConnect : Nat := 0x9201
def sonyOcReceiveEvents : Nat := 0x9202

/-- `PTP::isInBulbMode`. -/
def Camera.inBulbMode (c : Camera) : Bool :=
  decide (c.modePTP = 0x04 ∨ c.shutter = bulbEvCode)

/-- The camera object: the session with the camera, the flags, the call that is
    under way and the setter within it, whether a change of mode is to look at the
    response, what the last of the setters and the changes of mode has returned, the
    user's leave to change the mode, and the shutter speed to go back to. -/
structure Device where
  session : Session
  flags : Flags
  call : Call
  set : SetCall
  changing : Bool
  returned : Ret
  modeSwitch : Bool
  preBulbShutter : Nat

/-- What happens next: a step of the session, or a call is made or goes on. -/
inductive DeviceMove
  | session (l : Label)
  | set (p : Setting) (ev : Nat)
  | bulbMode
  | manualMode
  | capture
  | bulbStart
  | bulbEnd
  | moveFocus (move : Int) (steps : Nat)
  | goOn

/-- The transactions by which `init` connects: the operation, whether data are to
    come, and the parameters. -/
def greetings : Protocol → List (Nat × Bool × List Nat)
  | .eos => [(eosOcPcConnect, false, [1]), (eosOcExtendedEventInfoSet, false, [1])]
  | .sony =>
      [(sonyOcConnect, true, [1, 0, 0]), (sonyOcConnect, true, [2, 0, 0]),
        (sonyOcReceiveEvents, true, [0xC8]), (sonyOcConnect, true, [3, 0, 0])]
  | _ => []

/-- They are made one after the other, until one fails. -/
def greet (d : Driver) : List (Nat × Bool × List Nat) → Bool × Driver
  | [] => (true, d)
  | (opCode, receive, params) :: rest =>
      let r := d.transaction opCode receive params []
      if r.1 ≠ .ok then (false, r.2) else greet r.2 rest

namespace Device

/-- The object as the setters know it. -/
def setters (d : Device) : Setters where
  session := d.session
  call := d.set
  returned := d.returned
  reported _ := none
  accepted _ := none

def ofSetters (d : Device) (c : Setters) : Device :=
  { d with session := c.session, set := c.call, returned := c.returned }

/-- The object as the captures know it. -/
def control (d : Device) : Control := ⟨d.session, d.flags, d.call⟩

def ofControl (d : Device) (c : Control) : Device :=
  { d with session := c.session, flags := c.flags, call := c.call }

/-- `close`, and `init` for the next camera: the driver as the camera answers it,
    its protocol, what the user allows, and its list of operations. The
    `checkEvent` that `init` ends with is the session's first step. -/
def connect (d : Device) (driver : Driver) (protocol : Protocol) (nikonUSB modeSwitch : Bool)
    (ops : List Nat) : Device :=
  let f := initFlags protocol nikonUSB d.flags.nikonCapture ops
  let s := d.session.close.init protocol f.supports
  let g := greet driver (greetings protocol)
  { d with
    session := { s with
      driver := g.2
      task := .idle
      -- What follows the transactions is left out when one of them fails.
      camera.ready := g.1
      camera.modeLiveView := !g.1 && d.session.camera.modeLiveView
      camera.recording := !g.1 && d.session.camera.recording }
    flags := f
    call := .idle
    set := .idle
    changing := false
    returned := if g.1 then .ok else .error
    modeSwitch := modeSwitch }

/-- `PTP::setShutter`. -/
def setShutter (d : Device) (ev : Nat) : Device := d.ofSetters (d.setters.setShutter ev)

/-- `PTP::setEosParameter` with `EOS_DPC_MODE`. -/
def setEosMode (d : Device) (value : Nat) : Device :=
  let r := d.session.driver.transaction eosOcPropertySet false []
    (encode32 0x0C ++ encode32 eosDpcMode ++ encode32 value)
  { d with session.driver := r.2, returned := r.1 }

/-- `PTP::setPtpParameter` with the property and the value that stand for bulb. -/
def setPtpBulb (d : Device) : Device :=
  let r := d.session.driver.transaction ptpOcPropertySet true [0xD100] (encode32 0xFFFFFFFF)
  { d with session.camera.needUpdate := true, session.driver := r.2, returned := r.1 }

/-- The call is to end by looking at the response. -/
def check (d : Device) : Device := { d with changing := true }

/-- `PTP::bulbMode`. -/
def bulbMode (d : Device) : Device :=
  let camera := d.session.camera
  if d.modeSwitch = false then { d with returned := .ok }
  else if camera.inBulbMode then { d with returned := .ok }
  else match camera.protocol with
    | .eos =>
        if bulbEvCode ∈ camera.shutterAvail.listed then
          ({ d with preBulbShutter := camera.shutter }.setShutter bulbEvCode).check
        else { d with preBulbShutter := 0 }.setEosMode 0x04
    | .nikon => { d with preBulbShutter := camera.shutter }.setPtpBulb.check
    | .sony => ({ d with preBulbShutter := camera.shutter }.setShutter bulbEvCode).check
    | _ => d.check

/-- The shutter speed a Nikon or a Sony camera is set to when it leaves bulb. -/
def restored (d : Device) : Nat :=
  if d.preBulbShutter ≠ 0 then d.preBulbShutter else 69

/-- `PTP::manualMode`. -/
def manualMode (d : Device) : Device :=
  let camera := d.session.camera
  if d.modeSwitch = false then { d with returned := .ok }
  else if camera.inBulbMode = false then { d with returned := .ok }
  else match camera.protocol with
    | .eos =>
        if d.preBulbShutter ≠ 0 then
          ({ d with preBulbShutter := 0 }.setShutter d.preBulbShutter).check
        else if camera.shutter = bulbEvCode then d.setShutter 69
        else d.setEosMode 0x03
    | .nikon => ({ d with preBulbShutter := 0 }.setShutter d.restored).check
    | .sony => ({ d with preBulbShutter := 0 }.setShutter d.restored).check
    | _ => d.check

/-- A call can be made. -/
def Free (d : Device) : Prop :=
  d.session.task = .idle ∧ d.call = .idle ∧ d.set = .idle ∧ d.changing = false

instance (d : Device) : Decidable d.Free := inferInstanceAs (Decidable (_ ∧ _))

/-- Whether the session can take a step of its own where the calls stand. -/
def yields (d : Device) (l : Label) : Bool :=
  Setters.yields d.set l && d.call.yields && Control.stays l &&
    !(d.changing && decide (d.set = .idle))

/-- A call goes on: the setter first, then the look at the response, and then the
    call the mode was changed for. -/
def goOn (d : Device) : Option Device :=
  if d.set ≠ .idle then d.setters.goOn.map d.ofSetters
  else if d.changing then some { d with
    changing := false
    returned := if d.session.driver.responseCode ≠ responseOk then .error else .ok }
  else d.control.goOn.map fun deed => d.ofControl deed.control

/-- One of the captures is called, and changes the mode before it does the rest. -/
def start (d : Device) (m : Move) (mode : Device → Device) : Option Device :=
  if d.Free then (d.control.next m).map fun c => mode (d.ofControl c) else none

/-- One step, if it can be taken. -/
def next (d : Device) : DeviceMove → Option Device
  | .session l =>
      if d.yields l then (d.session.step l).map fun o => { d with session := o.session }
      else none
  | .set p ev => if d.Free then some (d.ofSetters (d.setters.set p ev)) else none
  | .bulbMode => if d.Free then some d.bulbMode else none
  | .manualMode => if d.Free then some d.manualMode else none
  | .capture => d.start .capture manualMode
  | .bulbStart => d.start .bulbStart bulbMode
  | .bulbEnd => d.start .bulbEnd id
  | .moveFocus move steps => d.start (.moveFocus move steps) id
  | .goOn => if d.session.task = .idle then d.goOn else none

/-- The object when the firmware starts: its variables are zero. -/
def powerUp : Device where
  session :=
    { camera := { Camera.fresh .none with ready := false }
      driver := { Driver.idle [] with ready := false }
      task := .idle
      count := 0
      busySeconds := 0 }
  flags := Flags.start 0
  call := .idle
  set := .idle
  changing := false
  returned := .ok
  modeSwitch := false
  preBulbShutter := 0

end Device

end Ptp

end TimelapsePlus
