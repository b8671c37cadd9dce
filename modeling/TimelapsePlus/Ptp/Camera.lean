import TimelapsePlus.Ptp.Tables

/-!
# The Camera as the Firmware Knows It

What the firmware remembers of the camera between calls: which protocol it
speaks, its current settings, the tables of settings it offers, and the flags
that say what it is doing. All of it comes from the camera's replies.

A reply is not applied as it is read. It is first read into `Change`s, one for
each event or property, and a change says exactly the words that are used. The
three tables are filled from lists of codes, by loops that are nearly the same:
`fillCompact` is the one that drops the codes the tables do not know by writing
the next value over them, and `fillShutter` the one that writes every value at
its own place.

## Main definitions

* `Protocol`: The protocols the firmware speaks.
* `Supports`: What the camera can do.
* `Camera`: What is known of the camera.
* `Camera.fresh`: A camera that has just been connected.
* `Camera.iso`, `Camera.aperture`: Its settings as values.
* `Change`: What one event of a Canon camera changes.
* `fillCompact`, `fillShutter`: Filling a table from a list of codes.
* `Camera.applyChange`: A change takes effect.
-/

namespace TimelapsePlus

namespace Ptp

open Word

inductive Protocol
  | none
  | eos
  | nikon
  | sony
  | generic
deriving Repr, DecidableEq

/-- `PTP_propertyOffset`, which `init` sets together with the protocol. -/
def Protocol.propertyOffset : Protocol → PropertyOffset
  | .nikon => .nikon
  | .sony => .sony
  | _ => .eos

def eosDpcAperture : Nat := 0xD101
def eosDpcShutter : Nat := 0xD102
def eosDpcIso : Nat := 0xD103
def eosDpcMode : Nat := 0xD105
def eosDpcAfMode : Nat := 0xD108
def eosDpcPhotosRemaining : Nat := 0xD11B
def eosDpcLiveView : Nat := 0xD1B0
def eosDpcVideo : Nat := 0xD1B8
def eosDpcVideoMode : Nat := 0xD1C2

def eosEcObjectCreated : Nat := 0xC181
def eosEcPropertyChange : Nat := 0xC189
def eosEcPropertyValues : Nat := 0xC18A

/-- The parts of `CameraSupports_t` the event code reads and writes. -/
structure Supports where
  iso : Bool
  shutter : Bool
  aperture : Bool
  cameraReady : Bool
  event : Bool
deriving Repr, DecidableEq

/-- What is known of the camera. -/
structure Camera where
  protocol : Protocol
  supports : Supports
  isoAvail : Table isoCountMax
  shutterAvail : Table shutterCountMax
  apertureAvail : Table apertureCountMax
  isoPTP : Nat
  shutterPTP : Nat
  aperturePTP : Nat
  modePTP : Nat
  currentObject : Nat
  photosRemaining : Nat
  ready : Bool
  busy : Bool
  bulbOpen : Bool
  modeLiveView : Bool
  recording : Bool
  videoMode : Bool
  autofocus : Bool
  needUpdate : Bool

/-- A table with nothing listed. -/
def Table.empty (cap : Nat) : Table cap := ⟨fun _ => 0, 0, 0, false⟩

/-- A camera that has just been connected. -/
def Camera.fresh (protocol : Protocol) : Camera where
  protocol := protocol
  supports := ⟨false, false, false, false, false⟩
  isoAvail := .empty isoCountMax
  shutterAvail := .empty shutterCountMax
  apertureAvail := .empty apertureCountMax
  isoPTP := 0
  shutterPTP := 0
  aperturePTP := 0
  modePTP := 0
  currentObject := 0
  photosRemaining := 0
  ready := true
  busy := false
  bulbOpen := false
  modeLiveView := false
  recording := false
  videoMode := false
  autofocus := false
  needUpdate := true

/-- What one event of a Canon camera changes: the words of the event its type
    has a use for. -/
inductive Change
  | property (item value : Nat)
  | values (item : Nat) (codes : List Nat)
  | object (handle : Nat)
  | other (type : Nat)
deriving Repr, DecidableEq

/-- One round of the loops that write each value where the last known one was
    followed by `ti`: a value the code tables do not know is left to be
    overwritten. -/
def fillCompactStep {cap : Nat} (ev : Nat → Nat) (s : Table cap × Nat) (code : Nat) :
    Table cap × Nat :=
  let t := s.1.write s.2 (ev code)
  (t, if 0 < t.item s.2 then u8 (s.2 + 1) else s.2)

/-- The ISO and aperture loops. -/
def fillCompact {cap : Nat} (ev : Nat → Nat) (t : Table cap) (codes : List Nat) : Table cap :=
  let s := codes.foldl (fillCompactStep ev) (t, 0)
  { s.1 with count := s.2 }

/-- One round of the shutter loop, which writes at the position `x` of the value
    in the list and looks at position `ti`. -/
def fillShutterStep {cap : Nat} (ev : Nat → Nat) (s : Table cap × Nat × Nat) (code : Nat) :
    Table cap × Nat × Nat :=
  let t := s.1.write s.2.1 (ev code)
  (t, s.2.1 + 1, if 0 < t.item s.2.2 then u8 (s.2.2 + 1) else s.2.2)

/-- The shutter loop. -/
def fillShutter {cap : Nat} (ev : Nat → Nat) (t : Table cap) (codes : List Nat) : Table cap :=
  let s := codes.foldl (fillShutterStep ev) (t, 0, 0)
  { s.1 with count := s.2.2 }

namespace Camera

/-- `PTP::iso`, the value of the ISO the camera is set to. -/
def iso (c : Camera) : Nat :=
  if 0 < c.isoAvail.count then isoEv c.protocol.propertyOffset c.isoPTP else 0

/-- `PTP::aperture`, the value of its aperture. -/
def aperture (c : Camera) : Nat :=
  if 0 < c.apertureAvail.count then apertureEv c.protocol.propertyOffset c.aperturePTP else 0

/-- The effect of `EOS_EC_PROPERTY_CHANGE`. -/
def applyProperty (c : Camera) (item value : Nat) : Camera :=
  if item = eosDpcIso then { c with isoPTP := value }
  else if item = eosDpcShutter then { c with shutterPTP := value }
  else if item = eosDpcAperture then { c with aperturePTP := value }
  else if item = eosDpcMode then { c with modePTP := value }
  else if item = eosDpcLiveView then { c with modeLiveView := decide (value ≠ 0) }
  else if item = eosDpcVideo then { c with recording := decide (value = 4) }
  else if item = eosDpcPhotosRemaining then { c with photosRemaining := u16 value }
  else if item = eosDpcAfMode then { c with autofocus := decide (value ≠ 3) }
  else if item = eosDpcVideoMode then { c with videoMode := decide (value = 1) }
  else c

/-- The effect of `EOS_EC_PROPERTY_VALUES`. -/
def applyValues (c : Camera) (item : Nat) (codes : List Nat) : Camera :=
  if item = eosDpcIso then
    let t := fillCompact (isoEv c.protocol.propertyOffset) c.isoAvail codes
    { c with isoAvail := t, supports.iso := decide (0 < t.count) }
  else if item = eosDpcShutter then
    let t := fillShutter (shutterEv c.protocol.propertyOffset) c.shutterAvail codes
    { c with shutterAvail := t, supports.shutter := decide (0 < t.count) }
  else if item = eosDpcAperture then
    let t := fillCompact (apertureEv c.protocol.propertyOffset) c.apertureAvail codes
    { c with apertureAvail := t, supports.aperture := decide (0 < t.count) }
  else c

/-- A change takes effect. -/
def applyChange (c : Camera) : Change → Camera
  | .property item value => c.applyProperty item value
  | .values item codes => c.applyValues item codes
  | .object handle => { c with busy := false, currentObject := handle }
  | .other _ => c

end Camera

end Ptp

end TimelapsePlus
