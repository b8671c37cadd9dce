import TimelapsePlus.Ptp.Tables

/-!
# Settings

The settings the intervalometer reads: how the camera is connected, how its
shutter is held open, what the auxiliary ports are for, and the limits of the
exposure ramp. A setting chosen from a menu is one of the choices the menu
offers; a setting that is a number is any number its field can hold.

## Main definitions

* `AuxMode`, `CameraPort`, `BulbMode`, `Interface`, `BrampMode`, `CameraMake`:
  The choices of the menus.
* `Settings`: The settings read.
* `Settings.factory`: The settings after a reset.
* `Settings.motionSync`: Whether the camera port drives a dolly.
-/

namespace TimelapsePlus

namespace Shutter

/-- `conf.auxPort`. -/
inductive AuxMode
  | disabled
  | dolly
  | ir
  | sync
deriving Repr, DecidableEq

/-- `conf.cameraPort`. -/
inductive CameraPort
  | default
  | dolly
deriving Repr, DecidableEq

/-- `conf.camera.bulbMode`: the shutter is held down, or pressed once to open and
    once more to close. -/
inductive BulbMode
  | hold
  | toggle
deriving Repr, DecidableEq

/-- `conf.camera.interface`. -/
inductive Interface
  | auto
  | usbCable
  | usb
  | ir
  | cable
deriving Repr, DecidableEq

/-- `interface & INTERFACE_CABLE`. -/
def Interface.hasCable : Interface → Bool
  | .auto | .usbCable | .cable => true
  | .usb | .ir => false

/-- `interface & INTERFACE_IR`. -/
def Interface.hasIr : Interface → Bool
  | .auto | .ir => true
  | .usbCable | .usb | .cable => false

/-- `interface & INTERFACE_USB`. -/
def Interface.hasUsb : Interface → Bool
  | .auto | .usbCable | .usb => true
  | .ir | .cable => false

/-- `conf.brampMode`: what the ramp may change besides the bulb length. -/
inductive BrampMode
  | all
  | bulbIso
  | bulb
deriving Repr, DecidableEq

/-- `brampMode & BRAMP_MODE_ISO`. -/
def BrampMode.iso : BrampMode → Bool
  | .all | .bulbIso => true
  | .bulb => false

/-- `brampMode & BRAMP_MODE_APERTURE`. -/
def BrampMode.aperture : BrampMode → Bool
  | .all => true
  | .bulbIso | .bulb => false

/-- `conf.camera.cameraMake`. -/
inductive CameraMake
  | canon
  | nikon
  | sony
  | minolta
  | olympus
  | pentax
  | panasonic
  | other
deriving Repr, DecidableEq

/-- The parts of `camera_settings_t` that are read. -/
structure CameraSettings where
  cameraFPS : Nat
  bulbMode : BulbMode
  cameraMake : CameraMake
  halfPress : Bool
  bulbOffset : Nat
  negBulbOffset : Bool
  interface : Interface
  bulbMin : Nat
  bulbEndOffset : Nat
deriving Repr, DecidableEq

/-- The parts of `settings_t` that are read. -/
structure Settings where
  auxPort : AuxMode
  cameraPort : CameraPort
  brampMode : BrampMode
  dollyPulse : Nat
  dollyPulse2 : Nat
  isoMax : Nat
  apertureMax : Nat
  apertureMin : Nat
  extendedRamp : Bool
  pcSyncRequired : Bool
  camera : CameraSettings
deriving Repr, DecidableEq

/-- The values `settings_default` stores. -/
def Settings.factory : Settings where
  auxPort := .disabled
  cameraPort := .default
  brampMode := .bulbIso
  dollyPulse := 100
  dollyPulse2 := 100
  isoMax := 10
  apertureMax := 31
  apertureMin := 2
  extendedRamp := false
  pcSyncRequired := false
  camera :=
    { cameraFPS := 33
      bulbMode := .hold
      cameraMake := .canon
      halfPress := true
      bulbOffset := 75
      negBulbOffset := false
      interface := .auto
      bulbMin := 56
      bulbEndOffset := 8 }

/-- Settings for a camera on the cable. -/
def cableSettings : Settings :=
  { Settings.factory with camera := { Settings.factory.camera with interface := .cable } }

/-- Settings for a camera that is sent infrared codes. -/
def irSettings : Settings :=
  { Settings.factory with camera := { Settings.factory.camera with interface := .ir } }

/-- The camera port drives a dolly, and the shutter is left alone. -/
def Settings.motionSync (conf : Settings) : Bool :=
  decide (conf.cameraPort = .dolly) && decide (conf.auxPort = .sync)

/-- `SHUTTER_PRESS_TIME`, in milliseconds. -/
def Settings.pressTime (conf : Settings) : Nat := conf.camera.cameraFPS * 4

end Shutter

end TimelapsePlus
