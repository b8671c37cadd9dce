import Mathlib.Data.Vector.Basic
import TimelapsePlus.Lib.CString

/-!
# Settings in the EEPROM

The settings are kept in the EEPROM, with a block in them for the camera, and
beside them is a slot with such a block for each of the last cameras that were
connected. In memory there is one copy of the settings, and its block is that of
the camera in use. Saving swaps the blocks: the one in memory goes to its slot,
and the default one is fetched to stand in for it while the rest is written.

A restore of the defaults is saved in the same way. So the default block that is
fetched then is the one from before, and it is written back.

Only what is stored is followed. The display, the infrared port, the auxiliary
ports and the radio are set up from the settings when they are loaded, and the
program of the timer is set back with them; these are left out.

## Main definitions

* `CameraSettings`, `Settings`: The records, byte by byte.
* `Settings.factory`: What `settings_default` stores.
* `Store`: The EEPROM and the copy in memory.
* `Store.save`, `Store.load`, `Store.update`, `Store.setDefault`, `Store.init`:
  The functions of the source.
* `Settings.corrected`: What saving and loading change.

## Theorems

* `update_conf`, `update_slots`, `update_confEep`: What an update does.
* `update_sound`: An update is a round trip, and touches one block.
* `setDefault_complete`: When a restore of the defaults is complete.
* `default_kept`: It is not, for a camera with a slot of its own.
-/

namespace TimelapsePlus

namespace Eeprom

/-- `camera_settings_t`. -/
structure CameraSettings where
  cameraName : List.Vector UInt8 13
  cameraSerial : List.Vector UInt8 22
  cameraFPS : UInt8
  bulbMode : UInt8
  cameraMake : UInt8
  halfPress : UInt8
  bulbOffset : UInt16
  negBulbOffset : UInt8
  interface : UInt8
  modeSwitch : UInt8
  bulbMin : UInt8
  nikonUSB : UInt8
  bulbEndOffset : UInt16
  autoConfigured : UInt8
  brampGap : UInt16
  canonLVOC : UInt8
deriving DecidableEq

/-- `settings_t`. -/
structure Settings where
  warnTime : UInt8
  mirrorTime : UInt8
  sysName : List.Vector UInt8 13
  brampMode : UInt8
  lcdColor : UInt8
  lcdBacklightTime : UInt8
  sysOffTime : UInt8
  flashlightOffTime : UInt8
  settingsVersion : UInt32
  shutterVersion : UInt32
  devMode : UInt8
  firmwareVersion : UInt32
  auxPort : UInt8
  btMode : UInt8
  autoRun : UInt8
  dollyPulse : UInt16
  lcdContrast : UInt8
  lcdCoefficent : UInt8
  lcdBias : UInt8
  isoMax : UInt8
  apertureMax : UInt8
  apertureMin : UInt8
  debugEnabled : UInt8
  arbitraryBulb : UInt8
  menuWrap : UInt8
  extendedRamp : UInt8
  dollyPulse2 : UInt16
  lightIntegrationMinutes : UInt8
  pFactor : UInt16
  iFactor : UInt16
  dFactor : UInt16
  errorAlert : UInt8
  lightThreshold : UInt16
  camera : CameraSettings
  linearInterpolation : UInt8
  motionStep1 : UInt32
  motionStep2 : UInt32
  motionStep3 : UInt32
  focusStep : UInt16
  focusEnabled : UInt8
  motionBacklash1 : UInt16
  motionBacklash2 : UInt16
  motionBacklash3 : UInt16
  motionPowerSave1 : UInt8
  motionPowerSave2 : UInt8
  motionPowerSave3 : UInt8
  pcSyncRequired : UInt8
  motionSetupMove1 : UInt8
  motionSetupMove2 : UInt8
  motionSetupMove3 : UInt8
  motionUnit1 : UInt32
  motionUnit2 : UInt32
  motionUnit3 : UInt32
  motionMicroSteps1 : UInt8
  motionMicroSteps2 : UInt8
  motionMicroSteps3 : UInt8
  motionSpeed1 : UInt16
  motionSpeed2 : UInt16
  motionSpeed3 : UInt16
  keyframeTimeByMinute : UInt8
  cameraPort : UInt8

/-- `SETTINGS_VERSION`. -/
def currentSettings : UInt32 := 20150403

/-- `SHUTTER_VERSION`. -/
def currentShutter : UInt32 := 20141122

/-- `CANON` and `PANASONIC`. -/
def canon : UInt8 := 0
def panasonic : UInt8 := 6

/-- `HALF_PRESS_ENABLED` and `HALF_PRESS_DISABLED`. -/
def halfPressEnabled : UInt8 := 0
def halfPressDisabled : UInt8 := 1

/-- `INTERFACE_AUTO`. -/
def interfaceAuto : UInt8 := 7

/-- `USB_CHANGE_MODE_DISABLED`. -/
def usbChangeModeDisabled : UInt8 := 1

/-- `AUX_MODE_DISABLED` and `AUX_CAM_DEFAULT`. -/
def auxModeDisabled : UInt8 := 0
def auxCamDefault : UInt8 := 0

/-- `BT_MODE_SLEEP`. -/
def btModeSleep : UInt8 := 0

/-- `BRAMP_MODE_BULB_ISO`. -/
def brampModeBulbIso : UInt8 := 3

/-- `AUTO_RUN_OFF`. -/
def autoRunOff : UInt8 := 0

/-- A block after `memset`. -/
def CameraSettings.zero : CameraSettings where
  cameraName := .replicate 13 0
  cameraSerial := .replicate 22 0
  cameraFPS := 0
  bulbMode := 0
  cameraMake := 0
  halfPress := 0
  bulbOffset := 0
  negBulbOffset := 0
  interface := 0
  modeSwitch := 0
  bulbMin := 0
  nikonUSB := 0
  bulbEndOffset := 0
  autoConfigured := 0
  brampGap := 0
  canonLVOC := 0

/-- The settings after `memset`. -/
def Settings.zero : Settings where
  warnTime := 0
  mirrorTime := 0
  sysName := .replicate 13 0
  brampMode := 0
  lcdColor := 0
  lcdBacklightTime := 0
  sysOffTime := 0
  flashlightOffTime := 0
  settingsVersion := 0
  shutterVersion := 0
  devMode := 0
  firmwareVersion := 0
  auxPort := 0
  btMode := 0
  autoRun := 0
  dollyPulse := 0
  lcdContrast := 0
  lcdCoefficent := 0
  lcdBias := 0
  isoMax := 0
  apertureMax := 0
  apertureMin := 0
  debugEnabled := 0
  arbitraryBulb := 0
  menuWrap := 0
  extendedRamp := 0
  dollyPulse2 := 0
  lightIntegrationMinutes := 0
  pFactor := 0
  iFactor := 0
  dFactor := 0
  errorAlert := 0
  lightThreshold := 0
  camera := .zero
  linearInterpolation := 0
  motionStep1 := 0
  motionStep2 := 0
  motionStep3 := 0
  focusStep := 0
  focusEnabled := 0
  motionBacklash1 := 0
  motionBacklash2 := 0
  motionBacklash3 := 0
  motionPowerSave1 := 0
  motionPowerSave2 := 0
  motionPowerSave3 := 0
  pcSyncRequired := 0
  motionSetupMove1 := 0
  motionSetupMove2 := 0
  motionSetupMove3 := 0
  motionUnit1 := 0
  motionUnit2 := 0
  motionUnit3 := 0
  motionMicroSteps1 := 0
  motionMicroSteps2 := 0
  motionMicroSteps3 := 0
  motionSpeed1 := 0
  motionSpeed2 := 0
  motionSpeed3 := 0
  keyframeTimeByMinute := 0
  cameraPort := 0

/-- The block that `settings_default` stores. -/
def CameraSettings.factory : CameraSettings :=
  { CameraSettings.zero with
    cameraFPS := 33
    bulbEndOffset := 8
    bulbMin := 56
    bulbOffset := 75
    negBulbOffset := 0
    interface := interfaceAuto
    cameraMake := canon
    halfPress := halfPressEnabled
    modeSwitch := usbChangeModeDisabled
    brampGap := 6 }

/-- The settings that `settings_default` stores. The name of the system is blank. -/
def Settings.factory : Settings :=
  { Settings.zero with
    sysName := ⟨List.replicate 11 32 ++ [0, 0], rfl⟩
    warnTime := 2
    mirrorTime := 2
    settingsVersion := currentSettings
    shutterVersion := currentShutter
    lcdBacklightTime := 3
    sysOffTime := 12
    flashlightOffTime := 3
    auxPort := auxModeDisabled
    btMode := btModeSleep
    brampMode := brampModeBulbIso
    autoRun := autoRunOff
    dollyPulse := 100
    dollyPulse2 := 100
    lcdContrast := 3
    lcdCoefficent := 7
    lcdBias := 3
    isoMax := 10
    apertureMax := 31
    apertureMin := 2
    menuWrap := 1
    lightIntegrationMinutes := 5
    pFactor := 10
    iFactor := 11
    dFactor := 11
    lightThreshold := 18
    motionStep1 := 1000
    motionStep2 := 250
    motionStep3 := 250
    focusStep := 10
    focusEnabled := 1
    motionSetupMove1 := 1
    motionSetupMove2 := 1
    motionSetupMove3 := 1
    motionSpeed1 := 256
    motionSpeed2 := 256
    motionSpeed3 := 256
    cameraPort := auxCamDefault
    camera := .factory }

/-- A Panasonic camera is not half pressed. -/
def CameraSettings.fixPress (cs : CameraSettings) : CameraSettings :=
  if cs.cameraMake = panasonic then { cs with halfPress := halfPressDisabled } else cs

/-- `autoConfigured` is cleared. -/
def CameraSettings.clearAuto (cs : CameraSettings) : CameraSettings :=
  { cs with autoConfigured := 0 }

/-- The gap of the ramp is one that makes sense. -/
def CameraSettings.fixGap (cs : CameraSettings) : CameraSettings :=
  if 20 < cs.brampGap ∨ cs.brampGap = 0 then { cs with brampGap := 6 } else cs

/-- `conf.camera` is written. -/
def Settings.setCamera (conf : Settings) (cs : CameraSettings) : Settings :=
  { conf with camera := cs }

@[simp] theorem Settings.setCamera_camera (conf : Settings) (cs : CameraSettings) :
    (conf.setCamera cs).camera = cs := rfl

@[simp] theorem Settings.setCamera_setCamera (conf : Settings) (cs cs' : CameraSettings) :
    (conf.setCamera cs).setCamera cs' = conf.setCamera cs' := rfl

@[simp] theorem Settings.setCamera_self (conf : Settings) : conf.setCamera conf.camera = conf := rfl

/-- A gap that makes sense is left as it is. -/
@[simp] theorem CameraSettings.fixGap_fixGap (cs : CameraSettings) :
    cs.fixGap.fixGap = cs.fixGap := by
  unfold CameraSettings.fixGap
  by_cases hgap : 20 < cs.brampGap ∨ cs.brampGap = 0
  · rw [if_pos hgap, if_neg (by simp only; decide)]
  · rw [if_neg hgap, if_neg hgap]

/-- `camera_settings_eep`, of `MAX_CAMERAS_SETTINGS` slots. -/
abbrev Slots := Fin 5 → CameraSettings

/-- The EEPROM, and `conf` and `settings_camera_index`: the number of a slot, or none
    for the default block. -/
structure Store where
  confEep : Settings
  slots : Slots
  lastNMXaddress : List.Vector UInt8 14
  conf : Settings
  index : Option (Fin 5)

namespace Store

/-- `settings_save`. -/
def save (s : Store) : Store :=
  let camera := s.conf.camera.fixPress
  match s.index with
  | none =>
      let conf := s.conf.setCamera camera.clearAuto
      { s with conf := conf, confEep := conf }
  | some i =>
      let conf := s.conf.setCamera s.confEep.camera.clearAuto
      { s with conf := conf, slots := Function.update s.slots i camera, confEep := conf }

/-- The block of the camera in use. -/
def block (s : Store) : CameraSettings :=
  match s.index with
  | none => s.confEep.camera
  | some i => s.slots i

/-- `settings_load`. -/
def load (s : Store) : Store := { s with conf := s.confEep.setCamera s.block.fixGap }

/-- `settings_update`. -/
def update (s : Store) : Store := s.save.load

/-- `settings_default`. -/
def setDefault (s : Store) : Store :=
  { s with
    conf := .factory
    slots := fun _ => .zero
    lastNMXaddress := s.lastNMXaddress.set 0 0 }.save.load

/-- `settings_init`. -/
def init (s : Store) : Store :=
  let t := s.load
  let u := if t.conf.shutterVersion ≠ currentShutter then
    { t with conf := { t.conf with shutterVersion := currentShutter } } else t
  if u.conf.settingsVersion ≠ currentSettings then u.setDefault
  else if t.conf.shutterVersion ≠ currentShutter then u.save else u

/-- The device is started, with no camera in use. -/
def restart (s : Store) : Store := { s with index := none }.init

/-- `settings_load_camera_default`. -/
def loadCameraDefault (s : Store) : Store := { s with index := none }.load

/-- `settings_load_camera_index`. -/
def loadCameraIndex (s : Store) (i : Fin 5) : Store := { s with index := some i }.load

/-- What saving and loading make of the settings: a Panasonic camera is not half pressed,
    the gap of the ramp is one that makes sense, and without a slot `autoConfigured` is
    cleared. -/
def corrected (s : Store) : Settings :=
  s.conf.setCamera
    (if s.index = none then s.conf.camera.fixPress.clearAuto.fixGap
      else s.conf.camera.fixPress.fixGap)

section Update

variable (s : Store)

theorem save_of_none {s : Store} (h : s.index = none) :
    s.save = { s with
      conf := s.conf.setCamera s.conf.camera.fixPress.clearAuto
      confEep := s.conf.setCamera s.conf.camera.fixPress.clearAuto } := by
  unfold save
  rw [h]

theorem save_of_some {s : Store} {i : Fin 5} (h : s.index = some i) :
    s.save = { s with
      conf := s.conf.setCamera s.confEep.camera.clearAuto
      slots := Function.update s.slots i s.conf.camera.fixPress
      confEep := s.conf.setCamera s.confEep.camera.clearAuto } := by
  unfold save
  rw [h]

theorem block_of_none {s : Store} (h : s.index = none) : s.block = s.confEep.camera := by
  unfold block
  rw [h]

theorem block_of_some {s : Store} {i : Fin 5} (h : s.index = some i) : s.block = s.slots i := by
  unfold block
  rw [h]

/-- Saving does not change which camera is in use. -/
@[simp] theorem save_index : s.save.index = s.index := by
  cases h : s.index with
  | none =>
      rw [save_of_none h]
      exact h
  | some i =>
      rw [save_of_some h]
      exact h

/-- What saving writes is what is there to load. -/
theorem update_conf : s.update.conf = s.corrected := by
  have hload : s.update.conf = s.save.confEep.setCamera s.save.block.fixGap := rfl
  rw [hload, corrected]
  cases h : s.index with
  | none =>
      rw [block_of_none (s.save_index.trans h), save_of_none h, if_pos rfl]
      rfl
  | some i =>
      rw [block_of_some (s.save_index.trans h), save_of_some h, if_neg (Option.some_ne_none i)]
      simp only [Function.update_self, Settings.setCamera_setCamera]

/-- An update writes to the slot in use, if there is one. -/
theorem update_slots {i : Fin 5} (hi : s.index ≠ some i) : s.update.slots i = s.slots i := by
  unfold update load
  cases h : s.index with
  | none => rw [save_of_none h]
  | some j =>
      rw [save_of_some h]
      refine Function.update_of_ne (fun heq => hi ?_) _ _
      rw [h, heq]

theorem update_slot {i : Fin 5} (hi : s.index = some i) :
    s.update.slots i = s.conf.camera.fixPress := by
  unfold update load
  rw [save_of_some hi]
  exact Function.update_self ..

/-- An update for a camera with a slot leaves the default block, but for
    `autoConfigured`. -/
theorem update_confEep {i : Fin 5} (hi : s.index = some i) :
    s.update.confEep = s.conf.setCamera s.confEep.camera.clearAuto := by
  unfold update load
  rw [save_of_some hi]

end Update

/-- Updating the settings is a round trip: what is in memory stays but for what is
    corrected, whatever memory holds later it is loaded again, and of the blocks in the
    EEPROM only that of the camera in use is written. -/
theorem update_sound (s : Store) :
    s.update.index = s.index ∧ s.update.conf = s.corrected ∧
      (∀ conf, { s.update with conf := conf }.load.conf = s.corrected) ∧
      (∀ i, s.index ≠ some i → s.update.slots i = s.slots i) ∧
      (s.index ≠ none → s.update.confEep.camera = s.confEep.camera.clearAuto) := by
  refine ⟨s.save_index, s.update_conf, fun conf => ?_, fun i hi => s.update_slots hi, fun hi => ?_⟩
  · -- Loading looks at the EEPROM only, and that is what the update has just loaded.
    exact s.update_conf
  · rcases Option.ne_none_iff_exists'.mp hi with ⟨i, hi⟩
    rw [s.update_confEep hi]
    rfl

section Default

variable (s : Store)

/-- The state in which the defaults are saved. -/
def clean : Store :=
  { s with
    conf := .factory
    slots := fun _ => .zero
    lastNMXaddress := s.lastNMXaddress.set 0 0 }

/-- In memory the defaults are complete. -/
theorem setDefault_conf : s.setDefault.conf = .factory := by
  have hupdate : s.setDefault.conf = s.clean.corrected := s.clean.update_conf
  rw [hupdate, corrected]
  split
  · rfl
  · rfl

/-- In the EEPROM the default block is the one saving has come to. -/
theorem setDefault_confEep : s.setDefault.confEep = Settings.factory.setCamera
    (if s.index = none then .factory else s.confEep.camera.clearAuto) := by
  cases h : s.index with
  | none =>
      have hsave : s.setDefault.confEep = s.clean.save.confEep := rfl
      rw [hsave, save_of_none (s := s.clean) h, if_pos rfl]
      rfl
  | some i =>
      rw [if_neg (Option.some_ne_none i)]
      exact s.clean.update_confEep h

/-- Settings of this version are loaded as they are. -/
theorem restart_conf (hsettings : s.confEep.settingsVersion = currentSettings)
    (hshutter : s.confEep.shutterVersion = currentShutter) :
    s.restart.conf = s.confEep.setCamera s.confEep.camera.fixGap := by
  have hload : ({ s with index := none } : Store).load.conf =
      s.confEep.setCamera s.confEep.camera.fixGap := rfl
  have hversion : (s.confEep.setCamera s.confEep.camera.fixGap).settingsVersion =
      s.confEep.settingsVersion := rfl
  have hversion' : (s.confEep.setCamera s.confEep.camera.fixGap).shutterVersion =
      s.confEep.shutterVersion := rfl
  unfold restart init
  simp only [hload, hversion', hshutter, ne_eq, not_true_eq_false, if_false]
  rw [if_neg (by rw [hversion, hsettings]; exact fun h => h rfl), hload]

end Default

/-- A restore of the defaults is complete, in memory and for what is loaded at the next
    start, exactly when no slot is in use, or the default block was as good as the
    default one before. -/
theorem setDefault_complete (s : Store) :
    (s.setDefault.conf = .factory ∧ s.setDefault.restart.conf = .factory) ↔
      s.index = none ∨ s.confEep.camera.clearAuto.fixGap = .factory := by
  have heep := s.setDefault_confEep
  have hrestart := s.setDefault.restart_conf (by rw [heep]; rfl) (by rw [heep]; rfl)
  rw [hrestart, heep, Settings.setCamera_camera, Settings.setCamera_setCamera]
  -- The other settings are the defaults, and so only the block counts.
  have hblock : ∀ cs, Settings.factory.setCamera cs = .factory ↔ cs = .factory := by
    intro cs
    constructor
    · intro h
      exact congrArg Settings.camera h
    · intro h
      rw [h]
      rfl
  rw [hblock]
  cases s.index with
  | none => exact ⟨fun _ => Or.inl rfl, fun _ => ⟨s.setDefault_conf, by rw [if_pos rfl]; rfl⟩⟩
  | some i =>
      rw [if_neg (Option.some_ne_none i)]
      constructor
      · exact fun h => Or.inr h.2
      · exact fun h => ⟨s.setDefault_conf, h.resolve_left (Option.some_ne_none i)⟩

/-- A camera is connected that has a slot, and the default block is for one that takes
    fifty pictures a second. The restore leaves it so. -/
theorem default_kept : ∃ s : Store,
    ¬ (s.setDefault.conf = .factory ∧ s.setDefault.restart.conf = .factory) := by
  refine ⟨{ confEep := Settings.factory.setCamera { CameraSettings.factory with cameraFPS := 50 }
            slots := fun _ => .factory
            lastNMXaddress := .replicate 14 0
            conf := .factory
            index := some 0 }, fun h => ?_⟩
  have hfps := congrArg (fun conf : Settings => conf.camera.cameraFPS) h.2
  exact absurd hfps (by decide +kernel)

end Store

end Eeprom

end TimelapsePlus
