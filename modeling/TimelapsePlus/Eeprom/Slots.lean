import Mathlib.Data.List.FinRange
import TimelapsePlus.Eeprom.Settings
import TimelapsePlus.Lib.Run

/-!
# The Slots of the Cameras

When a camera is connected its serial is looked for in the slots, and it gets the
slot it has, or else an empty one with a copy of the default block, or else the
last one. Two serials are the same if their first characters are, and a slot is
empty if its serial is.

No two slots come to have the same serial, since one is only given out when the
serial has none. Saving writes the block in memory to the slot in use, and the
serial in that block is the one that is in the slot.

A camera without a serial gets nothing. The one that was in use before stays.

## Main definitions

* `CameraSettings.key`: What of a serial is compared.
* `Store.findSlot`, `Store.setupCameraIndex`: A camera is connected.
* `Store.Connection`: What happens next.
* `Store.Kept`: The slots have different serials, and memory has that of the slot
  in use.

## Theorems

* `findSlot_inl`, `findSlot_inr`: What the search comes to.
* `setup_stored`, `setup_new`: What a camera gets.
* `step_kept`: A step keeps the slots apart.
* `run_slots`: They are, along any run, and each camera gets its own.
* `unnamed_camera`: A camera without a serial does not.
-/

namespace TimelapsePlus

namespace Eeprom

open CString

/-- What of a serial is compared. -/
def key (serial : List UInt8) : List UInt8 := (text serial).take 21

/-- What of the serial of a block is compared. -/
def CameraSettings.key (cs : CameraSettings) : List UInt8 := Eeprom.key cs.cameraSerial.toList

/-- A serial is copied into a block. -/
def CameraSettings.setSerial (cs : CameraSettings) (serial : List UInt8) : CameraSettings :=
  { cs with cameraSerial := ⟨strncpy 22 serial, length_strncpy 22 serial⟩ }

namespace Store

/-- The search for a serial: the slot that has it, or the one to give out. -/
def findSlot (slots : Slots) (serial : List UInt8) : List (Fin 5) → Fin 5 → Fin 5 ⊕ Fin 5
  | [], last => .inr last
  | i :: is, last =>
      if strncmp 21 serial (slots i).cameraSerial.toList = 0 then .inl i
      else if (slots i).cameraSerial.get 0 = 0 then findSlot slots serial is i
      else findSlot slots serial is last

/-- `settings_setup_camera_index`. -/
def setupCameraIndex (s : Store) (serial : List UInt8) : Store :=
  if strlen serial = 0 then s
  else match findSlot s.slots serial (List.finRange 5) 4 with
    | .inl i => s.loadCameraIndex i
    | .inr i =>
        { s with
          slots := Function.update s.slots i (s.confEep.camera.setSerial serial) }.loadCameraIndex i

end Store

/-- A block has a serial that is not empty exactly when its first character is not. -/
theorem CameraSettings.key_eq_nil {cs : CameraSettings} :
    cs.key = [] ↔ cs.cameraSerial.get 0 = 0 := by
  rcases cs.cameraSerial.exists_eq_cons with ⟨c, cs', hcons⟩
  unfold CameraSettings.key Eeprom.key
  rw [hcons]
  simp only [List.Vector.toList_cons, List.Vector.get_zero, List.Vector.head_cons, text_cons]
  by_cases hc : c = 0
  · rw [if_pos hc, List.take_nil]
    exact ⟨fun _ => hc, fun _ => rfl⟩
  · rw [if_neg hc, List.take_succ_cons]
    exact ⟨fun h => absurd h (List.cons_ne_nil _ _), fun h => absurd h hc⟩

theorem key_eq_nil {serial : List UInt8} : key serial = [] ↔ strlen serial = 0 := by
  rw [strlen_eq_zero, key]
  cases text serial with
  | nil => exact ⟨fun _ => rfl, fun _ => rfl⟩
  | cons c s => simp only [List.take_succ_cons, reduceCtorEq]

/-- The copy of a serial is compared like the serial. -/
theorem key_setSerial (cs : CameraSettings) (serial : List UInt8) :
    (cs.setSerial serial).key = key serial := by
  unfold CameraSettings.key CameraSettings.setSerial key
  simp only [List.Vector.toList_mk, text_strncpy, List.take_take]
  rfl

theorem serial_fixPress (cs : CameraSettings) : cs.fixPress.cameraSerial = cs.cameraSerial := by
  unfold CameraSettings.fixPress
  split
  · rfl
  · rfl

theorem serial_fixGap (cs : CameraSettings) : cs.fixGap.cameraSerial = cs.cameraSerial := by
  unfold CameraSettings.fixGap
  split
  · rfl
  · rfl

namespace Store

section Search

variable {slots : Slots} {serial : List UInt8}

theorem compare_eq_zero {cs : CameraSettings} :
    strncmp 21 serial cs.cameraSerial.toList = 0 ↔ cs.key = key serial := by
  rw [strncmp_eq_zero]
  exact eq_comm

/-- A serial that one slot has is found there. -/
theorem findSlot_inl {is : List (Fin 5)} {last i : Fin 5} (hi : i ∈ is)
    (hkey : (slots i).key = key serial)
    (honly : ∀ j ∈ is, (slots j).key = key serial → j = i) :
    findSlot slots serial is last = .inl i := by
  induction is generalizing last with
  | nil => exact absurd hi List.not_mem_nil
  | cons j js ih =>
      unfold findSlot
      by_cases hfound : (slots j).key = key serial
      · rw [if_pos (compare_eq_zero.mpr hfound), honly j List.mem_cons_self hfound]
      · rw [if_neg fun h => hfound (compare_eq_zero.mp h)]
        have hmem : i ∈ js := by
          rcases List.mem_cons.mp hi with heq | hmem
          · exact absurd (heq ▸ hkey) hfound
          · exact hmem
        have honly' : ∀ k ∈ js, (slots k).key = key serial → k = i :=
          fun k hk => honly k (List.mem_cons_of_mem j hk)
        split
        · exact ih hmem honly'
        · exact ih hmem honly'

/-- A serial that no slot has is given an empty one, if there is one. -/
theorem findSlot_inr (is : List (Fin 5)) (last : Fin 5)
    (hnone : ∀ j ∈ is, (slots j).key ≠ key serial) :
    ∃ i, findSlot slots serial is last = .inr i ∧
      ((slots i).key = [] ∨ i = last ∧ ∀ j ∈ is, (slots j).key ≠ []) := by
  induction is generalizing last with
  | nil => exact ⟨last, rfl, Or.inr ⟨rfl, fun j hj => absurd hj List.not_mem_nil⟩⟩
  | cons j js ih =>
      unfold findSlot
      rw [if_neg fun h => hnone j List.mem_cons_self (compare_eq_zero.mp h)]
      have hrest : ∀ k ∈ js, (slots k).key ≠ key serial :=
        fun k hk => hnone k (List.mem_cons_of_mem j hk)
      by_cases hempty : (slots j).cameraSerial.get 0 = 0
      · -- From here on this slot is the one to give out, unless a later one is empty too.
        rw [if_pos hempty]
        rcases ih j hrest with ⟨i, hfind, hi | ⟨hi, -⟩⟩
        · exact ⟨i, hfind, Or.inl hi⟩
        · rw [hi] at hfind
          exact ⟨j, hfind, Or.inl (CameraSettings.key_eq_nil.mpr hempty)⟩
      · rw [if_neg hempty]
        rcases ih last hrest with ⟨i, hfind, hi | ⟨hi, hfull⟩⟩
        · exact ⟨i, hfind, Or.inl hi⟩
        · refine ⟨i, hfind, Or.inr ⟨hi, fun k hk => ?_⟩⟩
          rcases List.mem_cons.mp hk with heq | hmem
          · rw [heq]
            exact fun h => hempty (CameraSettings.key_eq_nil.mp h)
          · exact hfull k hmem

end Search

/-- What happens next. A menu may change the settings in memory, but there is none for the
    serial. -/
inductive Connection
  | setup (serial : List UInt8)
  | loadDefault
  | update
  | edit (conf : Settings)

/-- One step. -/
def step (s : Store) : Connection → Option Store
  | .setup serial => some (s.setupCameraIndex serial)
  | .loadDefault => some s.loadCameraDefault
  | .update => some s.update
  | .edit conf =>
      if conf.camera.cameraSerial = s.conf.camera.cameraSerial then some { s with conf := conf }
      else none

/-- The slots have different serials, and memory has that of the slot in use. -/
structure Kept (s : Store) : Prop where
  distinct : ∀ i j, (s.slots i).key ≠ [] → (s.slots i).key = (s.slots j).key → i = j
  current : ∀ i, s.index = some i → s.conf.camera.cameraSerial = (s.slots i).cameraSerial

/-- A camera without a serial gets nothing. -/
theorem setup_unnamed {s : Store} {serial : List UInt8} (hserial : key serial = []) :
    s.setupCameraIndex serial = s := by
  unfold setupCameraIndex
  rw [if_pos (key_eq_nil.mp hserial)]

/-- A camera that has a slot gets it. -/
theorem setup_stored {s : Store} (h : s.Kept) {serial : List UInt8} (hserial : key serial ≠ [])
    {i : Fin 5} (hi : (s.slots i).key = key serial) :
    s.setupCameraIndex serial = s.loadCameraIndex i := by
  have hfind : findSlot s.slots serial (List.finRange 5) 4 = .inl i := by
    refine findSlot_inl (List.mem_finRange i) hi fun j _ hj => ?_
    exact h.distinct j i (by rw [hj]; exact hserial) (hj.trans hi.symm)
  unfold setupCameraIndex
  rw [if_neg fun hlen => hserial (key_eq_nil.mpr hlen), hfind]

/-- A new one is put into an empty slot, or into the last one when there is none. -/
theorem setup_new {s : Store} {serial : List UInt8} (hserial : key serial ≠ [])
    (hnone : ∀ j, (s.slots j).key ≠ key serial) :
    ∃ i, ((s.slots i).key = [] ∨ i = 4 ∧ ∀ j, (s.slots j).key ≠ []) ∧
      s.setupCameraIndex serial =
        { s with
          slots := Function.update s.slots i
            (s.confEep.camera.setSerial serial) }.loadCameraIndex i := by
  rcases findSlot_inr (List.finRange 5) 4 fun j _ => hnone j with ⟨i, hfind, hi⟩
  refine ⟨i, hi.imp_right fun hfull => ⟨hfull.1, fun j => hfull.2 j (List.mem_finRange j)⟩, ?_⟩
  unfold setupCameraIndex
  rw [if_neg fun hlen => hserial (key_eq_nil.mpr hlen), hfind]

/-- Loading a slot brings its serial into memory. -/
theorem loadCameraIndex_current (s : Store) (i : Fin 5) :
    ∀ j, (s.loadCameraIndex i).index = some j →
      (s.loadCameraIndex i).conf.camera.cameraSerial =
        ((s.loadCameraIndex i).slots j).cameraSerial := by
  intro j hj
  have heq : i = j := Option.some.inj hj
  rw [← heq]
  exact serial_fixGap _

/-- A block with a serial of its own may be put anywhere. -/
theorem distinct_update {slots : Slots} {i : Fin 5} {cs : CameraSettings}
    (h : ∀ j k, (slots j).key ≠ [] → (slots j).key = (slots k).key → j = k)
    (hnone : ∀ j, (slots j).key ≠ cs.key) (j k : Fin 5)
    (hj : (Function.update slots i cs j).key ≠ [])
    (heq : (Function.update slots i cs j).key = (Function.update slots i cs k).key) : j = k := by
  by_cases hji : j = i
  · by_cases hki : k = i
    · rw [hji, hki]
    · rw [hji, Function.update_self, Function.update_of_ne hki] at heq
      exact absurd heq.symm (hnone k)
  · by_cases hki : k = i
    · rw [hki, Function.update_self, Function.update_of_ne hji] at heq
      exact absurd heq (hnone j)
    · rw [Function.update_of_ne hji, Function.update_of_ne hki] at heq
      rw [Function.update_of_ne hji] at hj
      exact h j k hj heq

/-- An update leaves every serial as it is. -/
theorem Kept.update_serial {s : Store} (h : s.Kept) (i : Fin 5) :
    (s.update.slots i).cameraSerial = (s.slots i).cameraSerial := by
  by_cases hi : s.index = some i
  · rw [s.update_slot hi, serial_fixPress, h.current i hi]
  · rw [s.update_slots hi]

theorem step_kept {s t : Store} (l : Connection) (h : s.Kept) (hstep : s.step l = some t) :
    t.Kept := by
  cases l with
  | setup serial =>
      cases hstep
      by_cases hserial : key serial = []
      · rw [setup_unnamed hserial]
        exact h
      · by_cases hstored : ∃ i, (s.slots i).key = key serial
        · rcases hstored with ⟨i, hi⟩
          rw [setup_stored h hserial hi]
          exact ⟨h.distinct, s.loadCameraIndex_current i⟩
        · have hnone : ∀ j, (s.slots j).key ≠ key serial := fun j hj => hstored ⟨j, hj⟩
          rcases setup_new hserial hnone with ⟨i, -, hsetup⟩
          rw [hsetup]
          refine ⟨distinct_update h.distinct fun j => ?_, loadCameraIndex_current _ i⟩
          rw [key_setSerial]
          exact hnone j
  | loadDefault =>
      cases hstep
      exact ⟨h.distinct, fun i hi => absurd hi (Option.some_ne_none i).symm⟩
  | update =>
      cases hstep
      have hkey : ∀ i, (s.update.slots i).key = (s.slots i).key := fun i => by
        unfold CameraSettings.key
        rw [h.update_serial i]
      refine ⟨fun j k hj heq => ?_, fun i hi => ?_⟩
      · rw [hkey] at hj
        rw [hkey, hkey] at heq
        exact h.distinct j k hj heq
      · have hin : s.index = some i := s.save_index.symm.trans hi
        rw [s.update_conf, corrected, Settings.setCamera_camera, s.update_slot hin, hin,
          if_neg (Option.some_ne_none i), serial_fixGap]
  | edit conf =>
      simp only [step, Option.ite_none_right_eq_some, Option.some.injEq] at hstep
      rcases hstep with ⟨hserial, rfl⟩
      exact ⟨h.distinct, fun i hi => hserial.trans (h.current i hi)⟩

/-- While a slot is empty a step takes no slot from the camera that has it, and only an
    update for that camera writes to it. -/
theorem step_slot {s t : Store} (l : Connection) (h : s.Kept) (hstep : s.step l = some t)
    (hroom : ∃ j, (s.slots j).key = []) {i : Fin 5} (hi : (s.slots i).key ≠ []) :
    (t.slots i).key = (s.slots i).key ∧
      (t.slots i = s.slots i ∨ l = .update ∧ s.index = some i) := by
  cases l with
  | setup serial =>
      cases hstep
      by_cases hserial : key serial = []
      · rw [setup_unnamed hserial]
        exact ⟨rfl, Or.inl rfl⟩
      · by_cases hstored : ∃ j, (s.slots j).key = key serial
        · rcases hstored with ⟨j, hj⟩
          rw [setup_stored h hserial hj]
          exact ⟨rfl, Or.inl rfl⟩
        · have hnone : ∀ j, (s.slots j).key ≠ key serial := fun j hj => hstored ⟨j, hj⟩
          rcases setup_new hserial hnone with ⟨j, hempty | ⟨-, hfull⟩, hsetup⟩
          · -- The slot that is given out is another one.
            have hne : i ≠ j := by
              intro heq
              rw [heq] at hi
              exact hi hempty
            have hsame : (s.setupCameraIndex serial).slots i = s.slots i := by
              rw [hsetup]
              exact Function.update_of_ne hne _ _
            rw [hsame]
            exact ⟨rfl, Or.inl rfl⟩
          · rcases hroom with ⟨k, hk⟩
            exact absurd hk (hfull k)
  | loadDefault =>
      cases hstep
      exact ⟨rfl, Or.inl rfl⟩
  | update =>
      cases hstep
      constructor
      · unfold CameraSettings.key
        rw [h.update_serial i]
      · by_cases hin : s.index = some i
        · exact Or.inr ⟨rfl, hin⟩
        · exact Or.inl (s.update_slots hin)
  | edit conf =>
      simp only [step, Option.ite_none_right_eq_some, Option.some.injEq] at hstep
      rcases hstep with ⟨-, rfl⟩
      exact ⟨rfl, Or.inl rfl⟩

/-- A camera gets the slot `i` and the block that is in it. -/
def Gets (s : Store) (i : Fin 5) : Prop :=
  s.index = some i ∧ s.conf = s.confEep.setCamera (s.slots i).fixGap

/-- The restore of the defaults leaves the slots empty. -/
theorem setDefault_kept (s : Store) : s.setDefault.Kept ∧ ∀ i, (s.setDefault.slots i).key = [] := by
  have hempty : ∀ i, (s.setDefault.slots i).cameraSerial = .replicate 22 0 := by
    intro i
    have hupdate : s.setDefault.slots i = s.clean.update.slots i := rfl
    rw [hupdate]
    by_cases hi : s.clean.index = some i
    · rw [s.clean.update_slot hi]
      rfl
    · rw [s.clean.update_slots hi]
      rfl
  have hkey : ∀ i, (s.setDefault.slots i).key = [] := by
    intro i
    unfold CameraSettings.key
    rw [hempty i]
    decide
  refine ⟨⟨fun i _ hi => absurd (hkey i) hi, fun i _ => ?_⟩, hkey⟩
  rw [s.setDefault_conf, hempty i]
  rfl

end Store

open Store in
/-- Whatever cameras are connected after a restore of the defaults, the slots have
    different serials. A camera that has one gets it, a new one gets a copy of the default
    block, and one without a serial gets nothing. No camera loses its slot while there is
    an empty one, and only an update for it writes to it. -/
theorem run_slots {w s : Store} (hrun : Run step (fun _ _ => True) w.setDefault s) :
    (∀ i j, (s.slots i).key ≠ [] → (s.slots i).key = (s.slots j).key → i = j) ∧
      (∀ serial, key serial = [] → s.setupCameraIndex serial = s) ∧
      (∀ serial i, key serial ≠ [] → (s.slots i).key = key serial →
        (s.setupCameraIndex serial).Gets i ∧ (s.setupCameraIndex serial).slots = s.slots) ∧
      (∀ serial, key serial ≠ [] → (∀ j, (s.slots j).key ≠ key serial) →
        ∃ i, (s.setupCameraIndex serial).Gets i ∧
          (s.setupCameraIndex serial).slots =
            Function.update s.slots i (s.confEep.camera.setSerial serial)) ∧
      ∀ l t i, s.step l = some t → (∃ j, (s.slots j).key = []) → (s.slots i).key ≠ [] →
        (t.slots i).key = (s.slots i).key ∧
          (t.slots i = s.slots i ∨ l = .update ∧ s.index = some i) := by
  have h : s.Kept := hrun.invariant Kept (fun _ l _ h _ hstep => step_kept l h hstep)
    w.setDefault_kept.1
  refine ⟨h.distinct, fun serial hserial => setup_unnamed hserial, ?_, ?_, ?_⟩
  · intro serial i hserial hi
    rw [setup_stored h hserial hi]
    exact ⟨⟨rfl, rfl⟩, rfl⟩
  · intro serial hserial hnone
    rcases setup_new hserial hnone with ⟨i, -, hsetup⟩
    refine ⟨i, ?_⟩
    rw [hsetup]
    exact ⟨⟨rfl, rfl⟩, rfl⟩
  · intro l t i hstep hroom hi
    exact step_slot l h hstep hroom hi

/-- An EEPROM of zeros. -/
def Store.cleared : Store where
  confEep := .zero
  slots := fun _ => .zero
  lastNMXaddress := .replicate 14 0
  conf := .zero
  index := none

open Store in
/-- Two cameras are connected, one after the other, and then the first again. -/
theorem run_slots_twice : ∃ s,
    steps step cleared.setDefault [.setup [65], .update, .setup [66], .setup [65]] = some s ∧
      ∀ i j, (s.slots i).key ≠ [] → (s.slots i).key = (s.slots j).key → i = j := by
  have hrun : Run step (fun _ _ => True) cleared.setDefault _ := run_of_steps
    [.setup [65], .update, .setup [66], .setup [65]] rfl
  exact ⟨_, rfl, (run_slots hrun).1⟩

/-- The settings of a camera that takes fifty pictures a second. -/
def fastSettings : Settings :=
  Settings.factory.setCamera { CameraSettings.factory.setSerial [65] with cameraFPS := 50 }

open Store in
/-- A camera that takes fifty pictures a second is connected, and then one without a serial,
    which no slot can have. It gets no copy of the default block, but is used as the other
    one. -/
theorem unnamed_camera : ∃ s,
    Run step (fun _ _ => True) cleared.setDefault s ∧
      s.confEep.camera.cameraFPS = 33 ∧ (s.setupCameraIndex []).conf.camera.cameraFPS = 50 ∧
      ¬ ∃ i, (s.setupCameraIndex []).Gets i ∧
        (s.setupCameraIndex []).slots i = s.confEep.camera.setSerial [] := by
  have hrun : Run step (fun _ _ => True) cleared.setDefault _ := run_of_steps
    [.setup [65], .edit fastSettings, .update] rfl
  refine ⟨_, hrun, by decide +kernel, by decide +kernel, ?_⟩
  rintro ⟨i, ⟨-, hconf⟩, hcopy⟩
  rw [hcopy] at hconf
  have hfps := congrArg (fun conf : Settings => conf.camera.cameraFPS) hconf
  exact absurd hfps (by decide +kernel)

end Eeprom

end TimelapsePlus
