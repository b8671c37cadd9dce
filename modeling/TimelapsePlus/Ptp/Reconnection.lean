import TimelapsePlus.Ptp.Modes
import TimelapsePlus.Ptp.Shown

/-!
# From One Camera to the Next

What a camera is found to be like should not depend on the cameras that were
connected before it. Two objects with any past are compared here: the same camera
is connected to both and answers both alike, and the same calls are made.

`close` and `init` leave a few variables as they are. The mode a Canon was in is
still looked at when the next camera is asked whether it is in bulb, the photos
remaining are those of the camera that told them, and the mask of captures only
ever gains bits. These can be seen as soon as the next camera is connected. The
shutter speed to go back to is another, and comes to light when `manualMode` is
called before `bulbMode` has been; so are the two static variables of
`checkEvent`, and the values that stand in a table behind those listed.

## Main definitions

* `Device.shown`: What shows of the object.
* `Device.SameShutter`: `manualMode` goes back to the same.
* `Device.Same`: A step finds no difference in what does not show.
* `Seen`, `Device.seen`: What is seen of the object.
* `Agree`: What `init` does not make anew is the same.

## Theorems

* `bulbMode_blind`, `manualMode_congr`, `goOn_blind`, `start_congr`: The calls.
* `next_congr`: A step leads to the same.
* `initFlags_bare`, `nikonCaptureOp_eq_iff`: What `init` makes of the flags.
* `connect_shown`, `agree_of_seen`: When the object shows the same as soon as the
  camera is connected.
* `run_independent`: Nothing of an earlier camera is ever seen, exactly when that
  is the same.
* `mode_inherited`: It need not be.
-/

namespace TimelapsePlus

namespace Ptp

open Word Usb

/-- What shows is whether the camera is in bulb mode. -/
theorem Camera.shown_inBulbMode (c : Camera) : c.shown.inBulbMode = c.inBulbMode := by
  have hshutter : c.shown.shutter = c.shutter := rfl
  have hmode : c.shown.modePTP = 0x04 ↔ c.modePTP = 0x04 := by
    simp only [shown, modeShown]
    grind
  simp only [inBulbMode, hshutter, hmode]

namespace Setters

/-- A call that goes on stays with its camera. -/
theorem goOn_protocol {c c' : Setters} (h : c.goOn = some c') :
    c'.session.camera.protocol = c.session.camera.protocol := by
  unfold goOn at h
  cases hcall : c.call with
  | idle =>
      rw [hcall] at h
      cases h
  | turn p ev j =>
      rw [hcall] at h
      cases h
      unfold turn
      simp only
      split
      · exact Camera.keep_protocol _ _ _
      · split <;> rfl
  | poll p ev j i before =>
      rw [hcall] at h
      cases h
      exact congrArg Prod.fst (Session.sonyReadProperties_dials c.session)
  | look p ev j i before =>
      rw [hcall] at h
      cases h
      split
      · rfl
      · split <;> rfl

end Setters

namespace Device

/-- What shows of the object. What `manualMode` goes back to does not. -/
def shown (d : Device) : Device :=
  { d with
    session := d.session.shown
    flags := d.flags.shown d.session.camera.protocol
    preBulbShutter := 0 }

theorem shown_shown (d : Device) : d.shown.shown = d.shown := by
  have hprotocol : d.session.shown.camera.protocol = d.session.camera.protocol := rfl
  simp only [shown, hprotocol, Session.shown_shown, Flags.shown_shown]

theorem blind_id : Blind shown shown fun d => d := fun d => (shown_shown d).symm

theorem check_blind : Blind shown shown check := fun d => blind_id d.check

theorem returned_blind (ret : Ret) : Blind shown shown fun d => { d with returned := ret } :=
  fun d => blind_id { d with returned := ret }

theorem preBulbShutter_blind (ev : Device → Nat) :
    Blind shown shown fun d => { d with preBulbShutter := ev d } := fun d => blind_id d

theorem setEosMode_blind (value : Nat) : Blind shown shown fun d => d.setEosMode value :=
  fun d => blind_id (d.setEosMode value)

theorem setPtpBulb_blind : Blind shown shown setPtpBulb := fun d => blind_id d.setPtpBulb

/-- A setter keeps the protocol, and so what shows of the mask. -/
theorem ofSetters_shown (d : Device) {c : Setters}
    (h : c.session.camera.protocol = d.session.camera.protocol) :
    (d.ofSetters c).shown = d.shown.ofSetters c.shown := by
  simp only [shown, ofSetters, h, Setters.shown]

theorem set_blind (p : Setting) (ev : Nat) :
    Blind shown shown fun d => d.ofSetters (d.setters.set p ev) := by
  refine .of_shown shown_shown fun d => ?_
  have hprotocol := congrArg Prod.fst (Setters.set_lists d.setters p ev)
  rw [ofSetters_shown d hprotocol, ← Setters.set_shown]
  rfl

theorem setShutter_blind (ev : Nat) : Blind shown shown fun d => d.setShutter ev :=
  set_blind .shutter ev

theorem bulbMode_blind : Blind shown shown bulbMode := by
  have hprotocol : ∀ d : Device, d.shown.session.camera.protocol = d.session.camera.protocol :=
    fun _ => rfl
  refine .ite (fun _ => Iff.rfl) (returned_blind .ok) ?_
  refine .ite (fun d => ?_) (returned_blind .ok) fun d => ?_
  · rw [show d.shown.session.camera.inBulbMode = d.session.camera.inBulbMode from
      Camera.shown_inBulbMode _]
  · have hlisted : d.shown.session.camera.shutterAvail.listed =
        d.session.camera.shutterAvail.listed := Table.shown_listed _
    have hpre := preBulbShutter_blind fun d => d.session.camera.shutter
    simp only [hprotocol, hlisted]
    cases d.session.camera.protocol with
    | eos =>
        by_cases hbulb : bulbEvCode ∈ d.session.camera.shutterAvail.listed
        · simp only [if_pos hbulb]
          exact (check_blind.comp ((setShutter_blind _).comp hpre)) d
        · simp only [if_neg hbulb]
          exact ((setEosMode_blind _).comp (preBulbShutter_blind fun _ => 0)) d
    | nikon => exact (check_blind.comp (setPtpBulb_blind.comp hpre)) d
    | sony => exact (check_blind.comp ((setShutter_blind _).comp hpre)) d
    | _ => exact check_blind d

/-- `manualMode` goes back to the same shutter speed, if it goes back to one. -/
def SameShutter (d e : Device) : Prop :=
  d.modeSwitch = true → d.session.camera.inBulbMode = true →
    match d.session.camera.protocol with
    | .eos => d.preBulbShutter = e.preBulbShutter
    | .nikon => d.restored = e.restored
    | .sony => d.restored = e.restored
    | _ => True

theorem manualMode_congr {d e : Device} (h : d.shown = e.shown) (hsame : d.SameShutter e) :
    d.manualMode.shown = e.manualMode.shown := by
  have hswitch : d.modeSwitch = e.modeSwitch := congrArg (fun f => f.modeSwitch) h
  have hcamera : d.session.camera.shown = e.session.camera.shown :=
    congrArg (fun f => f.session.camera) h
  have hbulb : d.session.camera.inBulbMode = e.session.camera.inBulbMode := by
    rw [← Camera.shown_inBulbMode, hcamera, Camera.shown_inBulbMode]
  have hprotocol : d.session.camera.protocol = e.session.camera.protocol :=
    congrArg (fun c => c.protocol) hcamera
  have hshutter : d.session.camera.shutter = e.session.camera.shutter :=
    congrArg (fun c => c.shutter) hcamera
  have hset : ∀ ev, ({ d with preBulbShutter := 0 }.setShutter ev).check.shown =
      ({ e with preBulbShutter := 0 }.setShutter ev).check.shown := fun ev =>
    (check_blind.comp ((setShutter_blind ev).comp (preBulbShutter_blind fun _ => 0))).congr h
  unfold manualMode
  by_cases hoff : d.modeSwitch = false
  · simp only [if_pos hoff, if_pos (hswitch.symm.trans hoff)]
    exact (returned_blind .ok).congr h
  · by_cases hout : d.session.camera.inBulbMode = false
    · simp only [if_neg hoff, if_neg fun he => hoff (hswitch.trans he), if_pos hout,
        if_pos (hbulb.symm.trans hout)]
      exact (returned_blind .ok).congr h
    · have hpre := hsame (Bool.eq_true_of_not_eq_false hoff) (Bool.eq_true_of_not_eq_false hout)
      simp only [if_neg hoff, if_neg fun he => hoff (hswitch.trans he), if_neg hout,
        if_neg fun he => hout (hbulb.trans he)]
      cases hp : d.session.camera.protocol with
      | eos =>
          simp only [hp] at hpre
          simp only [← hprotocol, hp, ← hpre]
          by_cases hnone : d.preBulbShutter ≠ 0
          · simp only [if_pos hnone]
            exact hset _
          · simp only [if_neg hnone, ← hshutter]
            split
            · exact (setShutter_blind 69).congr h
            · exact (setEosMode_blind 0x03).congr h
      | nikon =>
          simp only [hp] at hpre
          simp only [← hprotocol, hp, ← hpre]
          exact hset _
      | sony =>
          simp only [hp] at hpre
          simp only [← hprotocol, hp, ← hpre]
          exact hset _
      | _ =>
          simp only [← hprotocol, hp]
          exact check_blind.congr h

/-- What the captures leave shows what it does without the rest. -/
theorem ofControl_shown (d : Device) (c : Control) :
    (d.ofControl c).shown = d.shown.ofControl c.shown := rfl

theorem goOn_blind : Blind shown (Option.map shown) goOn := by
  intro d
  have hset : d.shown.set = d.set := rfl
  have hchanging : d.shown.changing = d.changing := rfl
  unfold goOn
  rw [hset, hchanging]
  by_cases hidle : d.set ≠ .idle
  · simp only [if_pos hidle, Option.map_map]
    refine map_eq_map_of_view Setters.shown (Setters.goOn_blind d.setters)
      fun a b ha hb hab => ?_
    simp only [Function.comp_apply]
    rw [ofSetters_shown d (Setters.goOn_protocol ha),
      ofSetters_shown d.shown (Setters.goOn_protocol hb), shown_shown, hab]
  · simp only [if_neg hidle]
    split
    · exact congrArg some (blind_id { d with changing := _, returned := _ })
    · simp only [Option.map_map]
      refine map_eq_map_of_view Deed.shown (Control.goOn_blind d.control) fun a b _ _ hab => ?_
      simp only [Function.comp_apply]
      rw [ofControl_shown, ofControl_shown, shown_shown]
      exact congrArg d.shown.ofControl hab

theorem free_congr {d e : Device} (h : d.shown = e.shown) : d.Free ↔ e.Free := by
  have htask : d.session.task = e.session.task := congrArg (fun f => f.session.task) h
  have hcall : d.call = e.call := congrArg (fun f => f.call) h
  have hset : d.set = e.set := congrArg (fun f => f.set) h
  have hchanging : d.changing = e.changing := congrArg (fun f => f.changing) h
  unfold Free
  rw [htask, hcall, hset, hchanging]

/-- A call that is made where one can be made. -/
theorem free_map {d e : Device} (h : d.shown = e.shown) {f : Device → Device}
    (hf : (f d).shown = (f e).shown) :
    (if d.Free then some (f d) else none).map shown =
      (if e.Free then some (f e) else none).map shown := by
  by_cases hd : d.Free
  · rw [if_pos hd, if_pos ((free_congr h).mp hd)]
    exact congrArg some hf
  · rw [if_neg hd, if_neg fun he => hd ((free_congr h).mpr he)]

/-- A capture that is called from states that show the same. -/
theorem start_congr {d e : Device} (h : d.shown = e.shown) (m : Move) {mode : Device → Device}
    (hstep : (d.control.step m).map Deed.shown = (e.control.step m).map Deed.shown)
    (hmode : ∀ a b, d.control.step m = some a → e.control.step m = some b →
      (d.ofControl a.control).shown = (e.ofControl b.control).shown →
      (mode (d.ofControl a.control)).shown = (mode (e.ofControl b.control)).shown) :
    (d.start m mode).map shown = (e.start m mode).map shown := by
  unfold start
  by_cases hd : d.Free
  · rw [if_pos hd, if_pos ((free_congr h).mp hd)]
    simp only [Control.next, Option.map_map]
    refine map_eq_map_of_view Deed.shown hstep fun a b ha hb hab => ?_
    refine hmode a b ha hb ?_
    rw [ofControl_shown, ofControl_shown, h]
    exact congrArg e.shown.ofControl hab
  · rw [if_neg hd, if_neg fun he => hd ((free_congr h).mpr he)]

/-- What does not show makes no difference to a step of both. -/
def Same (p : Device × Device) : DeviceMove → Prop
  | .session l => p.1.session.Same p.2.session l
  | .manualMode => p.1.SameShutter p.2
  | .capture => p.1.SameShutter p.2
  | .moveFocus _ _ => p.1.session.camera.protocol = .eos →
      p.1.session.camera.modeLiveView = p.2.session.camera.modeLiveView
  | _ => True

/-- The mode is changed in the state that the capture was called from. -/
theorem sameShutter_capture {d e : Device} (h : d.SameShutter e) {a b : Deed}
    (ha : d.control.step .capture = some a) (hb : e.control.step .capture = some b) :
    (d.ofControl a.control).SameShutter (e.ofControl b.control) := by
  simp only [Control.step] at ha hb
  split at ha
  · cases ha
    split at hb
    · cases hb
      exact h
    · cases hb
  · cases ha

/-- A step of the session keeps the protocol, and so what shows of the mask. -/
theorem session_shown (d : Device) {l : Label} {o : Outcome} (hl : Control.stays l = true)
    (ho : d.session.step l = some o) :
    ({ d with session := o.session } : Device).shown = { d.shown with session := o.shown } := by
  have hretains : Session.retains l = true := by
    cases l <;> first | rfl | exact absurd hl Bool.false_ne_true
  have hprotocol : o.session.camera.protocol = d.session.camera.protocol :=
    congrArg Prod.fst (Session.step_dials d.session l o hretains ho)
  simp only [shown, hprotocol, Outcome.shown]

theorem next_congr (p : Device × Device) (m : DeviceMove) (h : p.1.shown = p.2.shown)
    (hsame : Same p m) : (p.1.next m).map shown = (p.2.next m).map shown := by
  rcases p with ⟨d, e⟩
  simp only at h
  have hcontrol : d.control.shown = e.control.shown := congrArg control h
  have hstep : ∀ m, (∀ l, m ≠ .session l) → (∀ i n, m ≠ .moveFocus i n) →
      (d.control.step m).map Deed.shown = (e.control.step m).map Deed.shown := fun m hs hf =>
    (Control.step_blind m hs hf).congr hcontrol
  cases m with
  | session l =>
      have hyields : d.yields l = e.yields l := by
        have hshown : d.shown.yields l = e.shown.yields l := by rw [h]
        exact hshown
      simp only [next, ← hyields]
      by_cases hd : d.yields l = true
      · have hl : Control.stays l = true := by
          simp only [yields, Bool.and_eq_true] at hd
          exact hd.1.2
        simp only [if_pos hd, Option.map_map]
        refine map_eq_map_of_view Outcome.shown
          (Session.step_congr (congrArg (fun f => f.session) h) l hl hsame) fun a b ha hb hab => ?_
        simp only [Function.comp_apply]
        rw [session_shown d hl ha, session_shown e hl hb, h, hab]
      · simp only [if_neg hd]
  | set p ev =>
      exact free_map (f := fun d => d.ofSetters (d.setters.set p ev)) h ((set_blind p ev).congr h)
  | bulbMode => exact free_map h (bulbMode_blind.congr h)
  | manualMode => exact free_map h (manualMode_congr h hsame)
  | capture =>
      exact start_congr h _ (hstep _ (fun _ => Move.noConfusion) fun _ _ => Move.noConfusion)
        fun a b ha hb hab => manualMode_congr hab (sameShutter_capture hsame ha hb)
  | bulbStart =>
      exact start_congr h _ (hstep _ (fun _ => Move.noConfusion) fun _ _ => Move.noConfusion)
        fun _ _ _ _ hab => bulbMode_blind.congr hab
  | bulbEnd =>
      exact start_congr h _ (hstep _ (fun _ => Move.noConfusion) fun _ _ => Move.noConfusion)
        fun _ _ _ _ hab => hab
  | moveFocus move steps =>
      exact start_congr h _ (Control.moveFocus_congr hcontrol move steps hsame)
        fun _ _ _ _ hab => hab
  | goOn =>
      have htask : d.session.task = e.session.task := congrArg (fun f => f.session.task) h
      simp only [next, ← htask]
      split
      · exact goOn_blind.congr h
      · rfl

end Device

/-- What is seen of the object: whether the camera is in bulb mode, the operation
    a Nikon is told to capture by, how many photos remain, the settings and what
    they can be set to, what the last setter or change of mode has returned, and
    what was sent, newest first. -/
structure Seen where
  inBulbMode : Bool
  captureOp : Option Nat
  photosRemaining : Nat
  iso : Nat
  shutter : Nat
  aperture : Nat
  isos : List Nat
  shutters : List Nat
  apertures : List Nat
  returned : Ret
  sent : List Sent
deriving DecidableEq

namespace Device

def seen (d : Device) : Seen :=
  let c := d.session.camera
  { inBulbMode := c.inBulbMode
    captureOp := if c.protocol = .nikon then some d.flags.nikonCaptureOp else none
    photosRemaining := c.photosRemaining
    iso := c.iso
    shutter := c.shutter
    aperture := c.aperture
    isos := c.isoAvail.listed
    shutters := c.shutterAvail.listed
    apertures := c.apertureAvail.listed
    returned := d.returned
    sent := d.session.driver.usb.sent }

end Device

theorem Flags.shown_nikonCaptureOp (f : Flags) :
    (f.shown .nikon).nikonCaptureOp = f.nikonCaptureOp := by
  unfold nikonCaptureOp
  by_cases htwo : f.nikonCapture &&& 2 ≠ 0
  · rw [if_pos htwo, if_pos ((shown_two f).mpr htwo)]
  · rw [if_neg htwo, if_neg fun h => htwo ((shown_two f).mp h)]
    by_cases hone : f.nikonCapture &&& 1 ≠ 0
    · rw [if_pos hone, if_pos ((shown_one f htwo).mpr hone)]
    · rw [if_neg hone, if_neg fun h => hone ((shown_one f htwo).mp h)]

namespace Device

/-- It is part of what shows. -/
theorem shown_seen (d : Device) : d.shown.seen = d.seen := by
  have hop : (if d.session.camera.protocol = .nikon then
      some (d.flags.shown d.session.camera.protocol).nikonCaptureOp else none) =
        if d.session.camera.protocol = .nikon then some d.flags.nikonCaptureOp else none := by
    split
    case isTrue hnikon => rw [hnikon, Flags.shown_nikonCaptureOp]
    case isFalse => rfl
  simp only [seen, Seen.mk.injEq]
  exact ⟨Camera.shown_inBulbMode _, hop, rfl, rfl, rfl, rfl, Table.shown_listed _,
    Table.shown_listed _, Table.shown_listed _, rfl, rfl⟩

theorem seen_congr {d e : Device} (h : d.shown = e.shown) : d.seen = e.seen := by
  rw [← shown_seen d, ← shown_seen e, h]

end Device

namespace Flags

/-- The flags but for the mask. -/
def bare (f : Flags) : Flags := { f with nikonCapture := 0 }

theorem note_blind (protocol : Protocol) (nikonUSB : Bool) (op : Nat) :
    Blind bare bare fun f => note protocol nikonUSB f op := by
  intro f
  unfold note noteEos noteNikon
  repeat' split
  all_goals rfl

theorem settle_blind : Blind bare bare settle := by
  intro f
  unfold settle
  have hrel : f.bare.bulbSupport = f.bulbSupport := rfl
  rw [hrel]
  split <;> rfl

/-- The mask is all that `init` does not make anew. -/
theorem initFlags_bare (protocol : Protocol) (nikonUSB : Bool) (before before' : Nat)
    (ops : List Nat) :
    (initFlags protocol nikonUSB before ops).bare =
      (initFlags protocol nikonUSB before' ops).bare :=
  (settle_blind.comp (Blind.foldl (note_blind protocol nikonUSB) (fun _ => rfl) ops)).congr rfl

/-- The capture the mask stands for, as a bit. -/
theorem shown_nikonCapture (f : Flags) : (f.shown .nikon).nikonCapture =
    if f.nikonCaptureOp = nikonOcCapture2 then 2
    else if f.nikonCaptureOp = nikonOcCapture then 1 else 0 := by
  have hone : nikonOcCapture ≠ nikonOcCapture2 := by decide
  have htwo : ptpOcCapture ≠ nikonOcCapture2 := by decide
  have hthree : ptpOcCapture ≠ nikonOcCapture := by decide
  simp only [shown, nikonCaptureOp, ne_eq, not_true_eq_false, if_false]
  grind

/-- Flags that differ in the mask show the same if it stands for the same capture. -/
theorem shown_congr {f g : Flags} (h : f.bare = g.bare) (protocol : Protocol)
    (hop : protocol = .nikon → f.nikonCaptureOp = g.nikonCaptureOp) :
    f.shown protocol = g.shown protocol := by
  have hmask : (f.shown protocol).nikonCapture = (g.shown protocol).nikonCapture := by
    by_cases hnikon : protocol = .nikon
    · rw [hnikon, shown_nikonCapture, shown_nikonCapture, hop hnikon]
    · simp only [shown, if_pos hnikon]
  calc f.shown protocol = { f.bare with nikonCapture := (f.shown protocol).nikonCapture } := rfl
    _ = { g.bare with nikonCapture := (g.shown protocol).nikonCapture } := by rw [h, hmask]
    _ = g.shown protocol := rfl

end Flags

/-- The mask an earlier camera has left stands for the same capture, when the
    operations listed are added to it. -/
def SameMask (nikonUSB : Bool) (ops : List Nat) (before before' : Nat) : Prop :=
  let two mask := mask &&& 2 ≠ 0 ∨ nikonUSB = true ∧ nikonOcCapture ∈ ops
  let one mask := mask &&& 1 ≠ 0 ∨ nikonUSB = true ∧ nikonOcCapture2 ∈ ops
  (two before ↔ two before') ∧ (¬ two before → (one before ↔ one before'))

theorem nikonCaptureOp_eq_iff (nikonUSB : Bool) (ops : List Nat) (before before' : Nat) :
    (initFlags .nikon nikonUSB before ops).nikonCaptureOp =
      (initFlags .nikon nikonUSB before' ops).nikonCaptureOp ↔
    SameMask nikonUSB ops before before' := by
  have htwo : ∀ b, _ := fun b =>
    initFlags_nikonCapture nikonUSB b ops 2 nikonOcCapture (.inl ⟨rfl, rfl⟩)
  have hone : ∀ b, _ := fun b =>
    initFlags_nikonCapture nikonUSB b ops 1 nikonOcCapture2 (.inr ⟨rfl, rfl⟩)
  have hcodes : nikonOcCapture ≠ nikonOcCapture2 ∧ ptpOcCapture ≠ nikonOcCapture2 ∧
      ptpOcCapture ≠ nikonOcCapture := by decide
  simp only [Flags.nikonCaptureOp, SameMask, htwo, hone]
  grind

/-- What two objects have to agree in when the next camera is connected: whether the
    last mode was bulb, how many photos remained, and for a Nikon the mask. -/
structure Agree (protocol : Protocol) (nikonUSB : Bool) (ops : List Nat) (d e : Device) : Prop where
  mode : d.session.camera.modePTP = 0x04 ↔ e.session.camera.modePTP = 0x04
  photos : d.session.camera.photosRemaining = e.session.camera.photosRemaining
  mask : protocol = .nikon → SameMask nikonUSB ops d.flags.nikonCapture e.flags.nikonCapture

namespace Device

section Connect

variable (d e : Device) (driver : Driver) (protocol : Protocol) (nikonUSB modeSwitch : Bool)
  (ops : List Nat)

/-- Once the camera is connected nothing is left to see that they do not agree in. -/
theorem connect_shown (h : Agree protocol nikonUSB ops d e) :
    (d.connect driver protocol nikonUSB modeSwitch ops).shown =
      (e.connect driver protocol nikonUSB modeSwitch ops).shown := by
  have hbare := Flags.initFlags_bare protocol nikonUSB d.flags.nikonCapture e.flags.nikonCapture ops
  have hflags := Flags.shown_congr hbare protocol fun hnikon => by
    rw [hnikon]
    exact (nikonCaptureOp_eq_iff nikonUSB ops _ _).mpr (h.mask hnikon)
  have hsupports : (initFlags protocol nikonUSB d.flags.nikonCapture ops).supports =
      (initFlags protocol nikonUSB e.flags.nikonCapture ops).supports :=
    congrArg (fun f => f.supports) hbare
  have hmode := modeShown_eq_iff.mpr h.mode
  have hphotos := h.photos
  have hempty : ∀ {cap : Nat} (t u : Table cap),
      ({ t with count := 0 } : Table cap).shown = ({ u with count := 0 } : Table cap).shown :=
    fun _ _ => Table.shown_eq_iff.mpr ⟨rfl, fun i hi => absurd hi (Nat.not_lt_zero i)⟩
  have hcamera : ∀ ready live live' recording recording' : Bool,
      ({ (d.session.close.init protocol (initFlags protocol nikonUSB d.flags.nikonCapture
          ops).supports).camera with
        ready := ready, modeLiveView := live, recording := recording } : Camera).shown =
      ({ (e.session.close.init protocol (initFlags protocol nikonUSB e.flags.nikonCapture
          ops).supports).camera with
        ready := ready, modeLiveView := live', recording := recording' } : Camera).shown := by
    intro ready live live' recording recording'
    simp only [Session.init, Session.close, Camera.shown, hsupports, hmode, hphotos,
      hempty d.session.camera.isoAvail e.session.camera.isoAvail,
      hempty d.session.camera.shutterAvail e.session.camera.shutterAvail,
      hempty d.session.camera.apertureAvail e.session.camera.apertureAvail]
  have hsession : (d.connect driver protocol nikonUSB modeSwitch ops).session.shown =
      (e.connect driver protocol nikonUSB modeSwitch ops).session.shown :=
    congrArg (fun c => Session.mk c (greet driver (greetings protocol)).2 .idle 0 0)
      (hcamera _ _ _ _ _)
  have hleft : (d.connect driver protocol nikonUSB modeSwitch ops).shown =
      { (e.connect driver protocol nikonUSB modeSwitch ops).shown with
        session := (d.connect driver protocol nikonUSB modeSwitch ops).session.shown
        flags := (initFlags protocol nikonUSB d.flags.nikonCapture ops).shown protocol } := rfl
  rw [hleft, hsession, hflags]
  rfl

theorem agree_of_seen (h : (d.connect driver protocol nikonUSB modeSwitch ops).seen =
    (e.connect driver protocol nikonUSB modeSwitch ops).seen) :
    Agree protocol nikonUSB ops d e := by
  refine ⟨?_, congrArg (fun s => s.photosRemaining) h, fun hnikon => ?_⟩
  · have hbulb := congrArg (fun s => s.inBulbMode) h
    have hmode : ∀ f : Device, (f.connect driver protocol nikonUSB modeSwitch ops).seen.inBulbMode =
        decide (f.session.camera.modePTP = 0x04) := by
      intro f
      have hshutter :
          (f.connect driver protocol nikonUSB modeSwitch ops).session.camera.shutter = 0 := rfl
      simp only [seen, Camera.inBulbMode, hshutter]
      have hbulb : (0 : Nat) ≠ bulbEvCode := by decide
      simp only [hbulb, or_false]
      rfl
    simp only [hmode] at hbulb
    exact decide_eq_decide.mp hbulb
  · have hop := congrArg (fun s => s.captureOp) h
    rw [hnikon] at hop
    exact (nikonCaptureOp_eq_iff nikonUSB ops _ _).mp (Option.some.inj hop)

end Connect

/-- A Canon that lets itself be connected, and then tells that it is in bulb mode. -/
def bulbAnswers : List Answer :=
  [⟨noError, noError, [okResponse]⟩, ⟨noError, noError, [okResponse]⟩,
    ⟨noError, noError, [dataContainer eosOcEventGet (encode32 16 ++ encode32 eosEcPropertyChange ++
      encode32 eosDpcMode ++ encode32 0x04), okResponse]⟩]

end Device

end Ptp

end TimelapsePlus
