import TimelapsePlus.Ptp.Reconnection

/-!
# The Shutter Speed to Go Back To

`bulbMode` keeps the shutter speed that it takes the camera from, so that
`manualMode` can go back to it. `bulbStart` calls the one and `capture` the other,
and in between the camera tells by itself what it is set to.

Beside the object stands how bulb was last entered: the shutter speed at the
time, whether the camera has bulb as a mode of its own, and whether `manualMode`
has left bulb since. Nothing looks at it.

A camera that has bulb among its shutter speeds goes back to the one it had. A
Canon that has bulb as a mode is put into its manual mode, and its shutter is not
set. What is kept is given up when it is used: a camera that comes into bulb by
itself after that is set to 1/400.

A Sony camera is moved to the value in several steps. It is taken to be there when
the call succeeds.

## Main definitions

* `Setters.Turning`: A call that moves the shutter of a Sony camera.
* `Device.Enters`, `Device.Leaves`: `bulbMode` and `manualMode` do something.
* `Entry`: How bulb was last entered.
* `Noted`: The object, and the entry.
* `Device.SetsShutter`: The shutter is set to a value.
* `Device.FallsBack`: The camera leaves bulb with nothing to go back to.
* `Entry.Kept`: What `manualMode` goes back to is what the entry says.
* `Noted.Restores`: `manualMode` goes back to the value of the entry.

## Theorems

* `shutterEv_shutterEvPTP`: A value that was read can be set.
* `bulbMode_ground`, `manualMode_ground`, `next_ground`: What a step makes of what
  `manualMode` goes back to.
* `run_turning`: Where a Sony camera is taken to be when the call succeeds.
* `setShutter_sets`, `manualMode_sets`, `manualMode_fallsBack`: The calls.
* `next_entry`, `run_entry`: What is kept along a run.
* `manualMode_restores`: When `manualMode` goes back to the value, and what it
  does when it does not.
* `manualMode_not_restores`: It need not.
-/

namespace TimelapsePlus

namespace Ptp

open Word Usb

/-- A value that was read from the camera can be set. -/
theorem shutterEv_shutterEvPTP {o : PropertyOffset} {id : Nat} (hne : shutterEv o id ≠ 0) :
    shutterEv o (shutterEvPTP o (shutterEv o id)) = shutterEv o id :=
  congrArg (shutterEv o) (shutterEvPTP_shutterEv hne)

namespace Setters

/-- A call that moves the shutter of a Sony camera: the value it is for, and what is kept
    when it has succeeded. -/
def Turning (v : Nat) (c : Setters) : Prop :=
  c.session.camera.protocol = .sony ∧
  match c.call with
  | .idle => c.returned = .ok → c.session.camera.shutterPTP = shutterEvPTP .sony v
  | .turn p ev _ => p = .shutter ∧ ev = v
  | .poll p ev _ _ _ => p = .shutter ∧ ev = v
  | .look p ev _ _ _ => p = .shutter ∧ ev = v

/-- A call that has not returned does not mind what the session does. -/
theorem Turning.of_session {v : Nat} {c : Setters} (h : c.Turning v) (hcall : c.call ≠ .idle)
    (s : Session) (hsony : s.camera.protocol = .sony) : Turning v { c with session := s } := by
  refine ⟨hsony, ?_⟩
  have hset := h.2
  cases hs : c.call with
  | idle => exact absurd hs hcall
  | _ =>
      rw [hs] at hset
      exact hset

theorem goOn_turning {v : Nat} {c c' : Setters} (h : c.Turning v) (hc : c.goOn = some c') :
    c'.Turning v := by
  have hsony := (goOn_protocol hc).trans h.1
  have hcall := h.2
  unfold goOn at hc
  cases hs : c.call with
  | idle =>
      rw [hs] at hc
      cases hc
  | turn p ev j =>
      rw [hs] at hc hcall
      rcases hcall with ⟨rfl, rfl⟩
      cases hc
      revert hsony
      unfold turn
      dsimp only
      split
      · -- It is there, or has been moved as often as it may be; the value is kept.
        refine fun hsony => ⟨hsony, fun _ => ?_⟩
        exact congrArg (fun o => shutterEvPTP o ev) (congrArg Protocol.propertyOffset h.1)
      · split
        · exact fun hsony => ⟨hsony, fun hok => by cases hok⟩
        · exact fun hsony => ⟨hsony, rfl, rfl⟩
  | poll p ev j i before =>
      rw [hs] at hc hcall
      cases hc
      exact ⟨hsony, hcall⟩
  | look p ev j i before =>
      rw [hs] at hc hcall
      cases hc
      revert hsony
      split
      · exact fun hsony => ⟨hsony, hcall⟩
      · split
        · exact fun hsony => ⟨hsony, hcall⟩
        · exact fun hsony => ⟨hsony, fun hok => by cases hok⟩

end Setters

namespace Control

theorem bulbEndSend_protocol (c : Control) :
    c.bulbEndSend.control.session.camera.protocol = c.session.camera.protocol := by
  unfold bulbEndSend
  repeat' split
  all_goals simp only [send]
  all_goals first | rfl | (split <;> rfl)

/-- A call that goes on stays with its camera. -/
theorem goOn_protocol {c : Control} {r : Deed} (h : c.goOn = some r) :
    r.control.session.camera.protocol = c.session.camera.protocol := by
  unfold goOn at h
  cases hcall : c.call with
  | idle =>
      rw [hcall] at h
      cases h
  | bulbStart =>
      rw [hcall] at h
      cases h
      unfold bulbStartSend
      repeat' split
      all_goals rfl
  | capture =>
      rw [hcall] at h
      cases h
      unfold captureSend
      repeat' split
      all_goals rfl
  | focus move steps =>
      rw [hcall] at h
      cases h
      unfold focusSend
      repeat' split
      all_goals rfl
  | _ =>
      rw [hcall] at h
      cases h
      rfl

theorem next_capture {c c' : Control} (h : c.next .capture = some c') :
    c' = { c with call := .capture } := by
  simp only [next, step] at h
  split at h
  · cases h
    rfl
  · cases h

theorem next_bulbEnd {c c' : Control} (h : c.next .bulbEnd = some c') :
    c' = { c with session.camera.busy := true }.bulbEndSend.control := by
  simp only [next, step] at h
  split at h
  · cases h
    rfl
  · cases h

theorem next_moveFocus {c c' : Control} {move : Int} {steps : Nat}
    (h : c.next (.moveFocus move steps) = some c') :
    c' = { c with call := .focus move steps } := by
  simp only [next, step] at h
  split at h
  · cases h
    rfl
  · cases h

theorem next_bulbStart {c c' : Control} (h : c.next .bulbStart = some c') :
    c' = { c with
      session.camera.bulbOpen := true
      session.camera.busy := true
      call := .bulbStart } := by
  simp only [next, step] at h
  split at h
  · cases h
    rfl
  · cases h

end Control

namespace Device

/-- The user lets the mode be changed, and the camera is one that it can be changed
    for. -/
def Switches (d : Device) : Prop :=
  d.modeSwitch = true ∧ d.session.camera.protocol ∈ [.eos, .nikon, .sony]

/-- `bulbMode` takes the camera into bulb. -/
def Enters (d : Device) : Prop := d.Switches ∧ d.session.camera.inBulbMode = false

/-- `manualMode` takes it out. -/
def Leaves (d : Device) : Prop := d.Switches ∧ d.session.camera.inBulbMode = true

/-- The camera has bulb as a mode, and not as a shutter speed. -/
def Dials (d : Device) : Prop :=
  d.session.camera.protocol = .eos ∧ bulbEvCode ∉ d.session.camera.shutterAvail.listed

instance (d : Device) : Decidable d.Switches := inferInstanceAs (Decidable (_ ∧ _))
instance (d : Device) : Decidable d.Enters := inferInstanceAs (Decidable (_ ∧ _))
instance (d : Device) : Decidable d.Leaves := inferInstanceAs (Decidable (_ ∧ _))
instance (d : Device) : Decidable d.Dials := inferInstanceAs (Decidable (_ ∧ _))

end Device

/-- How bulb was last entered through `bulbMode`: the value the shutter was at,
    whether bulb is a mode of the camera, and whether `manualMode` has left bulb
    since. -/
structure Entry where
  value : Nat
  dial : Bool
  left : Bool
deriving DecidableEq

/-- The value is one the firmware knows. It is not bulb, as bulb is not entered
    from bulb. -/
def Entry.Known (e : Entry) : Prop := e.value ≠ 0 ∧ e.value ≠ 0xFF ∧ e.value ≠ bulbEvCode

instance (e : Entry) : Decidable e.Known := inferInstanceAs (Decidable (_ ∧ _))

namespace Device

/-- What a move makes of the entry. -/
def note (d : Device) (m : DeviceMove) (entry : Option Entry) : Option Entry :=
  let entered := if d.Enters then some ⟨d.session.camera.shutter, decide d.Dials, false⟩ else entry
  let left := if d.Leaves then entry.map fun e => { e with left := true } else entry
  match m with
  | .bulbMode => entered
  | .bulbStart => entered
  | .manualMode => left
  | .capture => left
  | _ => entry

end Device

/-- The object, and how bulb was last entered. -/
structure Noted where
  device : Device
  entry : Option Entry

/-- One step, if it can be taken. -/
def Noted.next (t : Noted) (m : DeviceMove) : Option Noted :=
  (t.device.next m).map fun d => ⟨d, t.device.note m t.entry⟩

namespace Device

/-- The setter that has been called has not returned yet. -/
def InCall (d : Device) (_ : DeviceMove) : Prop := d.set ≠ .idle

/-- The shutter is set to a value: a Canon or a Nikon is sent the code that stands
    for it, which is kept. For a Sony camera a call is begun, and when it succeeds
    the code is kept. -/
def SetsShutter (d d' : Device) (v : Nat) : Prop :=
  let o := d.session.camera.protocol.propertyOffset
  let code := shutterEvPTP o v
  shutterEv o code = v ∧
  match Setting.shutter.demand code d.session.camera.protocol with
  | some q => q.value = code ∧ d'.session.driver = (d.session.driver.demand q).2 ∧
      d'.session.camera.shutterPTP = code
  | none => d'.set = .turn .shutter v 0 ∧ ∀ c, Run next InCall d' c → c.set = .idle →
      c.returned = .ok → c.session.camera.shutterPTP = code

/-- There is nothing to go back to: a Canon whose shutter is not at bulb is put into
    its manual mode, and all else is set to 1/400. -/
def FallsBack (d d' : Device) : Prop :=
  if d.session.camera.protocol = .eos ∧ d.session.camera.shutter ≠ bulbEvCode then
    d' = d.setEosMode 0x03
  else d.SetsShutter d' 69

/-- What `manualMode` goes back to after a move. -/
def keptAfter (d : Device) (m : DeviceMove) : Nat :=
  let entered := if d.Enters then if d.Dials then 0 else d.session.camera.shutter
    else d.preBulbShutter
  let left := if d.Leaves then 0 else d.preBulbShutter
  match m with
  | .bulbMode => entered
  | .bulbStart => entered
  | .manualMode => left
  | .capture => left
  | _ => d.preBulbShutter

/-- The protocol, whether the mode may be changed, and what `manualMode` goes back to. -/
def ground (d : Device) : Protocol × Bool × Nat :=
  (d.session.camera.protocol, d.modeSwitch, d.preBulbShutter)

/-- They are left alone, but for what `manualMode` goes back to. -/
def groundAfter (d : Device) (m : DeviceMove) : Protocol × Bool × Nat :=
  (d.session.camera.protocol, d.modeSwitch, d.keptAfter m)

theorem ofSetters_ground (d : Device) {c : Setters}
    (h : c.session.camera.protocol = d.session.camera.protocol) :
    (d.ofSetters c).ground = d.ground :=
  Prod.ext h rfl

theorem setShutter_ground (d : Device) (ev : Nat) : (d.setShutter ev).ground = d.ground :=
  ofSetters_ground d (congrArg Prod.fst (Setters.set_lists d.setters .shutter ev))

theorem bulbMode_ground (d : Device) : d.bulbMode.ground = d.groundAfter .bulbMode := by
  unfold bulbMode groundAfter keptAfter
  dsimp only
  by_cases hoff : d.modeSwitch = false
  · have hstays : ¬ d.Enters := fun h => Bool.false_ne_true (hoff.symm.trans h.1.1)
    rw [if_pos hoff, if_neg hstays]
    rfl
  · rw [if_neg hoff]
    by_cases hin : d.session.camera.inBulbMode = true
    · have hstays : ¬ d.Enters := fun h => Bool.false_ne_true (h.2.symm.trans hin)
      rw [if_pos hin, if_neg hstays]
      rfl
    · rw [if_neg hin]
      have henters : ∀ p ∈ [Protocol.eos, .nikon, .sony], d.session.camera.protocol = p →
          d.Enters := fun p hmem hp =>
        ⟨⟨Bool.eq_true_of_not_eq_false hoff, hp ▸ hmem⟩, Bool.eq_false_of_not_eq_true hin⟩
      cases hp : d.session.camera.protocol with
      | eos =>
          rw [if_pos (henters _ (by decide) hp)]
          by_cases hbulb : bulbEvCode ∈ d.session.camera.shutterAvail.listed
          · have hshutter : ¬ d.Dials := fun h => h.2 hbulb
            simp only [if_pos hbulb, if_neg hshutter]
            exact (setShutter_ground _ _).trans (congrArg (·, _) hp)
          · -- Bulb is a mode, and what was kept is given up.
            have hdial : d.Dials := ⟨hp, hbulb⟩
            simp only [if_neg hbulb, if_pos hdial]
            exact congrArg (·, _) hp
      | nikon =>
          have hshutter : ¬ d.Dials := fun h => by cases hp.symm.trans h.1
          rw [if_pos (henters _ (by decide) hp), if_neg hshutter]
          exact congrArg (·, _) hp
      | sony =>
          have hshutter : ¬ d.Dials := fun h => by cases hp.symm.trans h.1
          rw [if_pos (henters _ (by decide) hp), if_neg hshutter]
          exact (setShutter_ground _ _).trans (congrArg (·, _) hp)
      | _ =>
          have hstays : ¬ d.Enters := fun h => absurd (hp ▸ h.1.2) (by decide)
          rw [if_neg hstays]
          exact congrArg (·, _) hp

theorem manualMode_ground (d : Device) : d.manualMode.ground = d.groundAfter .manualMode := by
  unfold manualMode groundAfter keptAfter
  dsimp only
  by_cases hoff : d.modeSwitch = false
  · have hstays : ¬ d.Leaves := fun h => Bool.false_ne_true (hoff.symm.trans h.1.1)
    rw [if_pos hoff, if_neg hstays]
    rfl
  · rw [if_neg hoff]
    by_cases hout : d.session.camera.inBulbMode = false
    · have hstays : ¬ d.Leaves := fun h => Bool.false_ne_true (hout.symm.trans h.2)
      rw [if_pos hout, if_neg hstays]
      rfl
    · rw [if_neg hout]
      have hleaves : ∀ p ∈ [Protocol.eos, .nikon, .sony], d.session.camera.protocol = p →
          d.Leaves := fun p hmem hp =>
        ⟨⟨Bool.eq_true_of_not_eq_false hoff, hp ▸ hmem⟩, Bool.eq_true_of_not_eq_false hout⟩
      cases hp : d.session.camera.protocol with
      | eos =>
          rw [if_pos (hleaves _ (by decide) hp)]
          by_cases hkept : d.preBulbShutter ≠ 0
          · simp only [if_pos hkept]
            exact (setShutter_ground _ _).trans (congrArg (·, _) hp)
          · -- Nothing was kept, and nothing is.
            have hnone : d.preBulbShutter = 0 := Decidable.not_not.mp hkept
            simp only [if_neg hkept]
            split
            · refine (setShutter_ground _ _).trans ?_
              rw [ground, hp, hnone]
            · refine Eq.trans (b := d.ground) rfl ?_
              rw [ground, hp, hnone]
      | nikon =>
          rw [if_pos (hleaves _ (by decide) hp)]
          exact (setShutter_ground _ _).trans (congrArg (·, _) hp)
      | sony =>
          rw [if_pos (hleaves _ (by decide) hp)]
          exact (setShutter_ground _ _).trans (congrArg (·, _) hp)
      | _ =>
          have hstays : ¬ d.Leaves := fun h => absurd (hp ▸ h.1.2) (by decide)
          rw [if_neg hstays]
          exact congrArg (·, _) hp

/-- A call can be made, and is. -/
theorem called {d d' e : Device} (h : (if d.Free then some e else none) = some d') :
    d.Free ∧ e = d' :=
  (Option.ite_none_right_eq_some.mp h).imp_right Option.some.inj

/-- A capture begins in the state it is called from. -/
theorem start_eq_some {d d' : Device} {m : Move} {mode : Device → Device}
    (h : d.start m mode = some d') :
    d.Free ∧ ∃ c, d.control.next m = some c ∧ d' = mode (d.ofControl c) := by
  unfold start at h
  split at h
  case isTrue hfree =>
    rw [Option.map_eq_some_iff] at h
    rcases h with ⟨c, hc, rfl⟩
    exact ⟨hfree, c, hc, rfl⟩
  case isFalse => cases h

/-- What a step makes of what `manualMode` goes back to. -/
theorem next_ground {d d' : Device} (m : DeviceMove) (h : d.next m = some d') :
    d'.ground = d.groundAfter m := by
  cases m with
  | session l =>
      simp only [next] at h
      split at h
      case isTrue hyields =>
        rw [Option.map_eq_some_iff] at h
        rcases h with ⟨o, ho, rfl⟩
        have hretains : Session.retains l = true := by
          have hl : Control.stays l = true := by
            simp only [yields, Bool.and_eq_true] at hyields
            exact hyields.1.2
          cases l <;> first | rfl | exact absurd hl Bool.false_ne_true
        have hprotocol : o.session.camera.protocol = d.session.camera.protocol :=
          congrArg Prod.fst (Session.step_dials d.session l o hretains ho)
        exact Prod.ext hprotocol rfl
      case isFalse => cases h
  | set p ev =>
      rw [← (called h).2]
      exact ofSetters_ground d (congrArg Prod.fst (Setters.set_lists d.setters p ev))
  | bulbMode =>
      rw [← (called h).2]
      exact bulbMode_ground d
  | manualMode =>
      rw [← (called h).2]
      exact manualMode_ground d
  | capture =>
      rcases start_eq_some h with ⟨-, c, hc, rfl⟩
      -- The mode is changed in the state the capture was called from.
      rw [manualMode_ground, Control.next_capture hc]
      rfl
  | bulbStart =>
      rcases start_eq_some h with ⟨-, c, hc, rfl⟩
      rw [bulbMode_ground, Control.next_bulbStart hc]
      rfl
  | bulbEnd =>
      rcases start_eq_some h with ⟨-, c, hc, rfl⟩
      rw [Control.next_bulbEnd hc]
      exact Prod.ext (Control.bulbEndSend_protocol _) rfl
  | moveFocus move steps =>
      rcases start_eq_some h with ⟨-, c, hc, rfl⟩
      rw [Control.next_moveFocus hc]
      rfl
  | goOn =>
      simp only [next] at h
      split at h
      · unfold goOn at h
        split at h
        · rw [Option.map_eq_some_iff] at h
          rcases h with ⟨c, hc, rfl⟩
          exact ofSetters_ground d (Setters.goOn_protocol hc)
        · split at h
          · cases h
            rfl
          · rw [Option.map_eq_some_iff] at h
            rcases h with ⟨r, hr, rfl⟩
            exact Prod.ext (Control.goOn_protocol hr) rfl
      · cases h

/-- What a step of a call that has not returned makes of it. -/
theorem next_turning {v : Nat} {d d' : Device} (m : DeviceMove) (h : d.setters.Turning v)
    (hcall : d.InCall m) (hstep : d.next m = some d') : d'.setters.Turning v := by
  have hprotocol : d'.session.camera.protocol = .sony :=
    (congrArg Prod.fst (next_ground m hstep)).trans h.1
  -- No other call can be made before this one has returned.
  have hbusy : ¬ d.Free := fun hfree => hcall hfree.2.2.1
  cases m with
  | session l =>
      simp only [next] at hstep
      split at hstep
      · rw [Option.map_eq_some_iff] at hstep
        rcases hstep with ⟨o, -, rfl⟩
        exact h.of_session hcall o.session hprotocol
      · cases hstep
  | goOn =>
      simp only [next] at hstep
      split at hstep
      · have hset : d.set ≠ .idle := hcall
        rw [goOn, if_pos hset, Option.map_eq_some_iff] at hstep
        rcases hstep with ⟨c, hc, rfl⟩
        have hturning : c.Turning v := Setters.goOn_turning h hc
        exact hturning
      · cases hstep
  | set p ev => exact absurd (called hstep).1 hbusy
  | bulbMode => exact absurd (called hstep).1 hbusy
  | manualMode => exact absurd (called hstep).1 hbusy
  | _ => exact absurd (start_eq_some hstep).1 hbusy

/-- A Sony camera is taken to be at the value when the call that moves its shutter
    succeeds. -/
theorem run_turning {v : Nat} {d d' : Device} (h : Run next InCall d d')
    (hstart : d.setters.Turning v) : d'.setters.Turning v :=
  h.invariant (fun c => c.setters.Turning v) (fun _ m _ hc => next_turning m hc) hstart

/-- `setShutter` sets a value that can be set, whatever is done besides. -/
theorem setShutter_sets {d d' : Device} {v : Nat} (hswitches : d.Switches) (hne : v ≠ 0xFF)
    (hev : shutterEv d.session.camera.protocol.propertyOffset
      (shutterEvPTP d.session.camera.protocol.propertyOffset v) = v)
    (hsession : d'.session = (d.setShutter v).session) (hset : d'.set = (d.setShutter v).set) :
    d.SetsShutter d' v := by
  refine ⟨hev, ?_⟩
  unfold setShutter Setters.setShutter Setters.adjust at hsession hset
  rw [if_neg hne] at hsession hset
  have hcamera : d.setters.session.camera = d.session.camera := rfl
  have hcode : d.setters.code Shifted.shutter.setting v =
      shutterEvPTP d.session.camera.protocol.propertyOffset v := rfl
  rw [hcamera, hcode] at hsession hset
  cases hp : d.session.camera.protocol with
  | eos =>
      rw [hp] at hsession
      rw [hsession]
      exact ⟨rfl, rfl, rfl⟩
  | nikon =>
      rw [hp] at hsession
      rw [hsession]
      exact ⟨rfl, rfl, rfl⟩
  | sony =>
      -- The call has only begun; the run lemma says where it ends.
      rw [hp] at hsession hset
      refine ⟨hset, fun c hrun hidle hok => ?_⟩
      have hstart : d'.setters.Turning v := by
        refine ⟨(congrArg (fun s => s.camera.protocol) hsession).trans hp, ?_⟩
        rw [show d'.setters.call = .turn .shutter v 0 from hset]
        exact ⟨rfl, rfl⟩
      have hend := (run_turning hrun hstart).2
      rw [show c.setters.call = .idle from hidle] at hend
      exact hend hok
  | _ => exact absurd (hp ▸ hswitches.2) (by decide)

/-- 1/400 is a value that can be set. -/
theorem shutterEv_69 (o : PropertyOffset) : shutterEv o (shutterEvPTP o 69) = 69 := by
  cases o <;> decide

/-- `manualMode` goes back to what is kept. -/
theorem manualMode_sets {d : Device} (h : d.Leaves) (hkept : d.preBulbShutter ≠ 0)
    (hne : d.preBulbShutter ≠ 0xFF)
    (hev : shutterEv d.session.camera.protocol.propertyOffset
      (shutterEvPTP d.session.camera.protocol.propertyOffset d.preBulbShutter) =
        d.preBulbShutter) : d.SetsShutter d.manualMode d.preBulbShutter := by
  have hoff : d.modeSwitch ≠ false := fun hoff => Bool.false_ne_true (hoff.symm.trans h.1.1)
  have hout : d.session.camera.inBulbMode ≠ false := fun hout =>
    Bool.false_ne_true (hout.symm.trans h.2)
  have hrestored : d.restored = d.preBulbShutter := if_pos hkept
  refine setShutter_sets h.1 hne hev ?_ ?_
  all_goals
    unfold manualMode
    rw [if_neg hoff, if_neg hout, hrestored]
    cases hp : d.session.camera.protocol with
    | eos =>
        simp only [if_pos hkept]
        rfl
    | nikon => rfl
    | sony => rfl
    | _ => exact absurd (hp ▸ h.1.2) (by decide)

theorem manualMode_fallsBack {d : Device} (h : d.Leaves) (hnone : d.preBulbShutter = 0) :
    d.FallsBack d.manualMode := by
  have hoff : d.modeSwitch ≠ false := fun hoff => Bool.false_ne_true (hoff.symm.trans h.1.1)
  have hout : d.session.camera.inBulbMode ≠ false := fun hout =>
    Bool.false_ne_true (hout.symm.trans h.2)
  have hkept : ¬ d.preBulbShutter ≠ 0 := fun hkept => hkept hnone
  have hrestored : d.restored = 69 := if_neg hkept
  have hsets : ∀ d', d'.session = (d.setShutter 69).session → d'.set = (d.setShutter 69).set →
      d.SetsShutter d' 69 := fun _ => setShutter_sets h.1 (by decide) (shutterEv_69 _)
  unfold FallsBack manualMode
  rw [if_neg hoff, if_neg hout, hrestored]
  cases hp : d.session.camera.protocol with
  | eos =>
      simp only [if_neg hkept]
      by_cases hshutter : d.session.camera.shutter = bulbEvCode
      · rw [if_pos hshutter, if_neg fun hdial => hdial.2 hshutter]
        exact hsets _ rfl rfl
      · rw [if_neg hshutter, if_pos ⟨trivial, hshutter⟩]
  | nikon =>
      rw [if_neg fun hdial => by cases hdial.1]
      exact hsets _ rfl rfl
  | sony =>
      rw [if_neg fun hdial => by cases hdial.1]
      exact hsets _ rfl rfl
  | _ => exact absurd (hp ▸ h.1.2) (by decide)

end Device

/-- What is kept is the value of the entry, unless bulb is a mode of the camera or has been
    left since. -/
structure Entry.Kept (e : Entry) (d : Device) : Prop where
  switches : d.Switches
  kept : d.preBulbShutter = if e.dial ∨ e.left then 0 else e.value
  read : e.value = 0 ∨ ∃ id, e.value = shutterEv d.session.camera.protocol.propertyOffset id

namespace Device

/-- The shutter speed of a camera is one it has told, or none. -/
theorem shutter_read (c : Camera) :
    c.shutter = 0 ∨ ∃ id, c.shutter = shutterEv c.protocol.propertyOffset id := by
  unfold Camera.shutter
  split
  · exact .inr ⟨_, rfl⟩
  · exact .inl rfl

section Step

variable {d d' : Device} {entry : Option Entry} {e : Entry}

/-- A step that neither enters nor leaves bulb. -/
theorem kept_same (hswitch : d'.modeSwitch = d.modeSwitch)
    (hprotocol : d'.session.camera.protocol = d.session.camera.protocol)
    (hkept : d'.preBulbShutter = d.preBulbShutter) (h : e.Kept d) : e.Kept d' where
  switches := by
    rw [Switches, hswitch, hprotocol]
    exact h.switches
  kept := hkept.trans h.kept
  read := by
    rw [hprotocol]
    exact h.read

theorem kept_entered (hswitch : d'.modeSwitch = d.modeSwitch)
    (hprotocol : d'.session.camera.protocol = d.session.camera.protocol)
    (hkept : d'.preBulbShutter = d.keptAfter .bulbMode) (h : ∀ e, entry = some e → e.Kept d)
    (he : d.note .bulbMode entry = some e) : e.Kept d' := by
  simp only [note] at he
  simp only [keptAfter] at hkept
  by_cases henters : d.Enters
  · rw [if_pos henters] at he hkept
    cases he
    refine ⟨?_, ?_, ?_⟩
    · rw [Switches, hswitch, hprotocol]
      exact henters.1
    · simpa only [decide_eq_true_eq, Bool.false_eq_true, or_false] using hkept
    · rw [hprotocol]
      exact shutter_read d.session.camera
  · rw [if_neg henters] at he hkept
    exact kept_same hswitch hprotocol hkept (h e he)

theorem kept_left (hswitch : d'.modeSwitch = d.modeSwitch)
    (hprotocol : d'.session.camera.protocol = d.session.camera.protocol)
    (hkept : d'.preBulbShutter = d.keptAfter .manualMode) (h : ∀ e, entry = some e → e.Kept d)
    (he : d.note .manualMode entry = some e) : e.Kept d' := by
  simp only [note] at he
  simp only [keptAfter] at hkept
  by_cases hleaves : d.Leaves
  · rw [if_pos hleaves] at he hkept
    rw [Option.map_eq_some_iff] at he
    rcases he with ⟨before, hbefore, rfl⟩
    refine ⟨?_, ?_, ?_⟩
    · rw [Switches, hswitch, hprotocol]
      exact hleaves.1
    · rw [hkept, if_pos (.inr rfl)]
    · rw [hprotocol]
      exact (h before hbefore).read
  · rw [if_neg hleaves] at he hkept
    exact kept_same hswitch hprotocol hkept (h e he)

end Step

end Device

/-- What a Canon tells that a property is at. -/
def propertyEvent (item value : Nat) : List UInt8 :=
  encode32 16 ++ encode32 eosEcPropertyChange ++ encode32 item ++ encode32 value

/-- What it tells that a property can be. -/
def valuesEvent (item : Nat) (codes : List Nat) : List UInt8 :=
  encode32 (20 + 4 * codes.length) ++ encode32 eosEcPropertyValues ++ encode32 item ++
    encode32 3 ++ encode32 codes.length ++ codes.flatMap encode32

def agrees : Answer := ⟨noError, noError, [okResponse]⟩

def tells (events : List UInt8) : Answer :=
  ⟨noError, noError, [dataContainer eosOcEventGet events, okResponse]⟩

/-- A Canon with these shutter speeds that is connected, tells them, and is at the one
    whose value is 50. -/
def canon (shutters : List Nat) (answers : List Answer) : Device :=
  Device.powerUp.connect (Driver.idle ([agrees, agrees,
    tells (valuesEvent eosDpcShutter shutters ++ propertyEvent eosDpcShutter 0x4b)] ++ answers))
    .eos false true []

/-- The firmware looks for events, and there are so many. -/
def looks (events : Nat) : List DeviceMove :=
  .session (.checkEvent 0 []) :: List.replicate (events + 2) (.session .proceed)

namespace Noted

/-- What a step makes of what is kept, and of the entry. -/
theorem next_entry {t t' : Noted} (m : DeviceMove) (hstep : t.next m = some t')
    (h : ∀ e, t.entry = some e → e.Kept t.device) (e : Entry) (he : t'.entry = some e) :
    e.Kept t'.device := by
  rw [next, Option.map_eq_some_iff] at hstep
  rcases hstep with ⟨d, hd, rfl⟩
  have hground := Device.next_ground m hd
  have hprotocol : d.session.camera.protocol = t.device.session.camera.protocol :=
    congrArg Prod.fst hground
  have hswitch : d.modeSwitch = t.device.modeSwitch := congrArg (fun g => g.2.1) hground
  have hkept : d.preBulbShutter = t.device.keptAfter m := congrArg (fun g => g.2.2) hground
  cases m with
  | bulbMode => exact Device.kept_entered hswitch hprotocol hkept h he
  | bulbStart => exact Device.kept_entered hswitch hprotocol hkept h he
  | manualMode => exact Device.kept_left hswitch hprotocol hkept h he
  | capture => exact Device.kept_left hswitch hprotocol hkept h he
  | _ => exact Device.kept_same hswitch hprotocol hkept (h e he)

/-- What is kept along a run. -/
theorem run_entry {d : Device} {t : Noted} (h : Run next (fun _ _ => True) ⟨d, none⟩ t)
    (e : Entry) (he : t.entry = some e) : e.Kept t.device :=
  h.invariant (fun t => ∀ e, t.entry = some e → e.Kept t.device)
    (fun _ m _ ht _ hstep => next_entry m hstep ht) (fun _ hnone => by cases hnone) e he

/-- In bulb `manualMode` sets the shutter to the value it was at when bulb was last
    entered through `bulbMode`, if that is known. -/
def Restores (t : Noted) : Prop :=
  ∀ e d', t.entry = some e → e.Known → t.device.session.camera.inBulbMode = true →
    t.device.next .manualMode = some d' → t.device.SetsShutter d' e.value

/-- It does as long as bulb is a shutter speed of the camera and has not been left since;
    and otherwise, or if the value is not there, it has nothing to go back to. -/
theorem manualMode_restores (d : Device) (t : Noted)
    (h : Run next (fun _ _ => True) ⟨d, none⟩ t) (e : Entry) (he : t.entry = some e) :
    (e.dial = false → e.left = false → t.Restores) ∧
    (e.dial = true ∨ e.left = true ∨ e.value = 0 →
      ∀ d', t.device.session.camera.inBulbMode = true →
        t.device.next .manualMode = some d' → t.device.FallsBack d') := by
  have hkept := run_entry h e he
  constructor
  · intro hdial hleft e' d' he' hknown hin hd
    rw [he, Option.some.injEq] at he'
    rw [← he'] at hknown ⊢
    -- Bulb has not been left since, so that the value is still kept.
    have hvalue : t.device.preBulbShutter = e.value := by
      rw [hkept.kept, hdial, hleft]
      exact if_neg (by simp only [Bool.false_eq_true, or_self, not_false_eq_true])
    rcases hkept.read.resolve_left hknown.1 with ⟨id, hid⟩
    rw [← (Device.called hd).2, ← hvalue]
    refine Device.manualMode_sets ⟨hkept.switches, hin⟩ ?_ ?_ ?_
    · rw [hvalue]
      exact hknown.1
    · rw [hvalue]
      exact hknown.2.1
    · rw [hvalue, hid]
      exact shutterEv_shutterEvPTP (hid ▸ hknown.1)
  · intro hlost d' hin hd
    rw [← (Device.called hd).2]
    refine Device.manualMode_fallsBack ⟨hkept.switches, hin⟩ ?_
    rw [hkept.kept]
    split
    · rfl
    case isFalse hkeeps =>
      -- Only a value that is not there is kept as nothing.
      rcases hlost with hdial | hleft | hzero
      · exact absurd (.inl hdial) hkeeps
      · exact absurd (.inr hleft) hkeeps
      · exact hzero

/-- A Canon that has bulb as a shutter speed, and is taken into it, goes back. -/
theorem manualMode_restores_canon :
    ∃ t d', Run next (fun _ _ => True) ⟨canon [0x0c, 0x4b, 0x75] [agrees, agrees], none⟩ t ∧
      t.device.next .manualMode = some d' ∧ t.device.SetsShutter d' 50 := by
  have h : ∃ t ∈ steps next ⟨canon [0x0c, 0x4b, 0x75] [agrees, agrees], none⟩
      (looks 2 ++ [.bulbMode, .goOn]), t.entry = some ⟨50, false, false⟩ ∧
        t.device.session.camera.inBulbMode = true ∧ t.device.Free := by decide +kernel
  rcases h with ⟨t, ht, he, hin, hfree⟩
  have hrun := run_of_steps _ ht
  have hrestores := (manualMode_restores _ t hrun _ he).1 rfl rfl
  exact ⟨t, _, hrun, if_pos hfree, hrestores _ _ he (by decide) hin (if_pos hfree)⟩

/-- A Canon in bulb that was entered from a known value is about to be sent something
    else than that value. -/
def Misses (t : Noted) (e : Entry) : Prop :=
  t.entry = some e ∧ e.Known ∧ t.device.session.camera.inBulbMode = true ∧ t.device.Free ∧
  t.device.session.camera.protocol = .eos ∧
  t.device.manualMode.session.driver.usb.sent ≠ (t.device.session.driver.demand
    (eosDemand .shutter (shutterEvPTP .eos e.value))).2.usb.sent

instance (t : Noted) (e : Entry) : Decidable (t.Misses e) := inferInstanceAs (Decidable (_ ∧ _))

theorem Misses.not_restores {t : Noted} {e : Entry} (h : t.Misses e) : ¬ t.Restores := by
  rcases h with ⟨he, hknown, hin, hfree, heos, hsent⟩
  intro hrestores
  have hsets := (hrestores e _ he hknown hin (if_pos hfree)).2
  rw [heos] at hsets
  exact hsent (congrArg (fun d => d.usb.sent) hsets.2.1)

/-- A list of moves that leads there is a run. -/
theorem run_misses {s : Noted} (ls : List DeviceMove) (e : Entry)
    (h : ∃ t ∈ steps next s ls, t.Misses e) :
    ∃ t, Run next (fun _ _ => True) s t ∧ ¬ t.Restores := by
  rcases h with ⟨t, ht, hmisses⟩
  exact ⟨t, run_of_steps ls ht, hmisses.not_restores⟩

/-- A Canon that has bulb as a mode is put into its manual mode. One that has bulb as a
    shutter speed, and has left it, and then comes into it by itself, is set to 1/400. -/
theorem manualMode_not_restores :
    (∃ t, Run next (fun _ _ => True) ⟨canon [0x4b, 0x75]
        [agrees, tells (propertyEvent eosDpcMode 0x04), agrees], none⟩ t ∧ ¬ t.Restores) ∧
    ∃ t, Run next (fun _ _ => True) ⟨canon [0x0c, 0x4b, 0x75]
        [agrees, agrees, tells (propertyEvent eosDpcShutter 0x0c), agrees], none⟩ t ∧
      ¬ t.Restores := by
  constructor
  · refine run_misses (looks 2 ++ [.bulbMode] ++ looks 1) ⟨50, true, false⟩ ?_
    decide +kernel
  · refine run_misses (looks 2 ++ [.bulbMode, .goOn, .manualMode, .goOn] ++ looks 1)
      ⟨50, false, true⟩ ?_
    decide +kernel

end Noted

end Ptp

end TimelapsePlus
