import TimelapsePlus.Ptp.Capabilities

/-!
# Setting the Camera

`setISO`, `setShutter` and `setAperture` ask the camera to be set, and keep what
they have asked for as what the camera is set to. The camera also says by itself
what it is set to, and may refuse what it is asked, or be busy.

A Canon or a Nikon is told the value. A Sony camera can only be told to go one
value up or down, and is then asked where it stands until it has moved. Its
aperture cannot be set at all.

None of the three looks at the answer before it keeps the value, and the driver
takes a busy camera for one that has agreed. What is kept is therefore right
only when the camera does agree, or was set so before. A request for a Nikon's
ISO has sixteen bits, of which the value kept may have more.

Beside the state stand the last value the camera has reported and the last one
it has agreed to. Nothing looks at them.

## Main definitions

* `Setting`: The three of them.
* `Demand`: What a camera is told so that it is set.
* `Driver.Accepts`: The camera agrees.
* `Session.reports`: What the camera says it is set to.
* `Setters`: A session, the call that is under way, and the two values.
* `Setters.setISO`, `Setters.setShutter`, `Setters.setAperture`: The functions.
* `Setters.Faithful`: What is kept is one of the two values.
* `Setters.Met`: What the answers have to be like.

## Theorems

* `demand_ok_iff`: When the driver takes a request for granted.
* `Session.step_dials`: What a step of the session makes of what is kept.
* `set_cached`, `set_accepted`: What a call does.
* `dir_eq_zero`: Where a Sony camera is left alone.
* `run_faithful`: What is kept is right as long as the camera agrees.
* `busy_kept`: It is not when a camera is busy.
-/

namespace TimelapsePlus

namespace Ptp

open Word Usb

def sonyOcChangeParam : Nat := 0x9207

/-- The settings of a camera. -/
inductive Setting
  | iso
  | shutter
  | aperture
deriving Repr, DecidableEq

namespace Setting

/-- `isoEvPTP`, `shutterEvPTP` and `apertureEvPTP`. -/
def code (o : PropertyOffset) (ev : Nat) : Setting → Nat
  | .iso => isoEvPTP o ev
  | .shutter => shutterEvPTP o ev
  | .aperture => apertureEvPTP o ev

def eosParam : Setting → Nat
  | .iso => eosDpcIso
  | .shutter => eosDpcShutter
  | .aperture => eosDpcAperture

def nikonParam : Setting → Nat
  | .iso => nikonDpcIso
  | .shutter => nikonDpcShutter
  | .aperture => nikonDpcAperture

end Setting

namespace Camera

/-- `isoPTP`, `shutterPTP` and `aperturePTP`. -/
def cached (c : Camera) : Setting → Nat
  | .iso => c.isoPTP
  | .shutter => c.shutterPTP
  | .aperture => c.aperturePTP

/-- Keep a value. -/
def keep (c : Camera) (p : Setting) (v : Nat) : Camera :=
  match p with
  | .iso => { c with isoPTP := v }
  | .shutter => { c with shutterPTP := v }
  | .aperture => { c with aperturePTP := v }

/-- `PTP::shutter`, the value of its shutter. -/
def shutter (c : Camera) : Nat :=
  if 0 < c.shutterAvail.count then shutterEv c.protocol.propertyOffset c.shutterPTP else 0

/-- The value a setting is at, as far as the firmware knows. -/
def value (c : Camera) : Setting → Nat
  | .iso => c.iso
  | .shutter => c.shutter
  | .aperture => c.aperture

/-- What the firmware looks a value up with, beside what is kept. -/
def lists (c : Camera) :
    Protocol × Table isoCountMax × Table shutterCountMax × Table apertureCountMax :=
  (c.protocol, c.isoAvail, c.shutterAvail, c.apertureAvail)

/-- What decides on what is sent and kept: the protocol, and what is kept. -/
def dials (c : Camera) : Protocol × (Setting → Nat) := (c.protocol, c.cached)

end Camera

/-- The bytes of a word of sixteen bits. -/
def encode16 (n : Nat) : List UInt8 := [UInt8.ofNat n, UInt8.ofNat (n / 256)]

/-- What a camera is told so that it is set: the transaction, and the value it
    hears. -/
structure Demand where
  opCode : Nat
  receive : Bool
  params : List Nat
  data : List UInt8
  value : Nat

/-- The transaction of `setEosParameter`. -/
def eosDemand (p : Setting) (v : Nat) : Demand where
  opCode := eosOcPropertySet
  receive := false
  params := []
  data := encode32 0x0C ++ encode32 p.eosParam ++ encode32 v
  value := v

/-- The transaction of `setPtpParameter`. It is the one for 32 bits that sets the
    shutter. -/
def nikonDemand (p : Setting) (v : Nat) : Demand where
  opCode := ptpOcPropertySet
  receive := true
  params := [p.nikonParam]
  data := if p = .shutter then encode32 v else encode16 v
  value := if p = .shutter then v else u16 v

/-- What a camera of a protocol is told, if it is told a value. -/
def Setting.demand (p : Setting) (v : Nat) : Protocol → Option Demand
  | .eos => some (eosDemand p v)
  | .nikon => some (nikonDemand p v)
  | _ => none

namespace Driver

/-- The transaction of a demand. -/
def demand (d : Driver) (q : Demand) : Ret × Driver :=
  d.transaction q.opCode q.receive q.params q.data

/-- The interface once the camera has been sent a demand, and whether it could be. -/
def deliver (d : Driver) (q : Demand) : Nat × Host :=
  let c := sendCommand d.usb q.opCode q.params
  if c.1 = noError then sendBlockHeader c.2 d.usb.answer.block q.opCode q.data else c

/-- What the response to it comes to. -/
def reply (d : Driver) (q : Demand) : Nat × (Nat → UInt8) × Host :=
  receiveResponseCode (d.deliver q).2
    (store d.block 0 (blockHeader q.opCode q.data.length ++ q.data))

/-- The camera agrees to a demand: it is sent, and the response is the good one. -/
def Accepts (d : Driver) (q : Demand) : Prop :=
  d.error = 0 ∧ d.bytesRemaining = 0 ∧ (d.deliver q).1 = noError ∧ (d.reply q).1 = noError

instance (d : Driver) (q : Demand) : Decidable (d.Accepts q) :=
  inferInstanceAs (Decidable (_ ∧ _))

end Driver

/-- What an event of a Canon camera says a setting is at. -/
def Change.reports : Change → Option (Setting × Nat)
  | .property item value =>
      if item = eosDpcIso then some (.iso, value)
      else if item = eosDpcShutter then some (.shutter, value)
      else if item = eosDpcAperture then some (.aperture, value)
      else none
  | _ => none

/-- What the description of a property of a Nikon says it is at. -/
def NikonProperty.reports (received : Nat) (buffer : Nat → UInt8) :
    NikonProperty → Option (Setting × Nat)
  | .iso =>
      if 10 < received ∧ (buffer 2).toNat = 4 then some (.iso, le16 buffer 7) else none
  | .aperture =>
      if 10 < received ∧ (buffer 2).toNat = 4 then some (.aperture, le16 buffer 7) else none
  | .shutter =>
      if 14 < received ∧ (buffer 2).toNat = 6 then some (.shutter, le32 buffer 9) else none

/-- What a property of a Sony camera says a setting is at. -/
def SonyProperty.reports (p : SonyProperty) : Option (Setting × Nat) :=
  if p.code = sonyDpcIso then some (.iso, p.current)
  else if p.code = sonyDpcShutter then some (.shutter, p.current)
  else none

namespace Session

/-- What the camera says, in what a step reads. -/
def reports (s : Session) (l : Label) : Option (Setting × Nat) :=
  match l, s.task with
  | .proceed, .describe p => p.reports s.driver.bytesReceived s.driver.buffer
  | .proceed, .eos phase ret =>
      let t := Frame.turn ⟨phase, ret, s.driver⟩
      match t.next, t.output with
      | .ok _, some (.applied _ change) => change.reports
      | _, _ => none
  | .proceed, .sony i ret =>
      if s.driver.bytesReceived ≤ i ∨ ret = .dataRemaining ∧ bufferSize / 2 < i then none
      else match sonyProperty s.driver.buffer i with
        | .ok (p, _) => p.reports
        | .error _ => none
  | _, _ => none

/-- Whether a step stays with this camera: `init` and `close` forget what is
    kept. -/
def retains : Label → Bool
  | .init _ _ => false
  | .close => false
  | _ => true

end Session

/-- The settings of a Sony camera that can be moved. -/
inductive Shifted
  | iso
  | shutter
deriving Repr, DecidableEq

namespace Shifted

def setting : Shifted → Setting
  | .iso => .iso
  | .shutter => .shutter

/-- How often it is moved at most. -/
def turns : Shifted → Nat
  | .iso => isoCountMax
  | .shutter => shutterCountMax

def property : Shifted → Nat
  | .iso => sonyDpcIso
  | .shutter => sonyDpcShutter

/-- What tells whether it has moved. -/
def gauge (c : Camera) : Shifted → Nat
  | .iso => c.isoPTP
  | .shutter => c.shutter

/-- Which way the ISO is to be moved. Automatic is below all the others. -/
def isoDir (c : Camera) (ev : Nat) : Int :=
  let newIso := isoEvPTP c.protocol.propertyOffset ev
  if ev = 254 then if c.isoPTP ≠ 16777215 then -1 else 0
  else if c.isoPTP = 16777215 then 1
  else if newIso < c.isoPTP then -1
  else if c.isoPTP < newIso then 1
  else 0

/-- Which way the shutter is. Bulb is below all the others. -/
def shutterDir (c : Camera) (ev : Nat) : Int :=
  if ev = bulbEvCode ∧ c.shutter ≠ ev then -1
  else if c.shutter < ev ∨ c.shutter = bulbEvCode ∧ c.shutter ≠ ev then 1
  else if ev < c.shutter then -1
  else 0

def dir (c : Camera) (ev : Nat) : Shifted → Int
  | .iso => isoDir c ev
  | .shutter => shutterDir c ev

end Shifted

/-- Where a call to a Sony camera stands: at the top of a turn, having moved the
    camera and about to ask where it stands, or having asked. -/
inductive SetCall
  | idle
  | turn (p : Shifted) (ev j : Nat)
  | poll (p : Shifted) (ev j i before : Nat)
  | look (p : Shifted) (ev j i before : Nat)
deriving Repr, DecidableEq

/-- A session, the call under way, what the last one has returned, and the last
    values the camera has reported and agreed to. -/
structure Setters where
  session : Session
  call : SetCall
  returned : Ret
  reported : Setting → Option Nat
  accepted : Setting → Option Nat

/-- What happens next: a step of the session, or a call is made or goes on. -/
inductive SetMove
  | session (l : Label)
  | set (p : Setting) (ev : Nat)
  | goOn

namespace Setters

/-- What is kept at the start counts as reported. -/
def start (s : Session) : Setters where
  session := s
  call := .idle
  returned := .ok
  reported p := some (s.camera.cached p)
  accepted _ := none

def cached (c : Setters) : Setting → Nat := c.session.camera.cached

/-- The code of a value, in the camera's protocol. -/
def code (c : Setters) (p : Setting) (ev : Nat) : Nat :=
  p.code c.session.camera.protocol.propertyOffset ev

/-- The call returns. -/
def finish (c : Setters) (ret : Ret) : Setters := { c with call := .idle, returned := ret }

def keep (c : Setters) (p : Setting) (v : Nat) : Setters :=
  { c with session.camera := c.session.camera.keep p v }

/-- A setting is demanded of the camera. -/
def demand (c : Setters) (p : Setting) (q : Demand) : Ret × Setters :=
  let r := c.session.driver.demand q
  (r.1, { c with
    session.driver := r.2
    accepted :=
      if c.session.driver.Accepts q then Function.update c.accepted p (some q.value)
      else c.accepted })

/-- `PTP::setEosParameter`. -/
def setEosParameter (c : Setters) (p : Setting) (v : Nat) : Ret × Setters :=
  c.demand p (eosDemand p v)

/-- `PTP::setPtpParameter`. -/
def setPtpParameter (c : Setters) (p : Setting) (v : Nat) : Ret × Setters :=
  { c with session.camera.needUpdate := true }.demand p (nikonDemand p v)

/-- What `setISO` and `setShutter` do; `other` is what they return when there is no
    camera to be set. -/
def adjust (c : Setters) (p : Shifted) (other : Ret) (ev : Nat) : Setters :=
  if ev = 0xFF then c.finish .error
  else
    let v := c.code p.setting ev
    match c.session.camera.protocol with
    | .eos =>
        let r := c.setEosParameter p.setting v
        (r.2.keep p.setting v).finish r.1
    | .nikon =>
        let r := c.setPtpParameter p.setting v
        (r.2.keep p.setting v).finish r.1
    | .sony => { c with call := .turn p ev 0 }
    | _ => (c.keep p.setting v).finish other

/-- `PTP::setISO`. -/
def setISO (c : Setters) (ev : Nat) : Setters := c.adjust .iso .ok ev

/-- `PTP::setShutter`. -/
def setShutter (c : Setters) (ev : Nat) : Setters := c.adjust .shutter .error ev

/-- `PTP::setAperture`, which keeps the value first. -/
def setAperture (c : Setters) (ev : Nat) : Setters :=
  if ev = 0xFF then c.finish .error
  else
    let v := c.code .aperture ev
    let c := c.keep .aperture v
    match c.session.camera.protocol with
    | .eos =>
        let r := c.setEosParameter .aperture v
        r.2.finish r.1
    | .nikon =>
        let r := c.setPtpParameter .aperture v
        r.2.finish r.1
    | _ => c.finish .error

/-- A call is made. -/
def set (c : Setters) (p : Setting) (ev : Nat) : Setters :=
  match p with
  | .iso => c.setISO ev
  | .shutter => c.setShutter ev
  | .aperture => c.setAperture ev

/-- `PTP::shiftSonyParameter`. -/
def shiftSonyParameter (c : Setters) (property : Nat) (direction : Int) : Ret × Setters :=
  let r := c.session.driver.transaction sonyOcChangeParam false [property]
    [if direction < 0 then 0xFF else 0x01]
  (r.1, { c with session.camera.needUpdate := true, session.driver := r.2 })

/-- The top of a turn of the loops for a Sony camera. -/
def turn (c : Setters) (p : Shifted) (ev j : Nat) : Setters :=
  let direction := p.dir c.session.camera ev
  if p.turns ≤ j ∨ direction = 0 then
    (c.keep p.setting (c.code p.setting ev)).finish .ok
  else
    let r := c.shiftSonyParameter p.property direction
    if r.1 ≠ .ok then r.2.finish .error
    else { r.2 with call := .poll p ev j 0 (p.gauge c.session.camera) }

/-- The call goes on. -/
def goOn (c : Setters) : Option Setters :=
  match c.call with
  | .idle => none
  | .turn p ev j => some (c.turn p ev j)
  | .poll p ev j i before => some { c with
      session := c.session.sonyReadProperties.session
      call := .look p ev j i before }
  | .look p ev j i before => some (
      if p.gauge c.session.camera ≠ before then { c with call := .turn p ev (j + 1) }
      else if i + 1 < 10 then { c with call := .poll p ev j (i + 1) before }
      else c.finish .error)

/-- Whether the session can take a step where a call stands: within a call it only
    goes on with what it has begun. -/
def yields (call : SetCall) (l : Label) : Bool :=
  match call, l with
  | .idle, l => Session.retains l
  | .look _ _ _ _ _, .proceed => true
  | _, _ => false

/-- One step, if it can be taken. -/
def next (c : Setters) (m : SetMove) : Option Setters :=
  match m with
  | .session l =>
      if yields c.call l then
        (c.session.step l).map fun o => { c with
          session := o.session
          reported := match c.session.reports l with
            | some (p, v) => Function.update c.reported p (some v)
            | none => c.reported }
      else none
  | .set p ev =>
      if c.session.task = .idle ∧ c.call = .idle then some (c.set p ev) else none
  | .goOn => if c.session.task = .idle then c.goOn else none

/-- What is kept is what the camera has last reported or last agreed to. -/
def Faithful (c : Setters) : Prop :=
  ∀ p, c.reported p = some (c.cached p) ∨ c.accepted p = some (c.cached p)

/-- The ramp sees that a setting is not at the value it wants, and sets it. -/
def Due (c : Setters) (p : Setting) (ev : Nat) : Prop := c.session.camera.value p ≠ ev

/-- A call sends the camera the value it keeps, and the camera agrees to it. -/
def Grants (c : Setters) (p : Setting) (ev : Nat) : Prop :=
  ev ≠ 0xFF ∧ ∃ q, p.demand (c.code p ev) c.session.camera.protocol = some q ∧
    q.value = c.code p ev ∧ c.session.driver.Accepts q

/-- What the answers have to be like: a Canon or a Nikon agrees to the value that
    is kept, or is known to be set so and agrees to no other. A Sony camera comes
    to the value in so many turns, and knows it; its aperture is not set to
    anything else. -/
def Met (c : Setters) : SetMove → Prop
  | .session _ => True
  | .set p ev => ev = 0xFF ∨ c.Grants p ev ∨
      c.session.camera.protocol = .sony ∧ p ≠ .aperture ∨
      c.code p ev = c.cached p ∧ ∀ q,
        p.demand (c.code p ev) c.session.camera.protocol = some q →
          c.session.driver.Accepts q → q.value = c.code p ev
  | .goOn => match c.call with
    | .turn p ev j => c.code p.setting ev = c.cached p.setting ∨
        j < p.turns ∧ (p = .shutter → ev = 0 → c.session.camera.shutter ≠ 0)
    | _ => True

/-- A step is one in which the camera agrees to what is kept. -/
def Granted (c : Setters) : SetMove → Prop
  | .set p ev => c.Grants p ev
  | _ => False

/-- A step is one of the calls'. -/
def isCall : SetMove → Bool
  | .session _ => false
  | _ => true

end Setters

/-- What is kept after a report. -/
def told (f : Setting → Nat) : Option (Setting × Nat) → Setting → Nat
  | some (p, v) => Function.update f p v
  | none => f

namespace Camera

theorem cached_keep (c : Camera) (p : Setting) (v : Nat) :
    (c.keep p v).cached = Function.update c.cached p v := by
  funext q
  cases p <;> cases q <;> rfl

theorem keep_protocol (c : Camera) (p : Setting) (v : Nat) :
    (c.keep p v).protocol = c.protocol := by
  cases p <;> rfl

theorem keep_lists (c : Camera) (p : Setting) (v : Nat) : (c.keep p v).lists = c.lists := by
  cases p <;> rfl

/-- The values are those of what is kept and the lists. -/
theorem value_congr {c c' : Camera} (hlists : c'.lists = c.lists)
    (hcached : c'.cached = c.cached) : c'.value = c.value := by
  have hi : c'.isoPTP = c.isoPTP := congrFun hcached .iso
  have hs : c'.shutterPTP = c.shutterPTP := congrFun hcached .shutter
  have ha : c'.aperturePTP = c.aperturePTP := congrFun hcached .aperture
  simp only [lists, Prod.mk.injEq] at hlists
  rcases hlists with ⟨hprotocol, hiso, hshutter, haperture⟩
  funext p
  cases p with
  | iso => simp only [value, iso, hprotocol, hi, hiso]
  | shutter => simp only [value, shutter, hprotocol, hs, hshutter]
  | aperture => simp only [value, aperture, hprotocol, ha, haperture]

theorem applyChange_dials (c : Camera) (change : Change) :
    (c.applyChange change).dials = (c.protocol, told c.cached change.reports) := by
  cases change with
  | property item value =>
      simp only [applyChange, applyProperty, Change.reports]
      by_cases hiso : item = eosDpcIso
      · rw [if_pos hiso, if_pos hiso]
        exact Prod.ext rfl (c.cached_keep .iso value)
      · by_cases hshutter : item = eosDpcShutter
        · rw [if_neg hiso, if_neg hiso, if_pos hshutter, if_pos hshutter]
          exact Prod.ext rfl (c.cached_keep .shutter value)
        · by_cases haperture : item = eosDpcAperture
          · rw [if_neg hiso, if_neg hiso, if_neg hshutter, if_neg hshutter, if_pos haperture,
              if_pos haperture]
            exact Prod.ext rfl (c.cached_keep .aperture value)
          · -- What the other properties go into is not one of the dials.
            rw [if_neg hiso, if_neg hiso, if_neg hshutter, if_neg hshutter, if_neg haperture,
              if_neg haperture]
            repeat' split
            all_goals rfl
  | values item codes =>
      simp only [applyChange, applyValues, Change.reports, told]
      repeat' split
      all_goals rfl
  | object handle => rfl
  | other type => rfl

/-- What a turn of the Canon parser makes of it. -/
theorem apply_dials (c : Camera) (o : Option Output) :
    (c.apply o).dials = (c.protocol, told c.cached (match o with
      | some (.applied _ change) => change.reports
      | _ => none)) := by
  cases o with
  | none => rfl
  | some o =>
      cases o with
      | applied pos change => exact applyChange_dials c change
      | oversize pos eventSize => rfl
      | resumed pos => rfl

theorem applySony_dials (c : Camera) (p : SonyProperty) :
    (c.applySony p).dials = (c.protocol, told c.cached p.reports) := by
  -- What the lists become is not looked at.
  simp only [applySony, SonyProperty.reports]
  generalize fillCompact (isoEv c.protocol.propertyOffset) c.isoAvail p.isoCodes = t
  generalize appendAll { c.shutterAvail with count := 0 }
    ((ptpShutterList.drop 1).map PropertyDescription.ev) = u
  split
  · refine Prod.ext rfl (funext fun q => ?_)
    cases q <;> rfl
  · split
    · refine Prod.ext rfl (funext fun q => ?_)
      cases q <;> rfl
    · rfl

theorem applyPtpEvent_dials (c : Camera) (e : Nat × Nat) :
    (c.applyPtpEvent e).dials = c.dials := by
  unfold applyPtpEvent
  split
  · rfl
  · split <;> rfl

theorem foldl_applyPtpEvent_dials (events : List (Nat × Nat)) (c : Camera) :
    (events.foldl applyPtpEvent c).dials = c.dials := by
  induction events generalizing c with
  | nil => rfl
  | cons e events ih => rw [List.foldl_cons, ih, applyPtpEvent_dials]

end Camera

namespace Session

theorem expireBusy_dials (s : Session) (now : Nat) :
    (s.expireBusy now).camera.dials = s.camera.dials := by
  unfold expireBusy
  split
  · split
    · split <;> rfl
    · rfl
  · rfl

theorem sonyReadProperties_dials (s : Session) :
    s.sonyReadProperties.session.camera.dials = s.camera.dials := by
  simp only [sonyReadProperties, ask]
  split <;> rfl

theorem sonyEvent_dials (s : Session) (event : List UInt8) :
    (s.sonyEvent event).camera.dials = s.camera.dials := by
  simp only [sonyEvent]
  split
  · rfl
  · split <;> rfl

theorem checkEvent_dials (s : Session) (now : Nat) (event : List UInt8) :
    (s.checkEvent now event).session.camera.dials = s.camera.dials := by
  have hexpire := expireBusy_dials s now
  unfold checkEvent
  split
  · rfl
  · simp only
    split
    · refine Eq.trans ?_ hexpire
      unfold nikonCheck
      split
      · simp only [ask]
        split <;> rfl
      · rfl
    · refine Eq.trans ?_ ((sonyEvent_dials _ event).trans hexpire)
      simp only [sonyCheck]
      split
      · exact sonyReadProperties_dials _
      · rfl
    · refine Eq.trans ?_ hexpire
      simp only [eosCheck, ask]
      split <;> rfl
    · exact hexpire

theorem nikonEventsStep_dials (s : Session) (event : List UInt8) :
    (s.nikonEventsStep event).session.camera.dials = s.camera.dials := by
  have hupdate : ∀ t : Session, t.nikonUpdate.camera.dials = t.camera.dials := by
    intro t
    unfold nikonUpdate
    split <;> rfl
  unfold nikonEventsStep
  split
  · simp only [ask]
    split
    · rfl
    · exact (hupdate _).trans (Camera.foldl_applyPtpEvent_dials _ _)
  · refine (hupdate _).trans ?_
    simp only [nikonPoll]
    split
    · split
      · rfl
      · exact Camera.applyPtpEvent_dials _ _
    · split
      · rfl
      · exact Camera.applyPtpEvent_dials _ _

theorem describe_dials (s : Session) (p : NikonProperty) :
    (s.describe p).camera.dials = (s.camera.protocol,
      told s.camera.cached (p.reports s.driver.bytesReceived s.driver.buffer)) := by
  cases p with
  | iso =>
      simp only [describe, Camera.describeIso, NikonProperty.reports]
      split
      · refine Prod.ext rfl (funext fun q => ?_)
        cases q <;> rfl
      · rfl
  | aperture =>
      simp only [describe, Camera.describeAperture, NikonProperty.reports]
      split
      · refine Prod.ext rfl (funext fun q => ?_)
        cases q <;> rfl
      · rfl
  | shutter =>
      simp only [describe, Camera.describeShutter, NikonProperty.reports]
      split
      · refine Prod.ext rfl (funext fun q => ?_)
        cases q <;> rfl
      · rfl

theorem sonyStep_dials (s : Session) (i : Nat) (ret : Ret) :
    (s.sonyStep i ret).camera.dials = (s.camera.protocol, told s.camera.cached
      (if s.driver.bytesReceived ≤ i ∨ ret = .dataRemaining ∧ bufferSize / 2 < i then none
      else match sonyProperty s.driver.buffer i with
        | .ok (p, _) => p.reports
        | .error _ => none)) := by
  unfold sonyStep SonyFrame.turn
  by_cases hend : s.driver.bytesReceived ≤ i
  · simp only [if_pos hend, if_pos (Or.inl hend : _ ∨ _)]
    rfl
  · by_cases hfetch : ret = .dataRemaining ∧ bufferSize / 2 < i
    · simp only [if_neg hend, if_pos hfetch, if_pos (Or.inr hfetch : _ ∨ _)]
      by_cases herror : (s.driver.fetchData (bufferSize - i)).1 = .error
      · simp only [if_pos herror]
        rfl
      · simp only [if_neg herror]
        rfl
    · simp only [if_neg hend, if_neg hfetch, if_neg (not_or.mpr ⟨hend, hfetch⟩)]
      cases sonyProperty s.driver.buffer i with
      | error err => rfl
      | ok r => exact Camera.applySony_dials _ r.1

/-- A step of the session keeps what the camera says in it, and nothing else. -/
theorem step_dials (s : Session) (l : Label) (o : Outcome) (hl : retains l = true)
    (hstep : s.step l = some o) :
    o.session.camera.dials = (s.camera.protocol, told s.camera.cached (s.reports l)) := by
  unfold step at hstep
  cases htask : s.task with
  | idle =>
      rw [htask] at hstep
      cases l with
      | checkEvent now event =>
          cases hstep
          exact checkEvent_dials s now event
      | setFocus value =>
          cases hstep
          unfold setFocus
          split <;> rfl
      | readProperties =>
          cases hstep
          exact sonyReadProperties_dials s
      | command opCode receive params data =>
          cases hstep
          rfl
      | enable usb =>
          cases hstep
          rfl
      | proceed => exact absurd hstep (by simp only [reduceCtorEq, not_false_eq_true])
      | _ => exact absurd hl (by simp only [retains, Bool.false_eq_true, not_false_eq_true])
  | events event =>
      rw [htask] at hstep
      cases l with
      | proceed =>
          cases hstep
          simp only [reports, htask]
          exact nikonEventsStep_dials s event
      | _ => exact absurd hstep (by simp only [reduceCtorEq, not_false_eq_true])
  | ask p =>
      rw [htask] at hstep
      cases l with
      | proceed =>
          cases hstep
          simp only [reports, htask, askProperty, Session.ask]
          split <;> rfl
      | _ => exact absurd hstep (by simp only [reduceCtorEq, not_false_eq_true])
  | describe p =>
      rw [htask] at hstep
      cases l with
      | proceed =>
          cases hstep
          simp only [reports, htask]
          exact describe_dials s p
      | _ => exact absurd hstep (by simp only [reduceCtorEq, not_false_eq_true])
  | eos phase ret =>
      rw [htask] at hstep
      cases l with
      | proceed =>
          cases hstep
          simp only [reports, htask, quiet, eosStep]
          cases hnext : (Frame.turn ⟨phase, ret, s.driver⟩).next with
          | error r => rfl
          | ok f =>
              simp only [Camera.apply_dials]
              cases (Frame.turn ⟨phase, ret, s.driver⟩).output with
              | none => rfl
              | some output => cases output <;> rfl
      | _ => exact absurd hstep (by simp only [reduceCtorEq, not_false_eq_true])
  | sony i ret =>
      rw [htask] at hstep
      cases l with
      | proceed =>
          cases hstep
          simp only [reports, htask]
          exact sonyStep_dials s i ret
      | _ => exact absurd hstep (by simp only [reduceCtorEq, not_false_eq_true])

end Session

/-- The driver takes a demand for granted when the camera agrees, and also when it is
    busy, or when errors are to be ignored. -/
theorem demand_ok_iff (d : Driver) (q : Demand) (hdata : q.data ≠ []) (herror : d.error = 0)
    (hremaining : d.bytesRemaining = 0) :
    (d.demand q).1 = .ok ↔ (d.deliver q).1 = noError ∧
      (d.Accepts q ∨ le16 (d.reply q).2.1 6 = 0x2019 ∨ d.ignoreErrors = true) := by
  unfold Driver.demand Driver.transaction
  rw [if_neg (not_not.mpr herror), if_neg (by omega)]
  unfold Driver.Accepts Driver.reply Driver.deliver
  by_cases hcommand : (sendCommand d.usb q.opCode q.params).1 = noError
  · simp only [hcommand, true_and, ne_eq, hdata, not_false_eq_true, if_true, herror, hremaining]
    unfold Driver.receiveEnd
    grind
  · simp only [hcommand, false_and, if_false, ne_eq, hdata, not_false_eq_true]
    exact iff_of_false (fun h => by
      rw [Driver.receiveEnd_error _ _ _ hcommand] at h
      cases h) not_false

namespace Setters

section Set

variable (c : Setters) (p : Setting) (ev : Nat)

theorem set_reported : (c.set p ev).reported = c.reported := by
  cases p <;>
    simp only [set, setISO, setShutter, setAperture, adjust] <;>
    repeat' split
  all_goals rfl

/-- A call leaves the lists alone. -/
theorem set_lists : (c.set p ev).session.camera.lists = c.session.camera.lists := by
  cases p <;>
    simp only [set, setISO, setShutter, setAperture, adjust] <;>
    repeat' split
  all_goals rfl

/-- A value is kept, except for a Sony camera that is still to be moved there. -/
theorem set_cached (hev : ev ≠ 0xFF) :
    (c.set p ev).cached =
      if c.session.camera.protocol = .sony ∧ p ≠ .aperture then c.cached
      else Function.update c.cached p (c.code p ev) := by
  have hprotocol : ∀ v, (c.keep .aperture v).session.camera.protocol =
      c.session.camera.protocol := fun _ => rfl
  cases p <;>
    simp only [set, setISO, setShutter, setAperture, adjust, if_neg hev, hprotocol] <;>
    cases c.session.camera.protocol <;>
    funext q <;>
    cases q <;>
    rfl

/-- The camera agrees to what it is told, if it is told anything. -/
theorem set_accepted (hev : ev ≠ 0xFF) :
    (c.set p ev).accepted =
      match p.demand (c.code p ev) c.session.camera.protocol with
      | some q =>
          if c.session.driver.Accepts q then Function.update c.accepted p (some q.value)
          else c.accepted
      | none => c.accepted := by
  have hprotocol : ∀ v, (c.keep .aperture v).session.camera.protocol =
      c.session.camera.protocol := fun _ => rfl
  cases p <;>
    simp only [set, setISO, setShutter, setAperture, adjust, if_neg hev, hprotocol] <;>
    cases c.session.camera.protocol <;>
    rfl

/-- Only a call to a Sony camera takes several steps. -/
theorem set_call (h : (c.set p ev).call ≠ .idle) :
    c.session.camera.protocol = .sony := by
  revert h
  have hprotocol : ∀ v, (c.keep .aperture v).session.camera.protocol =
      c.session.camera.protocol := fun _ => rfl
  cases p <;>
    simp only [set, setISO, setShutter, setAperture, adjust, hprotocol] <;>
    split <;>
    cases c.session.camera.protocol <;>
    intro h <;>
    first | rfl | exact absurd rfl h

theorem set_none : (c.set p 0xFF).cached = c.cached ∧ (c.set p 0xFF).accepted = c.accepted := by
  cases p <;> exact ⟨rfl, rfl⟩

/-- A call the camera does not agree to keeps what is kept, if its answers are as they
    have to be. -/
theorem set_refused (hmet : c.Met (.set p ev)) (h : ¬ c.Grants p ev) :
    (c.set p ev).cached = c.cached ∧ (c.set p ev).accepted = c.accepted := by
  by_cases hev : ev = 0xFF
  · rw [hev]
    exact c.set_none p
  · rw [set_cached c p ev hev, set_accepted c p ev hev]
    rcases hmet.resolve_left hev with hgrants | ⟨hsony, hp⟩ | ⟨hcode, hvalue⟩
    · exact absurd hgrants h
    · -- A Sony camera is told nothing yet.
      rw [if_pos ⟨hsony, hp⟩, hsony]
      exact ⟨rfl, rfl⟩
    · refine ⟨?_, ?_⟩
      · rw [hcode, Function.update_eq_self, ite_self]
      · cases hdemand : p.demand (c.code p ev) c.session.camera.protocol with
        | none => rfl
        | some q =>
            refine if_neg fun haccepts => h ⟨hev, q, hdemand, ?_, haccepts⟩
            exact hvalue q hdemand haccepts

/-- One it agrees to keeps the value. -/
theorem set_granted (h : c.Grants p ev) :
    (c.set p ev).cached = Function.update c.cached p (c.code p ev) ∧
    (c.set p ev).accepted = Function.update c.accepted p (some (c.code p ev)) := by
  rcases h with ⟨hev, q, hdemand, hvalue, haccepts⟩
  rw [set_cached c p ev hev, set_accepted c p ev hev, hdemand]
  refine ⟨if_neg ?_, ?_⟩
  · rintro ⟨hsony, _⟩
    rw [hsony] at hdemand
    cases hdemand
  · simp only [if_pos haccepts, hvalue]

end Set

/-- A Sony camera that is not to be moved is where it is wanted. -/
theorem dir_eq_zero (c : Camera) (p : Shifted) (ev : Nat) (hsony : c.protocol = .sony)
    (hknown : p = .shutter → ev = 0 → c.shutter ≠ 0) (h : p.dir c ev = 0) :
    p.setting.code c.protocol.propertyOffset ev = c.cached p.setting := by
  cases p with
  | iso =>
      have hauto : isoEvPTP .sony 254 = 16777215 := by decide
      simp only [Shifted.dir, Shifted.isoDir] at h
      simp only [Shifted.setting, Setting.code, Camera.cached]
      rw [hsony] at h ⊢
      simp only [Protocol.propertyOffset] at h ⊢
      grind
  | shutter =>
      have heq : c.shutter = ev := by
        simp only [Shifted.dir, Shifted.shutterDir] at h
        grind
      have hne : c.shutter ≠ 0 := fun hzero => hknown rfl (heq.symm.trans hzero) hzero
      simp only [Shifted.setting, Setting.code, Camera.cached]
      rw [← heq]
      unfold Camera.shutter at hne ⊢
      rw [hsony] at hne ⊢
      split at hne
      case isTrue hcount =>
        rw [if_pos hcount]
        exact shutterEvPTP_shutterEv hne
      case isFalse => exact absurd rfl hne

/-- What holds along a run: what is kept is right, and it is a Sony camera that is
    moved. -/
structure Sound (c : Setters) : Prop where
  faithful : c.Faithful
  sony : c.call ≠ .idle → c.session.camera.protocol = .sony

theorem start_sound (s : Session) : Sound (start s) :=
  ⟨fun _ => .inl rfl, fun h => absurd rfl h⟩

/-- A call that changes nothing that is kept. -/
theorem Sound.same {c c' : Setters} (h : Sound c) (hcached : c'.cached = c.cached)
    (hreported : c'.reported = c.reported) (haccepted : c'.accepted = c.accepted)
    (hsony : c'.call ≠ .idle → c'.session.camera.protocol = .sony) : Sound c' := by
  refine ⟨fun p => ?_, hsony⟩
  rw [hcached, hreported, haccepted]
  exact h.faithful p

theorem set_sound {c : Setters} (h : Sound c) (p : Setting) (ev : Nat)
    (hmet : c.Met (.set p ev)) : Sound (c.set p ev) := by
  have hsony : (c.set p ev).call ≠ .idle → (c.set p ev).session.camera.protocol = .sony := by
    intro hne
    have hlists := congrArg Prod.fst (set_lists c p ev)
    exact hlists.trans (set_call c p ev hne)
  by_cases hgrants : c.Grants p ev
  · rcases set_granted c p ev hgrants with ⟨hcached, haccepted⟩
    refine ⟨fun q => ?_, hsony⟩
    rw [hcached, haccepted, set_reported]
    by_cases hq : q = p
    · rw [hq, Function.update_self, Function.update_self]
      exact .inr rfl
    · rw [Function.update_of_ne hq, Function.update_of_ne hq]
      exact h.faithful q
  · rcases set_refused c p ev hmet hgrants with ⟨hcached, haccepted⟩
    exact h.same hcached (set_reported c p ev) haccepted hsony

/-- A call to a Sony camera that goes on keeps what is kept. -/
theorem goOn_same {c c' : Setters} (h : Sound c) (hmet : c.Met .goOn)
    (hstep : c.goOn = some c') :
    c'.cached = c.cached ∧ c'.reported = c.reported ∧ c'.accepted = c.accepted ∧
      c'.session.camera.lists = c.session.camera.lists := by
  unfold goOn at hstep
  unfold Met at hmet
  cases hcall : c.call with
  | idle =>
      rw [hcall] at hstep
      cases hstep
  | turn p ev j =>
      rw [hcall] at hstep hmet
      cases hstep
      have hsony := h.sony (by rw [hcall]; exact SetCall.noConfusion)
      unfold turn
      simp only
      split
      case isTrue hend =>
        -- The value written is the one that is there.
        have hcode : c.code p.setting ev = c.cached p.setting := by
          rcases hmet with hcode | ⟨hlt, hknown⟩
          · exact hcode
          · exact dir_eq_zero _ p ev hsony hknown (hend.resolve_left (Nat.not_le_of_lt hlt))
        refine ⟨?_, rfl, rfl, Camera.keep_lists _ _ _⟩
        refine (Camera.cached_keep _ _ _).trans ?_
        rw [hcode]
        exact Function.update_eq_self _ _
      case isFalse =>
        split
        · exact ⟨rfl, rfl, rfl, rfl⟩
        · exact ⟨rfl, rfl, rfl, rfl⟩
  | poll p ev j i before =>
      rw [hcall] at hstep
      cases hstep
      have hdials := Session.sonyReadProperties_dials c.session
      refine ⟨congrArg Prod.snd hdials, rfl, rfl, ?_⟩
      simp only [Session.sonyReadProperties, Session.ask]
      split <;> rfl
  | look p ev j i before =>
      rw [hcall] at hstep
      cases hstep
      split
      · exact ⟨rfl, rfl, rfl, rfl⟩
      · split
        · exact ⟨rfl, rfl, rfl, rfl⟩
        · exact ⟨rfl, rfl, rfl, rfl⟩

/-- It goes on with the same camera. -/
theorem goOn_sound {c c' : Setters} (h : Sound c) (hmet : c.Met .goOn)
    (hstep : c.goOn = some c') : Sound c' := by
  rcases goOn_same h hmet hstep with ⟨hcached, hreported, haccepted, hlists⟩
  refine h.same hcached hreported haccepted fun _ => ?_
  have hprotocol := congrArg Prod.fst hlists
  refine hprotocol.trans (h.sony fun hidle => ?_)
  rw [goOn, hidle] at hstep
  cases hstep

/-- A step of the session keeps what it reports. -/
theorem session_sound {c : Setters} (h : Sound c) (l : Label) (o : Outcome)
    (hyields : yields c.call l = true) (hstep : c.session.step l = some o) :
    Sound { c with
      session := o.session
      reported := match c.session.reports l with
        | some (p, v) => Function.update c.reported p (some v)
        | none => c.reported } := by
  have hretains : Session.retains l = true := by
    unfold yields at hyields
    split at hyields
    · exact hyields
    · rfl
    · exact absurd hyields Bool.false_ne_true
  have hdials := Session.step_dials c.session l o hretains hstep
  have hprotocol : o.session.camera.protocol = c.session.camera.protocol :=
    congrArg Prod.fst hdials
  have hcached : o.session.camera.cached = told c.cached (c.session.reports l) :=
    congrArg Prod.snd hdials
  refine ⟨fun q => ?_, fun hcall => hprotocol.trans (h.sony hcall)⟩
  simp only [cached, hcached]
  cases c.session.reports l with
  | none => exact h.faithful q
  | some r =>
      rcases r with ⟨p, v⟩
      simp only [told]
      by_cases hq : q = p
      · rw [hq, Function.update_self, Function.update_self]
        exact .inl rfl
      · rw [Function.update_of_ne hq, Function.update_of_ne hq]
        exact h.faithful q

theorem step_sound {c c' : Setters} (h : Sound c) (m : SetMove) (hmet : c.Met m)
    (hstep : c.next m = some c') : Sound c' := by
  unfold next at hstep
  cases m with
  | session l =>
      simp only at hstep
      split at hstep
      case isTrue hyields =>
        rcases Option.map_eq_some_iff.mp hstep with ⟨o, ho, rfl⟩
        exact session_sound h l o hyields ho
      case isFalse => cases hstep
  | set p ev =>
      simp only at hstep
      split at hstep
      case isTrue =>
        cases hstep
        exact set_sound h p ev hmet
      case isFalse => cases hstep
  | goOn =>
      simp only at hstep
      split at hstep
      case isTrue => exact goOn_sound h hmet hstep
      case isFalse => cases hstep

/-- A call the camera does not agree to changes nothing that is kept, so that what was
    due is due again. -/
theorem refused_due {c c' : Setters} (h : Sound c) (m : SetMove) (hcall : isCall m = true)
    (hmet : c.Met m) (hstep : c.next m = some c') (hrefused : ¬ c.Granted m) :
    c'.cached = c.cached ∧ ∀ p ev, c'.Due p ev ↔ c.Due p ev := by
  have hkept : c'.cached = c.cached ∧ c'.session.camera.lists = c.session.camera.lists := by
    unfold next at hstep
    cases m with
    | session l => exact absurd hcall Bool.false_ne_true
    | set p ev =>
        simp only at hstep
        split at hstep
        case isTrue =>
          cases hstep
          exact ⟨(set_refused c p ev hmet hrefused).1, set_lists c p ev⟩
        case isFalse => cases hstep
    | goOn =>
        simp only at hstep
        split at hstep
        case isTrue =>
          rcases goOn_same h hmet hstep with ⟨hcached, _, _, hlists⟩
          exact ⟨hcached, hlists⟩
        case isFalse => cases hstep
  refine ⟨hkept.1, fun p ev => ?_⟩
  unfold Due
  rw [Camera.value_congr hkept.2 hkept.1]

/-- As long as the answers are as they have to be, what is kept is what the camera has
    last reported or agreed to; and where it does not agree nothing that is kept
    changes, so that the ramp sets again what it has set. -/
theorem run_faithful (s : Session) (c : Setters) (h : Run next Met (start s) c) :
    c.Faithful ∧ ∀ m c', isCall m = true → c.Met m → c.next m = some c' → ¬ c.Granted m →
      c'.cached = c.cached ∧ ∀ p ev, c'.Due p ev ↔ c.Due p ev := by
  have hsound : Sound c := h.invariant Sound
    (fun _ m _ hc hmet hstep => step_sound hc m hmet hstep) (start_sound s)
  exact ⟨hsound.faithful, fun m c' hcall hmet hstep hrefused =>
    refused_due hsound m hcall hmet hstep hrefused⟩

/-- A Canon that agrees is set to ISO 100. -/
theorem run_faithful_agreed :
    ((start (eosSession [⟨noError, noError, [okResponse]⟩])).set .iso 43).Faithful ∧
      ((start (eosSession [⟨noError, noError, [okResponse]⟩])).set .iso 43).cached .iso = 0x48 := by
  refine ⟨(run_faithful (eosSession [⟨noError, noError, [okResponse]⟩]) _
    (.tail (.set .iso 43) .refl ?_ rfl)).1, by decide +kernel⟩
  refine .inr (.inl ⟨by decide, eosDemand .iso 0x48, rfl, rfl, ?_⟩)
  decide +kernel

/-- The response of a camera that is busy, and of one that knows no such setting. -/
def busyResponse : List UInt8 := [12, 0, 0, 0, 3, 0, 0x19, 0x20, 0, 0, 0, 0]
def refusal : List UInt8 := [12, 0, 0, 0, 3, 0, 0x0A, 0x20, 0, 0, 0, 0]

/-- One that is busy is not, but is taken to be; and so is one that refuses. -/
theorem busy_kept :
    (∃ c, Run next (fun _ _ => True) (start (eosSession [⟨noError, noError, [busyResponse]⟩])) c ∧
      c.returned = .ok ∧ ¬ c.Faithful) ∧
    ∃ c, Run next (fun _ _ => True) (start (eosSession [⟨noError, noError, [refusal]⟩])) c ∧
      c.returned = .error ∧ ¬ c.Faithful := by
  constructor
  · refine ⟨_, .tail (.set .iso 43) .refl trivial rfl, by decide +kernel, fun h => ?_⟩
    have hiso := h .iso
    revert hiso
    decide +kernel
  · refine ⟨_, .tail (.set .iso 43) .refl trivial rfl, by decide +kernel, fun h => ?_⟩
    have hiso := h .iso
    revert hiso
    decide +kernel

end Setters

end Ptp

end TimelapsePlus
