import Mathlib.Tactic.SplitIfs
import TimelapsePlus.Bluetooth.RoundTrip

/-!
# The Driver of the Bluetooth Module

`BT` sends the module commands and takes lines from it. It keeps a state for the
connection and a mode for the serial line, and both are written in many places: by
the handlers of `task`, one for each kind of line; by the commands, some of which may
be given only while nothing is connected; and by `cmdMode` and `dataMode`, when the
module has said `OK`.

A command waits for its `OK` with `checkOK`, which reads up to four lines and looks
at none of the others. `task` gives commands itself, and what these read is left in
the one buffer, where the handlers that follow look at it.

What the module does during a call comes with the call: for each reading the bytes
that arrive and how long each is waited for, and for each sending whether the module
is ready for it.

Four fields of the driver are not in the code. They keep the lines about the connection
that were read and those the state was changed for, and the events that were to be
returned and those that `task` has returned to the main loop.

## Main definitions

* `State`: The states of the connection.
* `Arrival`, `Wake`: What a reading and a sending find.
* `Line`, `Bt.lineRead`: The lines about the connection.
* `Radio`: The driver, and the serial line.
* `Radio.read`, `Radio.checkOK`: A reading, and the wait for an `OK`.
* `Radio.sendCMD`, `Radio.cmdMode`, `Radio.dataMode`: Commands, and the modes.
* `Radio.task`, `Radio.waitEvent`: What the main loop calls, and what waits for a line.
* `Request`, `Radio.call`: The calls of the driver.
* `Label`, `Radio.step`: One call, with what the module does.

## Theorems

* `checkOK_mode`, `send_state` and their like: What a part of the driver leaves alone.
-/

namespace TimelapsePlus

namespace Bluetooth

/-- The `BT_ST_` codes. -/
inductive State
  | sleep
  | idle
  | scan
  | connected
  | connectedNmx
  | connectedGm
  | checkingNmx
  | checkingGm
  | authorizingGm
deriving Repr, DecidableEq

/-- The states that the commands take for a connection. -/
def State.linked : State → Bool
  | .connected | .connectedNmx | .connectedGm => true
  | _ => false

/-- What a reading finds: the bytes that have come since the last one, and how often
    the line is polled for each. -/
structure Arrival where
  timing : List Nat
  bytes : List UInt8
deriving Repr, DecidableEq

/-- What a sending finds: the module is ready, is so after it has been woken up or
    waited for, or is not. -/
inductive Wake
  | ready
  | late
  | never
deriving Repr, DecidableEq

/-- Text as bytes. -/
def ascii (t : List Char) : List UInt8 := t.map fun c => UInt8.ofNat c.toNat

/-! The texts of the lines. -/

def textOK : List Char := ['O', 'K']

def textDiscovery : List Char := ['D', 'I', 'S', 'C', 'O', 'V', 'E', 'R', 'Y']

def textConnect : List Char := ['C', 'O', 'N', 'N', 'E', 'C', 'T']

def textBrsp : List Char := ['B', 'R', 'S', 'P']

def textGattDc : List Char := ['G', 'A', 'T', 'T', '_', 'D', 'C']

def textGattDone : List Char := ['G', 'A', 'T', 'T', '_', 'D', 'O', 'N', 'E']

def textDisconnect : List Char := ['D', 'I', 'S', 'C', 'O', 'N', 'N', 'E', 'C', 'T']

def textDone : List Char := ['D', 'O', 'N', 'E']

/-- A line about the connection: one has been made, it takes packets or does not, or it
    is gone. -/
inductive Line
  | connect
  | brsp (packets : Bool)
  | disconnect
deriving Repr, DecidableEq

/-- The driver, and the serial line: what is on it, what the readings and the sendings
    to come find, and what has been sent. `heard` to `told` are not in the code: the
    lines about the connection that were read and those the state was changed for, and
    of the events that a connection is there or gone, those that were to be returned and
    those that were. -/
structure Radio where
  bt : Bt
  state : State
  event : Event
  btVersion : UInt8
  devices : Nat
  newDevices : Nat
  waitEventStatus : Nat
  waitEventString : List UInt8
  line : List UInt8
  arrivals : List Arrival
  wakes : List Wake
  sent : List (List Char)
  heard : List Line
  heeded : List Line
  due : List Event
  told : List Event

/-- `BT_MAX_SCAN`. -/
def maxScan : Nat := 5

/-- `strncmp(buf + pos, text, strlen(text)) == 0`. -/
def Bt.holds (s : Bt) (pos : Nat) : List UInt8 → Bool
  | [] => true
  | c :: text => s.buf pos == c && s.holds (pos + 1) text

/-- The line ends ahead of the text in the buffer. -/
def Bt.leading (s : Bt) : Nat :=
  ((List.range 256).takeWhile fun i => s.buf i == cr || s.buf i == lf).length

/-- The line about the connection that is in the buffer. In data mode `DISCONNECT` is
    looked for after the line ends. -/
def Bt.lineRead (s : Bt) : Option Line :=
  if s.holds 0 (ascii textConnect) then some .connect
  else if s.holds 0 (ascii textBrsp) then some (.brsp (s.buf 7 == 49))
  else if s.holds (if s.mode = .data then s.leading else 0) (ascii textDisconnect) then
    some .disconnect
  else none

/-- A connection is there, or gone. -/
def Event.links : Event → Bool
  | .connect | .disconnect => true
  | _ => false

namespace Radio

/-- What `BT::read` makes of what arrives. -/
def reading (s : Radio) : Bt × Nat × List UInt8 :=
  let a := s.arrivals.headD ⟨[], []⟩
  Bluetooth.read a.timing (s.line ++ a.bytes) s.bt

/-- The line about the connection that the next reading brings. -/
def hears (s : Radio) : Option Line :=
  if s.bt.present = false ∨ s.reading.2.1 = 0 then none else s.reading.1.lineRead

/-- `BT::read`. -/
def read (s : Radio) : Radio × Nat :=
  ({ s with
    bt := s.reading.1
    line := s.reading.2.2
    arrivals := s.arrivals.tail
    heard := s.heard ++ s.hears.toList }, s.reading.2.1)

/-- `strncmp(buf, text, strlen(text)) == 0`. -/
def starts (s : Radio) (text : List Char) : Bool := s.bt.holds 0 (ascii text)

/-- The readings of `checkOK`. -/
def awaitOK : Nat → Radio → Radio × Bool
  | 0, s => (s, false)
  | n + 1, s =>
    let t := s.read.1
    if t.starts textOK then (t, true) else awaitOK n t

/-- `BT::checkOK`. -/
def checkOK (s : Radio) : Radio × Bool :=
  if s.bt.present = false then (s, true) else awaitOK 4 s

/-- `BT::send` and `BT::sendP`, with `BT::wake`. -/
def send (s : Radio) (text : List Char) : Radio :=
  if s.bt.present = false then s
  else
    let wake := s.wakes.headD .ready
    { s with
      wakes := s.wakes.tail
      state := if s.state = .sleep ∧ wake = .late then .idle else s.state
      sent := if wake = .never then s.sent else s.sent ++ [text] }

/-- `mode`. -/
def setMode (s : Radio) (mode : Mode) : Radio := { s with bt := { s.bt with mode := mode } }

/-- `BT::cmdMode`. -/
def cmdMode (s : Radio) : Radio × Bool :=
  if s.bt.present = false then (s, true)
  else if s.bt.mode = .data then
    let r := (s.send ['+', '+', '+', '\r']).checkOK
    if r.2 then (r.1.setMode .cmd, true) else (r.1, false)
  else (s, true)

/-- `BT::dataMode`. -/
def dataMode (s : Radio) : Radio × Bool :=
  if s.bt.present = false then (s, true)
  else if s.state = .connected then
    if s.bt.mode = .cmd then
      let r := (s.send ['A', 'T', 'M', 'D', '\r']).checkOK
      if r.2 then (r.1.setMode .data, true) else (r.1, false)
    else (s, true)
  else (s, false)

/-- `BT::sendCMD`. -/
def sendCMD (s : Radio) (text : List Char) : Radio :=
  if s.bt.present = false then s else s.cmdMode.1.send text

/-- A command that waits for its `OK`. -/
def command (s : Radio) (text : List Char) : Radio × Bool := (s.sendCMD text).checkOK

/-- `BT::disconnect`. -/
def disconnect (s : Radio) : Radio × Bool :=
  if s.bt.present = false then (s, true) else s.command ['A', 'T', 'D', 'H', ',', '0', '\r']

/-- A command that is given only while nothing is connected, with the state it leaves
    the driver in while it waits for its `OK`. -/
def unlinked (s : Radio) (text : List Char) (leave : Radio → Radio) : Radio × Bool :=
  if s.bt.present = false then (s, true)
  else if s.state.linked then (s, false)
  else (leave (s.sendCMD text)).checkOK

/-- `BT::cancel`. -/
def cancel (s : Radio) : Radio × Bool :=
  s.unlinked ['A', 'T', 'D', 'C', '\r'] fun t => { t with state := .idle }

/-- `BT::advertise`. -/
def advertise (s : Radio) : Radio × Bool :=
  s.unlinked ['A', 'T', 'D', 'S', 'L', 'E', '\r'] fun t => t

/-- `BT::cancelScan`. -/
def cancelScan (s : Radio) : Radio × Bool :=
  s.unlinked ['A', 'T', 'D', 'C', ',', '1', ',', '1', '\r'] fun t => { t with state := .idle }

/-- `BT::scan`. The state is set before the command is given. -/
def scan (s : Radio) : Radio × Bool :=
  if s.bt.present = false then (s, true)
  else if s.state.linked then (s, false)
  else { s with state := .scan, newDevices := 0 }.command ['A', 'T', 'D', 'I', 'L', 'E', '\r']

/-- `BT::connect`. -/
def connect (s : Radio) (addr : List Char) : Radio × Bool :=
  if s.bt.present = false then (s, true)
  else
    (((s.cancel.1.sendCMD ['A', 'T', 'D', 'M', 'L', 'E', ',']).sendCMD addr).sendCMD
      ['\r']).checkOK

/-- `BT::version`: the version's digit is the seventh byte of the line after the `OK`. -/
def version (s : Radio) : Radio × UInt8 :=
  if s.bt.present = false then (s, 1)
  else
    let r := s.command ['A', 'T', 'V', '?', '\r']
    let t := r.1.read.1
    if r.2 && (List.range 5).all fun i => t.bt.buf (i + 2) != 0 then
      ({ t with btVersion := t.bt.buf 6 - 48 }, t.bt.buf 6 - 48)
    else (t, t.btVersion)

/-- `BT::sleep`. -/
def sleep (s : Radio) : Radio × Bool :=
  if s.bt.present = false then (s, true)
  else if s.state.linked then (s, false)
  else
    let r := { s.cancel.1 with state := .sleep }.version
    if 3 ≤ r.2 then r.1.command ['A', 'T', 'Z', '\r'] else (r.1, true)

/-! ### The lines -/

/-- The state is changed for a line. -/
def heeds (s : Radio) (l : Line) : Radio := { s with heeded := s.heeded ++ [l] }

/-- A handler of `task`: what it makes of the driver and of the event to be returned. -/
abbrev Handler : Type := Radio × Event → Radio × Event

/-- A device has been found. -/
def discovery : Handler := fun r =>
  if r.1.starts textDiscovery &&
      r.1.bt.buf 10 == 54 && decide (r.1.newDevices < maxScan) then
    ({ r.1 with
      newDevices := r.1.newDevices + 1
      devices := max r.1.devices (r.1.newDevices + 1) }, .discovery)
  else r

/-- A connection has been made. -/
def connectLine : Handler := fun r =>
  if r.1.starts textConnect then
    let t := if r.1.state = .scan then r.1.cancelScan.1 else r.1
    ({ t.heeds .connect with devices := 0, state := .connected }, r.2)
  else r

/-- What it is connected to has said whether it takes packets. -/
def brspLine : Handler := fun r =>
  if r.1.starts textBrsp then
    if r.1.bt.buf 7 == 49 then
      ({ (r.1.setMode .data).heeds (.brsp true) with
        state := .connected, due := r.1.due ++ [Event.connect] }, .connect)
    else
      ({ (r.1.setMode .cmd).heeds (.brsp false) with state := .checkingNmx }.sendCMD
        ("ATGDCU,0,BF45E40ADE2A4BC8BBA0E5D6065F1B4B\r".toList), r.2)
  else r

/-- A characteristic has been found. -/
def gattDc : Handler := fun r =>
  if r.1.starts textGattDc then
    if r.1.state = .checkingNmx ∧
        r.1.bt.holds 19 (ascii "BF45E40ADE2A4BC8BBA0E5D6065F1B4B".toList) = true then
      ({ r.1.setMode .cmd with state := .connectedNmx, due := r.1.due ++ [Event.connect] }, .connect)
    else if r.1.state = .checkingGm ∧
        r.1.bt.holds 10 (ascii ['0', '0', '0', '3', '7']) = true then
      ({ r.1 with state := .authorizingGm }, r.2)
    else r
  else r

/-- All characteristics have been found. -/
def gattDone : Handler := fun r =>
  if r.1.starts textGattDone then
    match r.1.state with
    | .checkingNmx =>
      ({ r.1 with state := .checkingGm }.sendCMD
        ("ATGDCU,0,0000000200001000800000805F9B34FB\r".toList), r.2)
    | .checkingGm => ({ r.1 with state := .connected }.disconnect.1, r.2)
    | .authorizingGm =>
      ({ r.1.setMode .cmd with
        state := .connectedGm, due := r.1.due ++ [Event.connect] }.sendCMD
        ("ATGW,0,00037,0,012600\r".toList), .connect)
    | _ => r
  else r

/-- The connection is gone. -/
def disconnectLine : Handler := fun r =>
  if r.1.starts textDisconnect then
    ({ (r.1.setMode .cmd).heeds .disconnect with
      state := .idle, due := r.1.due ++ [Event.disconnect] }, .disconnect)
  else r

/-- The scan is over. -/
def doneLine : Handler := fun r =>
  if r.1.starts textDone then
    ({ r.1 with devices := r.1.newDevices }, .scanComplete)
  else r

/-- The line that `waitEvent` waits for. -/
def awaited : Handler := fun r =>
  if r.1.waitEventStatus = 1 ∧ r.1.bt.holds 0 r.1.waitEventString = true then
    ({ r.1 with waitEventStatus := 2 }, r.2)
  else r

/-- `task` on a line in command mode. -/
def commandLine (s : Radio) : Radio × Event :=
  awaited (doneLine (disconnectLine (gattDone (gattDc (brspLine (connectLine
    (discovery (s, .null))))))))

/-- `task` on what comes in data mode. -/
def packet (s : Radio) : Radio × Event :=
  if s.bt.holds s.bt.leading (ascii textDisconnect) then
    ({ (s.setMode .cmd).heeds .disconnect with
      state := .idle, due := s.due ++ [Event.disconnect] }, .disconnect)
  else if s.bt.dataId ≠ 0 then (s, .data)
  else (s, .null)

/-- `task` on what has been read. -/
def handle (s : Radio) (len : Nat) : Radio × Event :=
  if len = 0 then (s, .null)
  else if s.bt.mode = .cmd then s.commandLine
  else s.packet

/-- `BT::task`. -/
def task (s : Radio) : Radio × Event :=
  if s.bt.present = false then
    if s.state.linked then ({ s.setMode .cmd with state := .idle }, .disconnect)
    else (s, .null)
  else if s.bt.eventBuf ≠ .null then
    ({ s with event := s.bt.eventBuf, bt := { s.bt with eventBuf := .null } }, s.bt.eventBuf)
  else
    let r := s.read.1.handle s.read.2
    ({ r.1 with event := r.2 }, r.2)

/-- The event `waitEvent` has in mind is left for the next call of `task`. -/
def leaveEvent (s : Radio) (event : Event) : Radio :=
  { s with waitEventStatus := 0, bt := { s.bt with eventBuf := event } }

/-- The calls of `task` that `waitEvent` makes. -/
def awaitLine : Nat → Radio → Event → Radio × Bool
  | 0, s, event => (s.leaveEvent event, false)
  | n + 1, s, event =>
    let r := s.task
    let event := if r.2 = .null then event else r.1.event
    if r.1.waitEventStatus = 2 then (r.1.leaveEvent event, true) else awaitLine n r.1 event

/-- `BT::waitEvent`. -/
def waitEvent (s : Radio) (text : List UInt8) : Radio × Bool :=
  if s.bt.present = false then (s, false)
  else awaitLine 1000 { s with waitEventString := text, waitEventStatus := 1 } .null

end Radio

/-- The calls of the driver. -/
inductive Request
  | scan
  | cancel
  | cancelScan
  | connect (addr : List Char)
  | disconnect
  | advertise
  | sleep
  | version
  | dataMode
  | cmdMode
  | sendCMD (text : List Char)
  | task
  | waitEvent (text : List UInt8)
deriving Repr, DecidableEq

/-- A line that is there when it is read. -/
def arrival (text : List Char) : Arrival :=
  ⟨List.replicate (text.length + 2) 0, ascii (text ++ ['\r', '\n'])⟩

/-- A call, and what the module does during it. -/
structure Label where
  request : Request
  arrivals : List Arrival
  wakes : List Wake
deriving Repr, DecidableEq

namespace Radio

/-- The event that `task` returns to the main loop is told. -/
def tell (r : Radio × Event) : Radio :=
  if r.2.links then { r.1 with told := r.1.told ++ [r.2] } else r.1

/-- What a call makes of the driver. -/
def call (s : Radio) : Request → Radio
  | .scan => s.scan.1
  | .cancel => s.cancel.1
  | .cancelScan => s.cancelScan.1
  | .connect addr => (s.connect addr).1
  | .disconnect => s.disconnect.1
  | .advertise => s.advertise.1
  | .sleep => s.sleep.1
  | .version => s.version.1
  | .dataMode => s.dataMode.1
  | .cmdMode => s.cmdMode.1
  | .sendCMD text => s.sendCMD text
  | .task => tell s.task
  | .waitEvent text => (s.waitEvent text).1

/-- The module does something during the next call. -/
def meets (s : Radio) (l : Label) : Radio := { s with arrivals := l.arrivals, wakes := l.wakes }

/-- The driver when the module has been set up. -/
def fresh : Radio where
  bt :=
    { present := true, mode := .cmd, dataId := 0, dataType := 0, dataSize := 0,
      deviceName := (0, 0), data := 0, eventBuf := .null, buf := fun _ => 0, btPower := 3 }
  state := .idle
  event := .null
  btVersion := 0
  devices := 0
  newDevices := 0
  waitEventStatus := 0
  waitEventString := []
  line := []
  arrivals := []
  wakes := []
  sent := []
  heard := []
  heeded := []
  due := []
  told := []

/-- One call. -/
def step (s : Radio) (l : Label) : Option Radio := some ((s.meets l).call l.request)

section Parts

/-! What the parts of the driver leave alone. -/

variable (s : Radio)

@[simp] theorem read_state : s.read.1.state = s.state := rfl

@[simp] theorem read_mode : s.read.1.bt.mode = s.bt.mode := (read_keeps _ _ _).1

@[simp] theorem read_present : s.read.1.bt.present = s.bt.present := (read_keeps _ _ _).2.1

theorem awaitOK_keeps (n : Nat) : (awaitOK n s).1.state = s.state ∧
    (awaitOK n s).1.bt.mode = s.bt.mode ∧ (awaitOK n s).1.bt.present = s.bt.present := by
  induction n generalizing s with
  | zero => exact ⟨rfl, rfl, rfl⟩
  | succ n ih =>
      rw [awaitOK]
      by_cases hok : s.read.1.starts textOK = true
      · simp only [hok, if_true]
        exact ⟨read_state s, read_mode s, read_present s⟩
      · simp only [hok, Bool.false_eq_true, if_false]
        obtain ⟨hstate, hmode, hpresent⟩ := ih s.read.1
        exact ⟨hstate, hmode.trans (read_mode s), hpresent.trans (read_present s)⟩

@[simp] theorem checkOK_state : s.checkOK.1.state = s.state := by
  unfold checkOK
  split_ifs
  · rfl
  · exact (awaitOK_keeps s 4).1

@[simp] theorem checkOK_mode : s.checkOK.1.bt.mode = s.bt.mode := by
  unfold checkOK
  split_ifs
  · rfl
  · exact (awaitOK_keeps s 4).2.1

@[simp] theorem checkOK_present : s.checkOK.1.bt.present = s.bt.present := by
  unfold checkOK
  split_ifs
  · rfl
  · exact (awaitOK_keeps s 4).2.2

variable (text : List Char)

@[simp] theorem send_bt : (s.send text).bt = s.bt := by
  unfold send
  split_ifs <;> rfl

/-- A sending can do no more to the state than wake the module up. -/
theorem send_state : (s.send text).state = s.state ∨
    s.state = .sleep ∧ (s.send text).state = .idle := by
  unfold send
  by_cases hpresent : s.bt.present = false
  · rw [if_pos hpresent]
    exact Or.inl rfl
  · rw [if_neg hpresent]
    by_cases hwake : s.state = .sleep ∧ s.wakes.headD .ready = .late
    · exact Or.inr ⟨hwake.1, if_pos hwake⟩
    · exact Or.inl (if_neg hwake)

/-- In command mode there is nothing to leave. -/
theorem cmdMode_cmd (h : s.bt.mode = .cmd) : s.cmdMode = (s, true) := by
  unfold cmdMode
  simp only [h, reduceCtorEq, if_false, ite_self]

/-- A command given in command mode is only sent. -/
theorem sendCMD_cmd (h : s.bt.mode = .cmd) : s.sendCMD text = s.send text := by
  unfold sendCMD
  rw [cmdMode_cmd s h]
  split_ifs with hpresent
  · rw [send, if_pos hpresent]
  · rfl

end Parts

end Radio

end Bluetooth

end TimelapsePlus
