import TimelapsePlus.Bluetooth.Remote
import TimelapsePlus.Notify.Changes

/-!
# Two Units That Remote-Control Each Other

Two units are connected, and each keeps copies of what the other one shows: the battery,
the status, whether a run goes on. One unit asks for a value, or has it watched, and the
other sends it. Here a unit is the driver, the `Remote` object and the table of watched
values together, as the main loop drives them.

One pass of the loop has three parts. In `menu.task` and `timer.task` the values change
and the pages of the menu ask for things. Then `bt.task` takes what has come, and
`notify.task` sends the watched values that have changed. Last the battery is read and
the camera is asked, and `remote.event` handles what has come. Between any two of these
the other unit does what it likes.

What is underway to a unit stands in its inbox. It is read byte by byte, as the driver
does it, from the bytes that `sendDATA` makes of it. A packet may be lost, and it comes
whole if it comes. When the connection goes, both units are told behind what is underway
to them, and what they send from then on is lost until there is a new one. What the
module answers to commands is not part of this.

The firmware also watches four values for its messages. Their entries stand in the same
table, so they are here too.

## Main definitions

* `Listener`: The functions that are told of a change.
* `Item.addr`, `Peer.memory`: Where the watched values are.
* `Cargo`: What is underway.
* `Peer`: A unit.
* `Peer.send`, `Peer.remoteNotify`: `Remote::send` and `remote_notify`.
* `Ask`, `Peer.ask`: What the pages of the menu ask for.
* `Peer.menu`, `Peer.radio`, `Peer.late`: The parts of the main loop.
* `Pair`, `Pair.Label`, `Pair.step`: Both units, and one step of either.
-/

namespace TimelapsePlus

namespace Bluetooth

/-- `message_notify` and `remote_notify`, and the null pointer of an empty entry. -/
inductive Listener
  | null
  | messageNotify
  | remoteNotify
deriving Repr, DecidableEq

/-- `NOTIFY_CHARGE`. -/
def notifyCharge : UInt8 := 1

/-- `NOTIFY_BT`. -/
def notifyBt : UInt8 := 2

/-- `NOTIFY_CAMERA`. -/
def notifyCamera : UInt8 := 3

/-- `NOTIFY_NMX`. -/
def notifyNmx : UInt8 := 4

/-- `REMOTE_MODEL_TLP`. -/
def modelTlp : UInt8 := 1

/-- `VERSION`. -/
def firmwareVersion : Nat := 20160310

/-- `REMOTE_VERSION`. -/
def remoteVersion : Nat := 20130509

/-- The bytes of an `unsigned long`, the lowest first. -/
def longBytes (n : Nat) : List UInt8 := (List.range 4).map fun i => UInt8.ofNat (n / 256 ^ i)

/-! ### The memory of a unit -/

/-- Where a value that may be watched starts. -/
def Item.addr : Item → Nat
  | .status => 0
  | .batteryPercent => timerStatusSize
  | .running => timerStatusSize + 1
  | .recording => timerStatusSize + 2
  | .modeLiveView => timerStatusSize + 3

/-- `sizeof` of such a value. -/
def Item.size : Item → UInt8
  | .status => UInt8.ofNat timerStatusSize
  | _ => 1

/-- Where `charge_status` is. -/
def chargeStatusAddr : Nat := timerStatusSize + 4

/-- Where `PTP_Ready` is. -/
def ptpReadyAddr : Nat := timerStatusSize + 5

/-- Where the answer of `camera.iso()` is. -/
def isoAddr : Nat := timerStatusSize + 6

/-- Where the answer of `camera.aperture()` is. -/
def apertureAddr : Nat := timerStatusSize + 7

/-- Where the answer of `camera.shutter()` is. -/
def shutterAddr : Nat := timerStatusSize + 8

/-- Where the `Remote` object starts. -/
def remoteBase : Nat := timerStatusSize + 9

/-- What is underway to a unit: the module's lines that the connection is there or gone,
    and packets. -/
inductive Cargo
  | up
  | down
  | packet (id type : UInt8) (payload : List UInt8)
deriving Repr, DecidableEq

/-- A packet as `sendDATA` puts it on the line when the module is ready for all of it. -/
def Cargo.bytes : Cargo → List UInt8
  | .packet id type payload =>
    (Bluetooth.sendDATA true true (List.replicate (payload.length + 7) true) id type payload).2
  | _ => []

/-- Where a unit is in its main loop. -/
inductive Place
  | menu
  | radio
  | late
deriving Repr, DecidableEq

/-- A unit: the driver, the `Remote` object, the watched values, and the memory these are
    in. -/
structure Peer where
  bt : Bt
  state : State
  event : Event
  remote : Remote
  table : Notify Listener
  vars : Nat → UInt8
  place : Place

namespace Peer

/-- The memory: the values, and behind them the `Remote` object. -/
def memory (p : Peer) (a : Nat) : UInt8 :=
  if a < remoteBase then p.vars a else p.remote.mem (a - remoteBase)

/-- `timer.running`, as a condition. -/
def running (p : Peer) : Bool := p.vars (Item.addr .running) != 0

/-- The bytes of a value. -/
def value (p : Peer) (item : Item) : List UInt8 := Notify.content p.memory item.addr item.size

/-! ### Sending -/

/-- What `Remote::send` sends for an id. -/
def payload (p : Peer) : Option Id → List UInt8
  | some .battery => p.value .batteryPercent
  | some .status => p.value .status
  | some .program => (List.range programSize).map p.remote.program
  | some .model => [modelTlp]
  | some .firmware => longBytes firmwareVersion
  | some .protocolVersion => longBytes remoteVersion
  | some .iso => [p.vars isoAddr]
  | some .aperture => [p.vars apertureAddr]
  | some .shutter => [p.vars shutterAddr]
  | some .video => p.value .recording
  | some .liveView => p.value .modeLiveView
  | _ => []

/-- `BT::sendDATA`: without a connection nothing is sent. -/
def sendDATA (p : Peer) (id type : UInt8) (payload : List UInt8) : List Cargo :=
  if p.state = .connected then [.packet id type payload] else []

/-- `Remote::send`. -/
def send (p : Peer) (id : UInt8) (kind : Kind) : List Cargo :=
  p.sendDATA id kind.code (p.payload (Id.decode id))

/-- `remote_notify`. -/
def remoteNotify (p : Peer) (id : UInt8) : List Cargo :=
  match Id.decode id with
  | some .start | some .stop => p.send (if p.running then Id.start.code else Id.stop.code) .send
  | _ => p.send id .send

/-- A handler is called. -/
def notified (p : Peer) : Listener × UInt8 → List Cargo
  | (.remoteNotify, id) => p.remoteNotify id
  | _ => []

/-- What a call of `remote.event` makes of the watched values. -/
def tabled (p : Peer) (t : Notify Listener) : Remote.Call → Notify Listener
  | .watch id item => (t.watch p.memory id.code item.addr item.size .remoteNotify).1
  | .unWatch id => t.unWatchPair id.code .remoteNotify
  | .unWatchAll => t.unWatchHandler .remoteNotify
  | _ => t

/-- What is sent for it. What the timer, the menu and the camera are asked to do shows in
    how the values change. -/
def served (p : Peer) : Remote.Call → List Cargo
  | .send id => p.send id.code .send
  | .request id => p.sendDATA id.code Kind.request.code []
  | _ => []

/-- The calls of `remote.event` are carried out. -/
def perform (p : Peer) (cs : List Remote.Call) : Peer × List Cargo :=
  ({ p with table := cs.foldl p.tabled p.table }, cs.flatMap p.served)

end Peer

/-! ### The main loop -/

/-- What the pages of the menu ask of the other unit: `Remote::request`, `Remote::watch`,
    `Remote::unWatch`, and `Remote::set` without a value and with one. -/
inductive Ask
  | request (id : Id)
  | watch (id : Id)
  | unWatch (id : Id)
  | set (id : Id)
  | setValue (id : Id) (v : UInt8)
deriving Repr, DecidableEq

namespace Peer

/-- What is sent for it. -/
def ask (p : Peer) : Ask → List Cargo
  | .request id => p.sendDATA id.code Kind.request.code []
  | .watch id => p.sendDATA id.code Kind.watch.code []
  | .unWatch id => p.sendDATA id.code Kind.unWatch.code []
  | .set id => p.send id.code .set
  | .setValue id v => p.sendDATA id.code Kind.set.code [v]

/-- `requestActive` is set by a request. -/
def noteAsk (r : Remote) : Ask → Remote
  | .request _ => r.store .requestActive 1
  | _ => r

/-- `menu.task` and `timer.task`: the values are others then, and the pages ask. -/
def menu (p : Peer) (vars : Nat → UInt8) (asks : List Ask) : Peer × List Cargo :=
  let q := { p with vars := vars, place := .radio }
  ({ q with remote := asks.foldl noteAsk q.remote }, asks.flatMap q.ask)

/-- `BT::task`, for what has come. -/
def hear (p : Peer) : Option Cargo → Peer
  | none => { p with event := .null }
  | some .up =>
    { p with event := .connect, state := .connected, bt := { p.bt with mode := .data } }
  | some .down =>
    { p with event := .disconnect, state := .idle, bt := { p.bt with mode := .cmd } }
  | some (.packet id type payload) =>
    let line := Cargo.bytes (.packet id type payload)
    let b := (read (List.replicate line.length 0) line p.bt).1
    { p with bt := b, event := if b.dataId ≠ 0 then .data else .null }

/-- `bt.task`, and `notify.task` behind it. -/
def radio (p : Peer) (heard : Option Cargo) : Peer × List Cargo :=
  let q := p.hear heard
  let r := q.table.task q.memory
  ({ q with table := r.1, place := .late }, r.2.flatMap q.notified)

/-- The driver as `remote.event` finds it. -/
def toRadio (p : Peer) : Radio :=
  { Radio.fresh with bt := p.bt, state := p.state, event := p.event }

/-- `Remote::event`, as far as the unit itself goes. -/
def heeded (p : Peer) : Radio × Remote :=
  Remote.event p.toRadio { p.remote with timerRunning := p.running, calls := [] }

/-- The battery and the camera, and `remote.event` if there is an event. -/
def late (p : Peer) (vars : Nat → UInt8) : Peer × List Cargo :=
  let q := { p with vars := vars, place := .menu }
  if q.event = .null then (q, [])
  else { q with event := q.heeded.1.event, remote := q.heeded.2 }.perform q.heeded.2.calls

/-- A unit at the start: the firmware has set up its own four watches. -/
def boot (remote : Remote) (vars : Nat → UInt8) : Peer :=
  let p : Peer :=
    { bt := Radio.fresh.bt, state := .idle, event := .null, remote := remote
      table := Notify.zero .null, vars := vars, place := .menu }
  let watch := fun (t : Notify Listener) (w : UInt8 × Nat) =>
    (t.watch p.memory w.1 w.2 1 .messageNotify).1
  let watches := [(notifyCharge, chargeStatusAddr), (notifyBt, remoteBase + Field.connected.start),
    (notifyNmx, remoteBase + Field.nmx.start), (notifyCamera, ptpReadyAddr)]
  { p with table := watches.foldl watch p.table }

end Peer

/-! ### Both units -/

/-- The two units. -/
inductive Side
  | left
  | right
deriving Repr, DecidableEq

/-- The other one. -/
def Side.other : Side → Side
  | .left => .right
  | .right => .left

@[simp] theorem Side.other_other (side : Side) : side.other.other = side := by
  cases side <;> rfl

@[simp] theorem Side.other_ne (side : Side) : side.other ≠ side := by
  cases side <;> exact Side.noConfusion

theorem Side.eq_other_of_ne {side one : Side} (h : one ≠ side) : one = side.other := by
  cases side <;> cases one <;> first | rfl | exact absurd rfl h

/-- Both units, what is underway to each, and whether they are connected. -/
structure Pair where
  peers : Side → Peer
  inbox : Side → List Cargo
  linked : Bool

/-- What a unit does next. -/
inductive Deed
  | menu (vars : Nat → UInt8) (asks : List Ask)
  | radio (takes : Bool)
  | late (vars : Nat → UInt8)

/-- What happens: a unit does something, something underway is lost, the connection goes
    or is made. -/
inductive Pair.Label
  | act (side : Side) (deed : Deed)
  | lose (side : Side) (i : Nat)
  | hangUp
  | connect

namespace Pair

/-- A unit has done something and sent what it sends. -/
def did (s : Pair) (side : Side) (r : Peer × List Cargo) : Pair :=
  { s with
    peers := Function.update s.peers side r.1
    inbox := Function.update s.inbox side.other
      (s.inbox side.other ++ if s.linked then r.2 else []) }

/-- What comes first is taken from the inbox. -/
def took (s : Pair) (side : Side) : Pair :=
  { s with inbox := Function.update s.inbox side (s.inbox side).tail }

/-- Both are told of the connection. -/
def tell (s : Pair) (c : Cargo) : Pair := { s with inbox := fun side => s.inbox side ++ [c] }

/-- A unit does something, each thing where it is in the main loop. -/
def act (s : Pair) (side : Side) : Deed → Option Pair
  | .menu vars asks =>
    if (s.peers side).place = .menu then some (s.did side ((s.peers side).menu vars asks)) else none
  | .radio takes =>
    if (s.peers side).place = .radio then
      if takes then
        match (s.inbox side).head? with
        | none => none
        | some c => some ((s.took side).did side ((s.peers side).radio (some c)))
      else some (s.did side ((s.peers side).radio none))
    else none
  | .late vars =>
    if (s.peers side).place = .late then some (s.did side ((s.peers side).late vars)) else none

/-- One step. Only a packet is ever lost. -/
def step (s : Pair) : Label → Option Pair
  | .act side deed => s.act side deed
  | .lose side i =>
    match (s.inbox side)[i]? with
    | some (.packet _ _ _) =>
      some { s with inbox := Function.update s.inbox side ((s.inbox side).eraseIdx i) }
    | _ => none
  | .hangUp => if s.linked then some { s.tell .down with linked := false } else none
  | .connect => if s.linked then none else some { s.tell .up with linked := true }

/-- Two units that have been switched on. -/
def boot (remote : Side → Remote) (vars : Side → Nat → UInt8) : Pair where
  peers side := Peer.boot (remote side) (vars side)
  inbox _ := []
  linked := false

end Pair

end Bluetooth

end TimelapsePlus
