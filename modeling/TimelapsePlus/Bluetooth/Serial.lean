import Mathlib.Data.Nat.Notation
import Mathlib.Logic.Function.Basic

/-!
# Bluetooth Serial Line

The driver of the Bluetooth module as far as the serial line goes: what
`BT::sendDATA` puts on the line and what `BT::read` makes of what comes from
it. In data mode the bytes are packets, a header of six bytes and the payload;
in command mode they are lines of text.

The line is a list of bytes that have not been read. A call of `read` polls the
line for each byte, and gives up when it has polled too often: 5000 times
before the first byte that counts, 50000 times after it. How long the bytes
keep a call waiting is its `timing`, one count for each byte; where the counts
end the line stays silent.

Two stores of `read` leave the fields they are meant for. The second size byte
is stored through a pointer to the 16-bit word after `dataSize`, which is the
name of the first device found; and the final NUL of a full buffer lands in the
byte after it. Both neighbours are fields here.

## Main definitions

* `Mode`, `Event`: The modes of the driver and the events it reports.
* `Bt`: The fields of the driver that the serial line touches.
* `packetBytes`, `sendDATA`: What is sent for a packet.
* `received`: The body of the loop of `read`, for one byte.
* `readLoop`, `read`: One call of `read`.
-/

namespace TimelapsePlus

namespace Bluetooth

/-- `BT_MODE_CMD` and `BT_MODE_DATA`. -/
inductive Mode
  | cmd
  | data
deriving Repr, DecidableEq

/-- The `BT_EVENT_` codes. -/
inductive Event
  | null
  | discovery
  | connect
  | disconnect
  | data
  | scanComplete
deriving Repr, DecidableEq

/-- The code of an event. -/
def Event.code : Event → UInt8
  | .null => 0
  | .discovery => 1
  | .connect => 2
  | .disconnect => 3
  | .data => 4
  | .scanComplete => 5

/-- `BT_BUF_SIZE`. -/
def bufSize : Nat := 128

/-- `'\n'`. -/
def lf : UInt8 := 10

/-- `'\r'`. -/
def cr : UInt8 := 13

/-- `'$'`, the first byte of a packet. -/
def dollar : UInt8 := 36

/-- `':'`, the last byte of a packet's header. -/
def colon : UInt8 := 58

/-- The fields of `BT` that reading touches. -/
structure Bt where
  present : Bool
  mode : Mode
  dataId : UInt8
  dataType : UInt8
  dataSize : Nat
  /-- The first two bytes of `device[0].name`, which lie after `dataSize`. -/
  deviceName : UInt8 × UInt8
  /-- Where in `buf` the pointer `data` points. -/
  data : Nat
  /-- The byte before `buf`. -/
  eventBuf : Event
  buf : Nat → UInt8
  /-- The byte after `buf`. -/
  btPower : UInt8

/-- `buf[i] = c`, for an index up to the one past the end. -/
def Bt.setBuf (s : Bt) (i : Nat) (c : UInt8) : Bt :=
  if i < bufSize then { s with buf := Function.update s.buf i c } else { s with btPower := c }

/-- `buf[bytes - 1]`, the byte before the buffer when there is none. -/
def Bt.last (s : Bt) (bytes : Nat) : UInt8 :=
  if bytes = 0 then s.eventBuf.code else s.buf (bytes - 1)

/-! ### Sending -/

/-- A packet as it goes over the line. -/
def packetBytes (id type : UInt8) (buffer : List UInt8) : List UInt8 :=
  dollar :: id :: type :: UInt8.ofNat buffer.length :: UInt8.ofNat (buffer.length / 256)
    :: colon :: buffer

/-- Bytes handed over one by one, each when `waitRTS` has seen the module
    ready; at the first one it is not ready for, sending stops. -/
def handed : List Bool → List UInt8 → List UInt8
  | true :: ready, b :: bs => b :: handed ready bs
  | _, _ => []

/-- `BT::sendDATA`: what it returns and what it puts on the line. `dataMode`
    is what `dataMode()` returns, `ready` what each wait for the module's RTS
    comes to, the first of them ahead of the packet. -/
def sendDATA (present dataMode : Bool) (ready : List Bool) (id type : UInt8)
    (buffer : List UInt8) : Nat × List UInt8 :=
  if present = false then (1, [])
  else if dataMode = false then (0, [])
  else match ready with
    | true :: ready => (1, handed ready (packetBytes id type buffer))
    | _ => (0, [])

/-! ### Reading -/

/-- How often a call polls the line for the next byte. -/
def patience (bytes : Nat) : Nat := if bytes > 0 then 50000 else 5000

/-- A header is complete and its colon is in its place. -/
def Bt.headed (s : Bt) (bytes : Nat) : Bool :=
  decide (bytes > 5) && s.buf 0 == dollar && s.buf 5 == colon

/-- A header is taken over. -/
def Bt.accept (s : Bt) : Bt :=
  { s with
    dataId := s.buf 1
    dataType := s.buf 2
    dataSize := (s.buf 3).toNat
    deviceName := (s.buf 4, 0)
    data := 6 }

/-- A byte that starts a packet after bytes that belong to none. -/
def Bt.restarts (s : Bt) (bytes : Nat) : Bool :=
  s.buf 0 != dollar && decide (bytes > 1) && s.last bytes == dollar

/-- What the loop does in data mode with the byte stored last: whether it ends
    the call there. -/
def Bt.dataByte (s : Bt) (bytes : Nat) : Bt × Bool :=
  if s.dataSize > 0 then (s, decide (bytes > s.dataSize + 5))
  else if s.headed bytes then (s.accept, decide (s.accept.dataSize = 0))
  else (s, s.buf 0 != dollar && s.last bytes == lf)

/-- The body of the loop once the byte is stored and counted: the count after
    it, and whether the loop ends. -/
def Bt.counted (s : Bt) (bytes : Nat) : Bt × Nat × Bool :=
  match s.mode with
  | .cmd => (s, bytes, (decide (bytes > 0) && s.last bytes == lf) || decide (bytes ≥ bufSize))
  | .data =>
    if s.restarts bytes then
      let r := (s.setBuf 0 dollar).dataByte 1
      (r.1, 1, r.2)
    else
      let r := s.dataByte bytes
      (r.1, bytes, r.2 || decide (bytes ≥ bufSize))

/-- A line end ahead of the first byte is stored but not counted. -/
def skipped (bytes : Nat) (c : UInt8) : Bool :=
  decide (bytes = 0) && (c == lf || c == cr)

/-- The body of the loop, for the byte that has come. -/
def received (s : Bt) (bytes : Nat) (c : UInt8) : Bt × Nat × Bool :=
  (s.setBuf bytes c).counted (if skipped bytes c then bytes else bytes + 1)

/-- The loop: the state and the count it ends with, and what is left on the
    line. -/
def readLoop : List Nat → List UInt8 → Bt → Nat → Bt × Nat × List UInt8
  | polls :: timing, c :: line, s, bytes =>
    if polls > patience bytes then (s, bytes, c :: line)
    else
      let r := received s bytes c
      if r.2.2 then (r.1, r.2.1, line) else readLoop timing line r.1 r.2.1
  | _, line, s, bytes => (s, bytes, line)

/-- `BT::read`: the state after the call, what it returns, and what is left on
    the line. -/
def read (timing : List Nat) (line : List UInt8) (s : Bt) : Bt × Nat × List UInt8 :=
  if s.present = false then (s, 1, line)
  else
    let r := readLoop timing line { s with dataId := 0, dataSize := 0 } 0
    (r.1.setBuf r.2.1 0, r.2.1, r.2.2)

end Bluetooth

end TimelapsePlus
