import Mathlib.Logic.Function.Basic
import TimelapsePlus.Lib.Run

/-!
# The Driver of the Light Sensor's Bus

The light sensor hangs on a two-wire bus, and the driver is the master of it. A transfer is
begun with a message in a buffer of four bytes. From then on an interrupt goes on with it:
the bus hardware says in a status register what has happened, and the routine answers in a
control register what is to happen next. It sends the next byte of the buffer, or stores
the byte that has come and says whether the next one is to be acknowledged, or it ends the
transfer. Whether the interrupt is enabled says whether a transfer is underway.

The functions that begin a transfer wait until none is underway, but not for long: when the
count runs out they do nothing. So a call finds the bus idle or it has no effect, and the
interrupts of the wait come before it.

The status flags are a union, whose members all start at its first bit. So the flag for a
memory read and the flag for a successful transfer are one and the same.

The hardware is not part of the source. What it does is taken from the names that the
source gives the status codes: what comes after a start is a start that has been sent,
after an address its answer, and so on; and it may lose the arbitration, or find an error,
at any time that the codes provide for.

## Main definitions

* `Status`: The status codes.
* `Control`: What is written to the control register.
* `Master`: The variables of the driver.
* `isr`: The interrupt routine.
* `startReadWrite`, `startRandomRead`, `startTransceiver`: The calls that begin a transfer.
* `readDataFromBuffer`: What a transfer has brought.
* `Phase`, `Signal`: What the hardware is doing, and what has gone over the bus.
* `System`, `step`: The driver on its bus, and one step of either.
-/

namespace TimelapsePlus

namespace Twi

/-- `TWI_BUFFER_SIZE`. -/
def bufferSize : Nat := 4

/-- The status codes that the driver knows. -/
inductive Status
  | start
  | repStart
  | arbLost
  | mtxAdrAck
  | mtxAdrNack
  | mtxDataAck
  | mtxDataNack
  | mrxAdrAck
  | mrxAdrNack
  | mrxDataAck
  | mrxDataNack
  | busError
deriving Repr, DecidableEq

/-- `TWI_START` and so on. -/
def Status.code : Status → UInt8
  | .start => 0x08
  | .repStart => 0x10
  | .arbLost => 0x38
  | .mtxAdrAck => 0x18
  | .mtxAdrNack => 0x20
  | .mtxDataAck => 0x28
  | .mtxDataNack => 0x30
  | .mrxAdrAck => 0x40
  | .mrxAdrNack => 0x48
  | .mrxDataAck => 0x50
  | .mrxDataNack => 0x58
  | .busError => 0x00

/-- `switch(TWSR & 0xf8)`. -/
def Status.decode (twsr : UInt8) : Option Status :=
  [Status.start, .repStart, .arbLost, .mtxAdrAck, .mtxAdrNack, .mtxDataAck, .mtxDataNack,
    .mrxAdrAck, .mrxAdrNack, .mrxDataAck, .mrxDataNack, .busError].find? fun s =>
      s.code == twsr &&& 0xf8

/-- `TWI_NO_STATE`. -/
def noState : UInt8 := 0xF8

/-- The bits of `TWCR` that are ever set beside `TWEN`. -/
structure Control where
  twie : Bool
  twint : Bool
  twea : Bool
  twsta : Bool
  twsto : Bool
deriving Repr, DecidableEq

/-- The interrupt is enabled, and a start is to be sent. -/
def Control.begin : Control := ⟨true, true, false, true, false⟩

/-- The interrupt is enabled, and the hardware goes on. -/
def Control.goOn (ack : Bool) : Control := ⟨true, true, ack, false, false⟩

/-- The interrupt is disabled, and a stop is to be sent. -/
def Control.finish : Control := ⟨false, true, false, false, true⟩

/-- The interrupt is disabled, and the hardware lets go. -/
def Control.release : Control := ⟨false, false, false, false, false⟩

/-- The variables of the driver and the registers it writes to, and whether it has ever
    gone outside of the buffer. -/
structure Master where
  buf : Nat → UInt8
  bufPtr : UInt8
  msgSize : UInt8
  savedMsgSize : UInt8
  state : UInt8
  statusReg : UInt8
  twdr : UInt8
  twcr : Control
  outside : Bool

namespace Master

/-- The first bit of the flags. -/
def flag (m : Master) : Bool := m.statusReg &&& 1 != 0

/-- It is written, and the others stay. -/
def setFlag (m : Master) (v : Bool) : Master :=
  { m with statusReg := (m.statusReg &&& 0xfe) ||| if v then 1 else 0 }

/-- `TWI_statusReg.lastTransOK`. -/
def lastTransOK (m : Master) : Bool := m.flag

/-- `TWI_statusReg.memRead`, which is the same bit. -/
def memRead (m : Master) : Bool := m.flag

/-- `TWI_buf[i]` is read or written to. -/
def touch (m : Master) (i : UInt8) : Master :=
  { m with outside := m.outside || decide (bufferSize ≤ i.toNat) }

/-- `TWI_buf[i] = v`. -/
def put (m : Master) (i v : UInt8) : Master :=
  { m.touch i with buf := Function.update m.buf i.toNat v }

/-! ### The interrupt -/

/-- The next byte is sent, or the transfer ends. -/
def sendNext (m : Master) : Master :=
  if m.bufPtr < m.msgSize then
    { m.touch m.bufPtr with
      twdr := m.buf m.bufPtr.toNat, bufPtr := m.bufPtr + 1, twcr := .goOn false }
  else if m.memRead then
    { m.put 0 (m.buf 0 ||| 1) with
      msgSize := m.savedMsgSize, statusReg := 0, state := noState, twcr := .begin }
  else { m.setFlag true with twcr := .finish }

/-- The last byte is not to be acknowledged. -/
def receiveNext (m : Master) : Master :=
  { m with twcr := .goOn (decide ((m.bufPtr.toNat : Int) < (m.msgSize.toNat : Int) - 1)) }

/-- `ISR(TWI_vect)`, with what is in `TWSR` and in `TWDR`. -/
def isr (m : Master) (twsr twdr : UInt8) : Master :=
  match Status.decode twsr with
  | some .start | some .repStart => sendNext { m with bufPtr := 0 }
  | some .mtxAdrAck | some .mtxDataAck => sendNext m
  | some .mrxDataAck => receiveNext { m.put m.bufPtr twdr with bufPtr := m.bufPtr + 1 }
  | some .mrxAdrAck => receiveNext m
  | some .mrxDataNack => { (m.put m.bufPtr twdr).setFlag true with twcr := .finish }
  | some .arbLost => { m with twcr := .begin }
  | _ => { m with state := twsr &&& 0xf8, twcr := .release }

/-! ### The calls -/

/-- A transfer is underway. -/
def busy (m : Master) : Bool := m.twcr.twie

/-- The start of a transfer is ordered. -/
def go (m : Master) : Master := { m.setFlag false with state := noState, twcr := .begin }

/-- `for(temp = 1; temp < msgSize; temp++) TWI_buf[temp] = msg[temp];` -/
def fill (m : Master) (msg : List UInt8) (msgSize : UInt8) : Master :=
  ((List.range msgSize.toNat).drop 1).foldl
    (fun m i => m.put (UInt8.ofNat i) (msg.getD i 0)) m

/-- `TWI_Start_Read_Write`, when the wait is over. -/
def startReadWrite (m : Master) (msg : List UInt8) (msgSize : UInt8) : Master :=
  if m.busy then m
  else
    let first := { m with msgSize := msgSize }.put 0 (msg.getD 0 0)
    (if msg.getD 0 0 &&& 1 = 0 then first.fill msg msgSize else first).go

/-- `TWI_Start_Random_Read`. -/
def startRandomRead (m : Master) (msg : List UInt8) (msgSize : UInt8) : Master :=
  ({ m with savedMsgSize := msgSize }.setFlag true).startReadWrite
    ((msg.getD 0 0 &&& 0xfe) :: msg.tail) 2

/-- `TWI_Start_Transceiver`. -/
def startTransceiver (m : Master) : Master := if m.busy then m else m.go

/-- `TWI_Read_Data_From_Buffer`: what it makes of the message of the caller. -/
def readDataFromBuffer (m : Master) (msg : List UInt8) (msgSize : UInt8) : List UInt8 :=
  if !m.busy && m.lastTransOK then
    (List.range msg.length).map fun i =>
      if i < msgSize.toNat then m.buf i else msg.getD i 0
  else msg

/-- The driver after `TWI_Master_Initialise`. -/
def fresh : Master where
  buf := fun _ => 0
  bufPtr := 0
  msgSize := 0
  savedMsgSize := 0
  state := noState
  statusReg := 0
  twdr := 0xFF
  twcr := .release
  outside := false

end Master

/-! ### The bus -/

/-- What the hardware is doing. -/
inductive Phase
  | quiet
  | starting
  | addressing (b : UInt8)
  | sending (b : UInt8)
  | receiving (ack : Bool)
deriving Repr, DecidableEq

/-- What has gone over the bus: a byte with whether the sensor has acknowledged it, or a
    byte of the sensor with whether it has been acknowledged. -/
inductive Signal
  | start
  | address (b : UInt8) (ack : Bool)
  | data (b : UInt8) (ack : Bool)
  | received (b : UInt8) (ack : Bool)
  | stop
deriving Repr, DecidableEq

/-- What may have happened. -/
def Phase.answers : Phase → Status → Bool
  | .starting, .start | .starting, .repStart => true
  | .addressing b, .mtxAdrAck | .addressing b, .mtxAdrNack => b &&& 1 = 0
  | .addressing b, .mrxAdrAck | .addressing b, .mrxAdrNack => b &&& 1 ≠ 0
  | .sending _, .mtxDataAck | .sending _, .mtxDataNack => true
  | .receiving true, .mrxDataAck => true
  | .receiving false, .mrxDataNack => true
  | .addressing _, .arbLost | .sending _, .arbLost | .receiving false, .arbLost => true
  | .quiet, _ => false
  | _, .busError => true
  | _, _ => false

/-- What goes over the bus with it. -/
def Phase.signals (log : List Signal) (byte : UInt8) : Phase → Status → List Signal
  | _, .start | _, .repStart => [.start]
  | .addressing b, .mtxAdrAck | .addressing b, .mrxAdrAck => log ++ [.address b true]
  | .addressing b, .mtxAdrNack | .addressing b, .mrxAdrNack => log ++ [.address b false]
  | .sending b, .mtxDataAck => log ++ [.data b true]
  | .sending b, .mtxDataNack => log ++ [.data b false]
  | .receiving ack, .mrxDataAck | .receiving ack, .mrxDataNack => log ++ [.received byte ack]
  | _, _ => log

/-- What the hardware does next, as it is told. -/
def Phase.obey (status : Option Status) (twcr : Control) (twdr : UInt8) : Phase :=
  if twcr.twint then
    if twcr.twsta then .starting
    else if twcr.twsto then .quiet
    else match status with
      | some .start | some .repStart => .addressing twdr
      | some .mtxAdrAck | some .mtxDataAck => .sending twdr
      | some .mrxAdrAck | some .mrxDataAck => .receiving twcr.twea
      | _ => .quiet
  else .quiet

/-- The driver on its bus, what has gone over the bus since the last start, and the message
    of the transfer that was begun last. -/
structure System where
  master : Master
  phase : Phase
  log : List Signal
  asked : List UInt8

/-- What happens: the hardware has done something, with the byte in its data register, or
    a function is called. -/
inductive Label
  | answer (twsr byte : UInt8)
  | startReadWrite (msg : List UInt8) (msgSize : UInt8)
  | startRandomRead (msg : List UInt8) (msgSize : UInt8)
  | startTransceiver
deriving Repr, DecidableEq

namespace System

/-- A call has begun a transfer, if none was underway. -/
def called (s : System) (m : Master) (asked : List UInt8) : System :=
  if s.master.busy then { s with master := m }
  else { s with master := m, phase := .obey none m.twcr m.twdr, log := [], asked := asked }

/-- The interrupt routine has answered. -/
def after (s : System) (status : Status) (twsr byte : UInt8) : System :=
  let m := s.master.isr twsr byte
  let log := s.phase.signals s.log byte status
  { s with
    master := m
    phase := .obey (some status) m.twcr m.twdr
    log := if m.twcr.twsto then log ++ [.stop] else log }

/-- The hardware has done something. -/
def answer (s : System) (twsr byte : UInt8) : Option System :=
  match Status.decode twsr with
  | none => none
  | some status =>
    if s.phase.answers status then some (s.after status twsr byte) else none

/-- One step. -/
def step (s : System) : Label → Option System
  | .answer twsr byte => s.answer twsr byte
  | .startReadWrite msg msgSize =>
    some (s.called (s.master.startReadWrite msg msgSize)
      ((List.range msgSize.toNat).map fun i => msg.getD i 0))
  | .startRandomRead msg msgSize =>
    some (s.called (s.master.startRandomRead msg msgSize) [msg.getD 0 0 &&& 0xfe, msg.getD 1 0])
  | .startTransceiver => some (s.called s.master.startTransceiver s.asked)

/-- Nothing has been transferred yet. -/
def fresh : System := ⟨.fresh, .quiet, [], []⟩

end System

end Twi

end TimelapsePlus
