import TimelapsePlus.Bluetooth.Driver
import TimelapsePlus.Bluetooth.Nmx
import TimelapsePlus.Bluetooth.NmxQuery

/-!
# Motor Controllers on the Radio

Three motors are moved over one radio, and this is what is written for it, down to the
bytes. A command to an NMX controller is given to the driver in pieces, a head and then
two hex digits for each byte: where it goes, what it is, and its data behind their number.
A Genie Mini has another head and is only told the steps and the direction. The one has
its steps with the most significant byte first and the direction apart, the other has a
signed word with the least significant byte first.

Before it moves an NMX controller waits for the motor to come to rest. It asks as long as
it is told that the motor is running. This may be forever, so the number of questions is
bounded here, and a call that needs more of them has no result.

What is heard at the other end is what the lines say that the radio module is given
(`order`). This is not in the code, but read off the heads and the digits. Two things are
kept for the proofs: the orders that were given, and the steps that were added to a
position although no order went out.

## Main definitions

* `uint8tohex`: Two hex digits.
* `Order`, `order`: What a controller is told, and what a line says.
* `Rig`: The driver, the motors, and what is known of their controller.
* `Rig.sendCommandGeneral`, `Rig.sendQueryGeneral`, `Rig.running`, `Rig.move`, `Rig.stop`,
  `Rig.checkConnected`: The functions of the source.
* `Rig.step`: A call of these or of the driver, and what the module does during it.

## Theorems

* `hexBytes_uint8tohex`: Hex digits are read back.
* `order_line`: A line says what was written.
* `Rig.move_eq`: A move is one of `Motor.move`, with what is found on the radio.
-/

namespace TimelapsePlus

namespace Bluetooth

open Nmx

/-! ### Digits -/

/-- A hex digit. -/
def hexChar (d : UInt8) : Char := if d < 10 then .ofNat (d.toNat + 48) else .ofNat (d.toNat + 55)

/-- `uint8tohex`, without the zero at the end of the text. -/
def uint8tohex (b : UInt8) : List Char := [hexChar ((b - b % 16) / 16), hexChar (b % 16)]

/-- So many bytes as text. -/
def hexText (bytes : List UInt8) : List Char := bytes.flatMap uint8tohex

/-- `"ATGW,0,28,0,0000000000FF"`. -/
def nmxHead : List Char :=
  ['A', 'T', 'G', 'W', ',', '0', ',', '2', '8', ',', '0', ',',
    '0', '0', '0', '0', '0', '0', '0', '0', '0', '0', 'F', 'F']

/-- `"ATGW,0,37,0,015E00"`. -/
def genieHead : List Char :=
  ['A', 'T', 'G', 'W', ',', '0', ',', '3', '7', ',', '0', ',', '0', '1', '5', 'E', '0', '0']

/-! ### Orders -/

/-- What a controller is told: a command to an NMX controller, or the signed steps and the
    direction to a Genie Mini. -/
inductive Order
  | nmx (node motor command : UInt8) (data : List UInt8)
  | genie (steps : UInt32) (dir : UInt8)
deriving Repr, DecidableEq

/-- The number of data bytes fits its byte. -/
def Order.Fits : Order → Prop
  | .nmx _ _ _ data => data.length < 256
  | .genie _ _ => True

/-- The bytes of a word, the least significant first. -/
def littleEndian (v : UInt32) : List UInt8 :=
  [v.toUInt8, (v >>> 8).toUInt8, (v >>> 16).toUInt8, (v >>> 24).toUInt8]

/-- The line that an order is written as. -/
def Order.line : Order → List Char
  | .nmx node motor command data =>
      nmxHead ++ hexText (node :: motor :: command :: UInt8.ofNat data.length :: data)
  | .genie steps dir => genieHead ++ hexText (littleEndian steps ++ [dir])

/-- The bytes behind a head, if there are only digits, two for each. -/
def bytesBehind (head line : List Char) : Option (List UInt8) :=
  if line.take head.length = head ∧ (line.length - head.length) % 2 = 0 then
    hexBytes ((line.length - head.length) / 2) (ascii (line.drop head.length))
  else none

/-- What a line says to an NMX controller. -/
def nmxOrder (line : List Char) : Option Order :=
  match bytesBehind nmxHead line with
  | some (node :: motor :: command :: dataLength :: data) =>
      if data.length = dataLength.toNat then some (.nmx node motor command data) else none
  | _ => none

/-- What it says to a Genie Mini. -/
def genieOrder (line : List Char) : Option Order :=
  match bytesBehind genieHead line with
  | some [a, b, c, d, dir] => some (.genie (.ofNat (bigEndian [d, c, b, a])) dir)
  | _ => none

/-- The order that a line is, if it is one. -/
def order (line : List Char) : Option Order := (nmxOrder line).or (genieOrder line)

/-- The orders in what has been written. -/
def orders (text : List Char) : List Order := (text.splitOn '\r').filterMap order

section Lines

/-! ### What is written is read back -/

/-- A digit is read back. -/
theorem hexDigit_hexChar {d : UInt8} (h : d < 16) :
    hexDigit (UInt8.ofNat (hexChar d).toNat) = some d := by
  have hall : ∀ n < 16, hexDigit (UInt8.ofNat (hexChar (.ofNat n)).toNat) = some (.ofNat n) := by
    decide
  have hd := hall d.toNat (UInt8.lt_iff_toNat_lt.mp h)
  rwa [UInt8.ofNat_toNat] at hd

theorem toNat_low (b : UInt8) : (b % 16).toNat = b.toNat % 16 := UInt8.toNat_mod b 16

theorem toNat_high (b : UInt8) : ((b - b % 16) / 16).toNat = b.toNat / 16 := by
  have hle : b % 16 ≤ b := by
    rw [UInt8.le_iff_toNat_le, toNat_low]
    exact Nat.mod_le _ _
  have hdiv := UInt8.toNat_div (b - b % 16) 16
  rw [UInt8.toNat_sub_of_le _ _ hle, toNat_low] at hdiv
  have hsixteen : (16 : UInt8).toNat = 16 := rfl
  rw [hdiv, hsixteen]
  omega

/-- The two halves of a byte are digits. -/
theorem low_lt (b : UInt8) : b % 16 < 16 := by
  rw [UInt8.lt_iff_toNat_lt, toNat_low]
  exact Nat.mod_lt _ (Nat.succ_pos 15)

theorem high_lt (b : UInt8) : (b - b % 16) / 16 < 16 := by
  have hb := b.toNat_lt
  have hsixteen : (16 : UInt8).toNat = 16 := rfl
  rw [UInt8.lt_iff_toNat_lt, toNat_high]
  omega

/-- So is a byte, whatever is behind it. -/
theorem hexBytes_uint8tohex (b : UInt8) (n : Nat) (rest : List UInt8) :
    hexBytes (n + 1) (ascii (uint8tohex b) ++ rest) = (hexBytes n rest).map (b :: ·) := by
  have hd := hexDigit_hexChar (high_lt b)
  have he := hexDigit_hexChar (low_lt b)
  have hwhole : (b - b % 16) / 16 * 16 + b % 16 = b := by
    have hb := b.toNat_lt
    have hsixteen : (16 : UInt8).toNat = 16 := rfl
    apply UInt8.toNat_inj.mp
    rw [UInt8.toNat_add, UInt8.toNat_mul, toNat_high, toNat_low, hsixteen]
    omega
  unfold uint8tohex ascii
  simp only [List.map_cons, List.map_nil, List.cons_append, List.nil_append, hexBytes, hd, he,
    Option.bind_eq_bind, Option.bind_some, hwhole]
  cases hexBytes n rest with
  | none => rfl
  | some bs => rfl

/-- So are any number of bytes. -/
theorem hexBytes_hexText (bytes : List UInt8) :
    hexBytes bytes.length (ascii (hexText bytes)) = some bytes := by
  induction bytes with
  | nil => rfl
  | cons b bytes ih =>
      have hsplit : ascii (hexText (b :: bytes)) =
          ascii (uint8tohex b) ++ ascii (hexText bytes) := by
        unfold hexText ascii
        rw [List.flatMap_cons, List.map_append]
      rw [hsplit, List.length_cons, hexBytes_uint8tohex, ih]
      rfl

theorem length_hexText (bytes : List UInt8) : (hexText bytes).length = 2 * bytes.length := by
  induction bytes with
  | nil => rfl
  | cons b bytes ih =>
      rw [hexText, List.flatMap_cons, List.length_append, ← hexText, ih, List.length_cons]
      simp only [uint8tohex, List.length_cons, List.length_nil]
      omega

/-- What is behind a head is read back. -/
theorem bytesBehind_append (head : List Char) (bytes : List UInt8) :
    bytesBehind head (head ++ hexText bytes) = some bytes := by
  have hlen : (head ++ hexText bytes).length - head.length = 2 * bytes.length := by
    rw [List.length_append, length_hexText]
    omega
  unfold bytesBehind
  rw [if_pos ⟨List.take_left, by omega⟩, hlen, List.drop_left,
    Nat.mul_div_cancel_left _ Nat.two_pos]
  exact hexBytes_hexText bytes

/-- A line that does not begin with a head says nothing. -/
theorem bytesBehind_none {head line : List Char} (h : line.take head.length ≠ head) :
    bytesBehind head line = none := if_neg fun hif => h hif.1

/-- The bytes of a word are read back. -/
theorem bigEndian_littleEndian (v : UInt32) : bigEndian (littleEndian v).reverse = v.toNat := by
  have hv := v.toNat_lt
  simp only [littleEndian, List.reverse_cons, List.reverse_nil, List.nil_append, List.cons_append,
    bigEndian, List.foldl_cons, List.foldl_nil, UInt32.toNat_toUInt8, UInt32.toNat_shiftRight,
    UInt32.reduceToNat, Nat.shiftRight_eq_div_pow, Nat.reduceMod, Nat.reducePow]
  omega

/-- A line says what was written. -/
theorem order_line {o : Order} (h : o.Fits) : order o.line = some o := by
  unfold order
  cases o with
  | nmx node motor command data =>
      have hlen : data.length = (UInt8.ofNat data.length).toNat := by
        rw [UInt8.toNat_ofNat', Nat.mod_eq_of_lt h]
      unfold nmxOrder
      rw [Order.line, bytesBehind_append]
      simp only [if_pos hlen, Option.some_or]
  | genie steps dir =>
      have hnmx : (Order.genie steps dir).line.take nmxHead.length ≠ nmxHead := by
        intro heq
        have htake := congrArg (List.take genieHead.length) heq
        rw [List.take_take, Order.line, Nat.min_eq_left (by decide), List.take_left] at htake
        exact absurd htake (by decide)
      have hword : UInt32.ofNat (bigEndian (littleEndian steps).reverse) = steps := by
        rw [bigEndian_littleEndian, UInt32.ofNat_toNat]
      unfold nmxOrder
      rw [bytesBehind_none hnmx, Option.none_or]
      unfold genieOrder
      rw [Order.line, bytesBehind_append]
      exact congrArg (fun v => some (Order.genie v dir)) hword

/-- No digit ends a line. -/
theorem hexChar_ne_cr {d : UInt8} (h : d < 16) : hexChar d ≠ '\r' := by
  intro heq
  have hdigit := hexDigit_hexChar h
  rw [heq] at hdigit
  cases hdigit

theorem cr_notMem_hexText (bytes : List UInt8) : '\r' ∉ hexText bytes := by
  intro hmem
  rcases List.mem_flatMap.mp hmem with ⟨b, -, hb⟩
  rcases List.mem_cons.mp hb with heq | hb
  · exact hexChar_ne_cr (high_lt b) heq.symm
  · exact hexChar_ne_cr (low_lt b) (List.mem_singleton.mp hb).symm

/-- A line is one line. -/
theorem cr_notMem_line (o : Order) : '\r' ∉ o.line := by
  intro hmem
  cases o with
  | nmx node motor command data =>
      exact (List.mem_append.mp hmem).elim (by decide) (cr_notMem_hexText _)
  | genie steps dir =>
      exact (List.mem_append.mp hmem).elim (by decide) (cr_notMem_hexText _)

end Lines

/-! ### The motors -/

/-- The three motors. -/
inductive Which
  | motor1
  | motor2
  | motor3
deriving Repr, DecidableEq

/-- `nodeAddress`, the same for all of them. -/
def nodeAddress : UInt8 := 3

/-- `motorAddress`. -/
def Which.motorAddress : Which → UInt8
  | .motor1 => 1
  | .motor2 => 2
  | .motor3 => 3

/-- The steps that an order makes a motor go. A Genie Mini has one motor. -/
def Order.steps (w : Which) : Order → Int
  | .nmx node motor command [dir, a, b, c, d] =>
      if node = nodeAddress ∧ motor = w.motorAddress ∧ command = 0xF then
        signed dir (.ofNat (bigEndian [a, b, c, d]))
      else 0
  | .nmx _ _ _ _ => 0
  | .genie steps _ => if w = .motor1 then (Position.wrap steps.toNat).val else 0

/-- The driver with `remote.nmx`, the motors with `connected`, and `connectedResponse` and
    `genieMoving`. `given` and `missed` are not in the code: the orders that were given, and
    the steps that were added to a position without one. -/
structure Rig where
  radio : Radio
  nmx : Bool
  motors : Which → Motor
  connected : Which → Bool
  connectedResponse : UInt8
  genieMoving : Bool
  given : List Order
  missed : Which → Int

/-- `bt.state`, as far as it matters to a motor. -/
def State.btState : State → BtState
  | .connectedNmx => .connectedNmx
  | .connectedGm => .connectedGm
  | _ => .other

/-- A byte is given to the driver in hex digits. -/
def Radio.sendHex (s : Radio) (b : UInt8) : Radio := s.sendCMD (uint8tohex b)

namespace Rig

/-- An order can go out to an NMX controller. -/
def linked (r : Rig) : Bool := r.nmx && decide (r.radio.state = .connectedNmx)

/-- `NMX::sendCommandGeneral`. The data is as long as `dataLength` says. -/
def sendCommandGeneral (r : Rig) (node motor command : UInt8) (data : List UInt8) : Rig × Bool :=
  if !r.nmx || decide (r.radio.state ≠ .connectedNmx) then (r, false)
  else
    let s := r.radio.sendCMD nmxHead
    let s := (((s.sendHex node).sendHex motor).sendHex command).sendHex (.ofNat data.length)
    let s := ((data.foldl Radio.sendHex s).sendCMD ['\r']).checkOK
    ({ r with radio := s.1, given := r.given ++ [.nmx node motor command data] }, s.2)

/-- `NMX::sendCommand`. -/
def sendCommand (r : Rig) (w : Which) (command : UInt8) (data : List UInt8) : Rig × Bool :=
  r.sendCommandGeneral nodeAddress w.motorAddress command data

/-- The driver's part of a query behind its command: the answer is asked for, waited for, and
    read from the buffer. -/
def answer (s : Radio) : Radio × UInt32 :=
  let asked := (s.sendCMD ("ATGR,0,24\r".toList)).checkOK
  if asked.2 then
    let heard := asked.1.waitEvent gattVal
    if heard.2 then (heard.1, (queryValue ((List.range 256).map heard.1.bt.buf)).1)
    else (heard.1, 0)
  else (asked.1, 0)

/-- `NMX::sendQueryGeneral`. -/
def sendQueryGeneral (r : Rig) (node motor command : UInt8) : Rig × UInt32 :=
  let sent := r.sendCommandGeneral node motor command []
  if sent.2 then
    ({ sent.1 with radio := (answer sent.1.radio).1 }, (answer sent.1.radio).2)
  else (sent.1, 0)

/-- `NMX::sendQuery`. -/
def sendQuery (r : Rig) (w : Which) (command : UInt8) : Rig × UInt32 :=
  r.sendQueryGeneral nodeAddress w.motorAddress command

/-- `NMX::running`. -/
def running (r : Rig) (w : Which) : Rig × Bool :=
  if r.connected w then
    if r.radio.state = .connectedGm then (r, r.genieMoving)
    else
      let asked := r.sendQuery w 0x6B
      (asked.1, decide (asked.2 ≠ 0))
  else (r, false)

/-- The motor is asked whether it is running, so many times at most, until it is not. -/
def rest (w : Which) : Nat → Rig → Option Rig
  | 0, _ => none
  | n + 1, r =>
    let asked := r.running w
    if asked.2 then rest w n asked.1 else some asked.1

/-- The steps are added to a motor's position. -/
def advance (r : Rig) (w : Which) (dir : UInt8) (steps : UInt32) : Rig :=
  { r with motors := Function.update r.motors w ((r.motors w).advance dir steps) }

/-- The steps are noted if no order can go out for them. -/
def miss (r : Rig) (w : Which) (dir : UInt8) (steps : UInt32) : Rig :=
  if r.linked then r
  else { r with missed := Function.update r.missed w (r.missed w + signed dir steps) }

/-- The steps with the direction as their sign, in a word. -/
def gmSteps (dir : UInt8) (steps : UInt32) : UInt32 := if dir ≠ 0 then 0 - steps else steps

/-- The order to a Genie Mini. -/
def genieMove (r : Rig) (dir : UInt8) (steps : UInt32) : Rig × Bool :=
  let s := r.radio.sendCMD genieHead
  let s := (((littleEndian (gmSteps dir steps) ++ [dir]).foldl Radio.sendHex s).sendCMD
    ['\r']).checkOK
  ({ r with radio := s.1, given := r.given ++ [.genie (gmSteps dir steps) dir] }, s.2)

/-- `NMX::move`, with so many questions at most. -/
def move (polls : Nat) (r : Rig) (w : Which) (dir : UInt8) (steps : UInt32) (update : Bool) :
    Option (Rig × Bool) :=
  if r.radio.state = .connectedGm then
    let sent := r.genieMove dir steps
    some (if update then sent.1.advance w dir steps else sent.1, sent.2)
  else
    (rest w polls r).map fun r =>
      let r := if update then (r.miss w dir steps).advance w dir steps else r
      r.sendCommand w 0xF (dir :: (littleEndian steps).reverse)

/-- `NMX::moveSteps`. -/
def moveSteps (polls : Nat) (r : Rig) (w : Which) (dir : UInt8) (steps : UInt32) :
    Option (Rig × Bool) :=
  r.move polls w dir steps true

/-- `NMX::moveToPosition`. -/
def moveToPosition (polls : Nat) (r : Rig) (w : Which) (pos : Position) : Option (Rig × Bool) :=
  let currentPos := (r.motors w).currentPos
  if pos.val < currentPos.val then
    r.moveSteps polls w 1 (.ofNat (currentPos.val - pos.val).toNat)
  else if currentPos.val < pos.val then
    r.moveSteps polls w 0 (.ofNat (pos.val - currentPos.val).toNat)
  else some (r, false)

/-- `NMX::genieMoveConstant(0)`. -/
def genieStop (r : Rig) : Rig × Bool :=
  let s := r.radio.command ("ATGW,0,37,0,013F00000100\r".toList)
  ({ r with radio := s.1, genieMoving := false }, s.2)

/-- `NMX::stop`. -/
def stop (r : Rig) (w : Which) : Rig × Bool :=
  if r.radio.state = .connectedGm then r.genieStop else r.sendCommand w 0x4 []

/-- The controller is asked which motors it has. A Genie Mini has the first. -/
def askConnected (r : Rig) : Rig :=
  if r.radio.state = .connectedGm then { r with connectedResponse := 0x81 }
  else
    let asked := r.sendQueryGeneral 3 0 0x7C
    { asked.1 with connectedResponse := asked.2.toUInt8 ||| 0x80 }

/-- `NMX::checkConnected`. -/
def checkConnected (r : Rig) (w : Which) : Rig :=
  if !r.nmx then
    { r with connected := Function.update r.connected w false, connectedResponse := 0 }
  else
    let r := if r.connectedResponse = 0 then r.askConnected else r
    let connected := decide (r.connectedResponse &&& (1 <<< (w.motorAddress - 1)) ≠ 0)
    { r with connected := Function.update r.connected w connected }

section Moves

variable {r r' : Rig} {w : Which}

/-- A command leaves the motors and `remote.nmx` alone. -/
theorem sendCommandGeneral_kept (r : Rig) (node motor command : UInt8) (data : List UInt8) :
    (r.sendCommandGeneral node motor command data).1.motors = r.motors ∧
      (r.sendCommandGeneral node motor command data).1.nmx = r.nmx := by
  unfold sendCommandGeneral
  split_ifs
  · exact ⟨rfl, rfl⟩
  · exact ⟨rfl, rfl⟩

/-- Without a link it has not been acknowledged. -/
theorem sendCommandGeneral_ok (r : Rig) (node motor command : UInt8) (data : List UInt8) :
    (r.sendCommandGeneral node motor command data).2 =
      Nmx.sendCommand ⟨r.radio.state.btState, r.nmx, r.radio.state.btState,
        (r.sendCommandGeneral node motor command data).2⟩ := by
  have hnow : r.radio.state.btState ≠ .connectedNmx ↔ r.radio.state ≠ .connectedNmx := by
    cases r.radio.state <;> decide
  unfold Nmx.sendCommand
  simp only [hnow]
  by_cases hif : (!r.nmx || decide (r.radio.state ≠ .connectedNmx)) = true
  · rw [if_pos hif]
    unfold sendCommandGeneral
    rw [if_pos hif]
  · rw [if_neg hif]

/-- A question leaves them alone as well. -/
theorem sendQueryGeneral_kept (r : Rig) (node motor command : UInt8) :
    (r.sendQueryGeneral node motor command).1.motors = r.motors ∧
      (r.sendQueryGeneral node motor command).1.nmx = r.nmx := by
  have hsent := sendCommandGeneral_kept r node motor command []
  unfold sendQueryGeneral
  simp only
  split_ifs
  · exact hsent
  · exact hsent

theorem running_kept (r : Rig) (w : Which) :
    (r.running w).1.motors = r.motors ∧ (r.running w).1.nmx = r.nmx := by
  unfold running
  split_ifs
  · exact ⟨rfl, rfl⟩
  · exact sendQueryGeneral_kept r _ _ _
  · exact ⟨rfl, rfl⟩

theorem rest_kept (n : Nat) (h : rest w n r = some r') :
    r'.motors = r.motors ∧ r'.nmx = r.nmx := by
  induction n generalizing r with
  | zero => cases h
  | succ n ih =>
      rw [rest] at h
      have hasked := running_kept r w
      by_cases hrunning : (r.running w).2 = true
      · rw [if_pos hrunning] at h
        have hrest := ih h
        exact ⟨hrest.1.trans hasked.1, hrest.2.trans hasked.2⟩
      · rw [if_neg hrunning] at h
        rw [← Option.some.inj h]
        exact hasked

/-- A move is one of `Motor.move`, with what it finds on the radio. -/
theorem move_eq {polls : Nat} {dir : UInt8} {steps : UInt32} {update ok : Bool}
    (h : r.move polls w dir steps update = some (r', ok)) :
    ∃ a : Air, a.state = r.radio.state.btState ∧ a.remoteNmx = r.nmx ∧
      (r'.motors w, ok) = (r.motors w).move a dir steps update := by
  unfold move at h
  by_cases hgm : r.radio.state = .connectedGm
  · rw [if_pos hgm] at h
    rcases Prod.mk.inj (Option.some.inj h) with ⟨hr, hok⟩
    refine ⟨⟨.connectedGm, r.nmx, .connectedGm, ok⟩, by rw [hgm]; rfl, rfl, ?_⟩
    rw [Motor.move, if_pos rfl, ← hr]
    cases update with
    | true => exact congrArg (·, ok) (Function.update_self _ _ _)
    | false => rfl
  · rw [if_neg hgm] at h
    rcases Option.map_eq_some_iff.mp h with ⟨q, hrest, hsent⟩
    have hkept := rest_kept polls hrest
    have hstate : r.radio.state.btState ≠ .connectedGm := by
      revert hgm
      cases r.radio.state <;> decide
    -- The steps are added to the position the motor had before it was asked.
    let q' := if update then (q.miss w dir steps).advance w dir steps else q
    have hmiss : (q.miss w dir steps).motors = q.motors ∧ (q.miss w dir steps).nmx = q.nmx := by
      unfold miss
      split_ifs
      · exact ⟨rfl, rfl⟩
      · exact ⟨rfl, rfl⟩
    have hmotor : q'.motors w =
        if update then (r.motors w).advance dir steps else r.motors w := by
      rw [← hkept.1]
      cases update with
      | true =>
          rw [if_pos rfl, ← hmiss.1]
          exact Function.update_self _ _ _
      | false => rfl
    have hnmx : q'.nmx = r.nmx := by
      rw [← hkept.2]
      cases update with
      | true => exact hmiss.2
      | false => rfl
    have hdone : q'.sendCommand w 0xF (dir :: (littleEndian steps).reverse) = (r', ok) := hsent
    have hr : r'.motors = q'.motors := by
      rw [← (Prod.mk.inj hdone).1]
      exact (sendCommandGeneral_kept q' _ _ _ _).1
    have hok := sendCommandGeneral_ok q' nodeAddress w.motorAddress 0xF
      (dir :: (littleEndian steps).reverse)
    unfold sendCommand at hdone
    rw [hdone, hnmx] at hok
    refine ⟨⟨r.radio.state.btState, r.nmx, q'.radio.state.btState, ok⟩, rfl, rfl, ?_⟩
    rw [Motor.move, if_neg hstate, hr, hmotor]
    exact congrArg (_, ·) hok

end Moves

/-! ### Runs -/

/-- A call for a motor, or of the driver. `command` is for the settings of a controller, which
    `enable`, `disable`, `setSpeed` and `setAccel` send, and `remote` for what `Remote::event`
    makes of `remote.nmx`. -/
inductive Call
  | moveSteps (polls : Nat) (w : Which) (dir : UInt8) (steps : UInt32)
  | moveToPosition (polls : Nat) (w : Which) (pos : Position)
  | running (w : Which)
  | stop (w : Which)
  | command (w : Which) (command : UInt8) (data : List UInt8)
  | checkConnected (w : Which)
  | remote (nmx : Bool)
  | radio (request : Request)

/-- A call, and what the module does during it. -/
structure Label where
  call : Call
  arrivals : List Arrival
  wakes : List Wake

/-- What a call makes of it all. -/
def call (r : Rig) : Call → Option Rig
  | .moveSteps polls w dir steps => (r.moveSteps polls w dir steps).map Prod.fst
  | .moveToPosition polls w pos => (r.moveToPosition polls w pos).map Prod.fst
  | .running w => some (r.running w).1
  | .stop w => some (r.stop w).1
  | .command w command data => some (r.sendCommand w command data).1
  | .checkConnected w => some (r.checkConnected w)
  | .remote nmx => some { r with nmx := nmx }
  | .radio request => some { r with radio := r.radio.call request }

/-- The module does something during the next call. -/
def meets (r : Rig) (l : Label) : Rig :=
  { r with radio := { r.radio with arrivals := l.arrivals, wakes := l.wakes } }

/-- One call. -/
def step (r : Rig) (l : Label) : Option Rig := (r.meets l).call l.call

end Rig

end Bluetooth

end TimelapsePlus
