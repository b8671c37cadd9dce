import TimelapsePlus.Ptp.Integrity
import Mathlib.Data.Nat.Bitwise

/-!
# What the Camera Can Do

A camera that connects says which operations it supports. `PTP::init` reads the
list once, and keeps of it a flag for each thing the firmware may want of the
camera, a mask for the two ways a Nikon can be told to take a picture, and two
counters for the two ways a Canon can be told to open its shutter. What the
firmware sends afterwards it decides from these alone, so the question is
whether they still say what the list said.

Two of them do not. The bits of the Nikon mask are set by one operation each and
read as the other one. And a counter that has come to two is taken for a pair of
operations, though one of them listed twice counts as much; being a byte, it
also comes back to zero.

The calls that send are steps here, as in `Session`. Between the steps of a call
the session can take any of its own: the changes of mode and of live view and
the waiting for the camera that the calls make are among them.

## Main definitions

* `Flags`: What `init` keeps of the list.
* `Flags.note`, `Flags.settle`: A turn of its loop, and what follows the loop.
* `initFlags`: What it makes of a list.
* `Call`: Where a call stands.
* `Control`: A session, the flags, and the call that is under way.
* `Control.step`: `PTP::capture`, `PTP::bulbStart`, `PTP::bulbEnd`,
  `PTP::moveFocus`, and the steps of the session.
* `Control.Advertised`: What is sent on the strength of the flags is listed.
* `Matches`: What the list has to be like.

## Theorems

* `foldl_any`, `foldl_countP`: What a loop over a list leaves in a flag and in a
  counter.
* `initFlags_nikonCapture`, `initFlags_eos_bulb`: What `init` leaves.
* `covered_iff`: When what the flags stand for is on the list.
* `Control.step_keeps`: What one step sends, and what it leaves.
* `run_advertised`: Nothing is sent that is not on the list, exactly when it
  matches.
* `capture_crossed`: A Nikon is sent a capture that is not on its list.
-/

namespace TimelapsePlus

section Fold

variable {σ α : Type}

/-- A flag each turn of a loop sets when the element has a property, and never
    clears. -/
theorem foldl_any (step : σ → α → σ) (flag : σ → Bool) (p : α → Bool)
    (h : ∀ s a, flag (step s a) = (flag s || p a)) (l : List α) (s : σ) :
    flag (l.foldl step s) = (flag s || l.any p) := by
  induction l generalizing s with
  | nil => rw [List.foldl_nil, List.any_nil, Bool.or_false]
  | cons a l ih => rw [List.foldl_cons, ih, h, List.any_cons, Bool.or_assoc]

/-- A byte each turn counts up when the element has a property. -/
theorem foldl_countP (step : σ → α → σ) (count : σ → Nat) (p : α → Bool)
    (h : ∀ s a, count (step s a) = if p a then Word.u8 (count s + 1) else count s)
    (l : List α) (s : σ) (hs : count s < 256) :
    count (l.foldl step s) = Word.u8 (count s + l.countP p) := by
  induction l generalizing s with
  | nil => rw [List.foldl_nil, List.countP_nil, Nat.add_zero, Word.u8_of_lt hs]
  | cons a l ih =>
      have hstep := h s a
      rw [List.foldl_cons, List.countP_cons]
      by_cases ha : p a = true
      · rw [if_pos ha] at hstep
        rw [ih _ (by rw [hstep]; exact Nat.mod_lt _ (by decide)), hstep, if_pos ha]
        -- The reductions on the way do not change the last one.
        unfold Word.u8
        omega
      · rw [if_neg ha] at hstep
        rw [ih _ (by rw [hstep]; exact hs), hstep, if_neg ha, Nat.add_zero]

end Fold

namespace Ptp

open Word Usb

def eosOcSetUiLock : Nat := 0x911B
def eosOcResetUiLock : Nat := 0x911C
def eosOcBulbStart : Nat := 0x9125
def eosOcBulbEnd : Nat := 0x9126
def eosOcRemoteReleaseOn : Nat := 0x9128
def eosOcRemoteReleaseOff : Nat := 0x9129
def eosOcVideoStart : Nat := 0x9153
def eosOcMoveFocus : Nat := 0x9155

def ptpOcCapture : Nat := 0x100E
def ptpOcPropertySet : Nat := 0x1016

def nikonOcCapture : Nat := 0x90C0
def nikonOcMoveFocus : Nat := 0x9204
def nikonOcCapture2 : Nat := 0x9207
def nikonOcBulbStart : Nat := 0x9207
def nikonOcBulbEnd : Nat := 0x920C

/-- What `init` keeps of the list of operations: the rest of `CameraSupports_t`,
    `supports_nikon_capture`, and the counters `bulbSupport` and
    `ptpBulbMode`. -/
structure Flags where
  supports : Supports
  capture : Bool
  bulb : Bool
  focus : Bool
  video : Bool
  nikonCapture : Nat
  bulbSupport : Nat
  ptpBulbMode : Nat
deriving Repr, DecidableEq

namespace Flags

/-- Where the loop starts. The Nikon mask is what it was: nothing clears it. -/
def start (before : Nat) : Flags where
  supports := ⟨false, false, false, false, false⟩
  capture := false
  bulb := false
  focus := false
  video := false
  nikonCapture := before
  bulbSupport := 0
  ptpBulbMode := 0

/-- An operation of a Canon camera. -/
def noteEos (f : Flags) (op : Nat) : Flags :=
  if op = eosOcMoveFocus then { f with focus := true }
  else if op = eosOcCapture then { f with capture := true }
  else if op = eosOcVideoStart then { f with video := true }
  else if op = eosOcRemoteReleaseOn ∨ op = eosOcRemoteReleaseOff then
    { f with bulbSupport := u8 (f.bulbSupport + 1) }
  else if op = eosOcBulbStart ∨ op = eosOcBulbEnd then
    { f with ptpBulbMode := u8 (f.ptpBulbMode + 1) }
  else if op = eosOcEventGet then { f with supports.event := true }
  else f

/-- An operation of a Nikon. -/
def noteNikon (nikonUSB : Bool) (f : Flags) (op : Nat) : Flags :=
  if op = ptpOcCapture then { f with capture := true }
  else if op = nikonOcCapture then
    if nikonUSB then { f with capture := true, nikonCapture := f.nikonCapture ||| 2 } else f
  else if op = nikonOcCapture2 then
    if nikonUSB then { f with capture := true, nikonCapture := f.nikonCapture ||| 1 } else f
  else if op = ptpOcPropertySet then
    { f with supports.iso := true, supports.aperture := true, supports.shutter := true }
  else if op = nikonOcCameraReady then { f with supports.cameraReady := true }
  else if op = nikonOcMoveFocus then { f with focus := true }
  else if op = nikonOcEventGet then { f with supports.event := true }
  else f

/-- A turn of the loop. -/
def note (protocol : Protocol) (nikonUSB : Bool) (f : Flags) (op : Nat) : Flags :=
  match protocol with
  | .eos => f.noteEos op
  | .nikon => f.noteNikon nikonUSB op
  | _ => f

/-- What follows the loop: the counters are taken for pairs. -/
def settle (f : Flags) : Flags :=
  if 1 < f.bulbSupport then { f with bulb := true, ptpBulbMode := 0 }
  else { f with bulb := decide (1 < f.ptpBulbMode) }

end Flags

/-- What `init` makes of a list of operations, when the Nikon mask was
    `before`. -/
def initFlags (protocol : Protocol) (nikonUSB : Bool) (before : Nat) (ops : List Nat) : Flags :=
  (ops.foldl (Flags.note protocol nikonUSB) (Flags.start before)).settle

/-- Where a call stands: in `bulbStart` before the camera is told, its mode being
    changed, or with its keys locked; in `bulbEnd` before they are unlocked; in
    `capture` before the camera is told; in `moveFocus`, with so many steps to
    go. -/
inductive Call
  | idle
  | bulbStart
  | bulbLocked
  | bulbUnlock
  | capture
  | focus (move : Int) (steps : Nat)
deriving Repr, DecidableEq

/-- Whether the session can take a step of its own where a call stands. -/
def Call.yields : Call → Bool
  | .bulbLocked => false
  | .bulbUnlock => false
  | _ => true

/-- A session with a camera whose operations have been read. -/
structure Control where
  session : Session
  flags : Flags
  call : Call

/-- What happens next: a step of the session, or a call is made or goes on. -/
inductive Move
  | session (l : Label)
  | capture
  | bulbStart
  | bulbEnd
  | moveFocus (move : Int) (steps : Nat)
  | goOn

/-- What a step comes to: the transaction it made, and whether the flags decided
    on it. -/
structure Deed where
  control : Control
  request : Option Request
  flagged : Bool

/-- The parameter a Canon camera is told to move its focus by. -/
def focusParam (move : Int) : Nat :=
  if 0 < move then (min move 3).toNat
  else
    -- The negation of -128 is -128.
    let m := i8 (0 - move)
    u32 (0x8000 + (if 3 < m then 3 else m)).toNat

/-- The parameters a Nikon is. -/
def nikonFocusParams (move : Int) : List Nat :=
  [if 0 < move then 1 else 2,
    if move = 1 ∨ move = -1 then 0x0A else if move = 2 ∨ move = -2 then 0x28 else 0x50]

namespace Control

/-- The camera has just been connected: `init` has read the operations. -/
def connect (s : Session) (protocol : Protocol) (nikonUSB : Bool) (before : Nat)
    (ops : List Nat) : Control :=
  let f := initFlags protocol nikonUSB before ops
  ⟨{ s.init protocol f.supports with task := .idle }, f, .idle⟩

/-- A step that sends nothing. -/
def quiet (c : Control) : Deed := ⟨c, none, false⟩

/-- A step that sends a command. -/
def send (c : Control) (flagged : Bool) (opCode : Nat) (params : List Nat)
    (next : Ret → Control → Control) : Deed :=
  let q : Request := ⟨c.session.driver, opCode, false, params, []⟩
  ⟨next q.run.1 { c with session.driver := q.run.2 }, some q, flagged⟩

/-- The step ends the call. -/
def rest (_ : Ret) (c : Control) : Control := { c with call := .idle }

/-- Whether `checkEvent` decides on a step of the session by the flags: a Nikon
    that can tell is asked whether it is ready, and one that can list its events
    for them. A Canon camera is asked for its events whatever it supports. -/
def decides (s : Session) : Label → Bool
  | .checkEvent _ _ => decide (s.camera.protocol = .nikon)
  | .proceed => match s.task with
    | .events _ => true
    | _ => false
  | _ => false

/-- Whether a step of the session stays with this camera. -/
def stays : Label → Bool
  | .init _ _ => false
  | .close => false
  | .enable _ => false
  | _ => true

/-- `bulbStart`, once the mode is changed. -/
def bulbStartSend (c : Control) : Deed :=
  match c.session.camera.protocol with
  | .eos =>
      if c.flags.ptpBulbMode ≠ 0 then
        c.send false eosOcSetUiLock [] fun ret c =>
          { c with call := if ret = .ok then .bulbLocked else .idle }
      else c.send true eosOcRemoteReleaseOn [0x03, 0x00] rest
  | .nikon => c.send true nikonOcBulbStart [0xFFFFFFFF, 0x00000001] rest
  | _ => { c with call := .idle }.quiet

/-- `bulbEnd`. -/
def bulbEndSend (c : Control) : Deed :=
  match c.session.camera.protocol with
  | .eos =>
      if c.flags.ptpBulbMode ≠ 0 then
        c.send true eosOcBulbEnd [] fun ret c =>
          { c with call := if ret = .ok then .bulbUnlock else .idle }
      else
        c.send true eosOcRemoteReleaseOff [0x03] fun ret c =>
          if ret = .ok then { c with session.camera.bulbOpen := false } else c
  | .nikon =>
      c.send true nikonOcBulbEnd [0x0000D800, 0x00000001] fun ret c =>
        if ret = .ok then { c with session.camera.bulbOpen := false } else c
  | _ => { c with session.camera.bulbOpen := false }.quiet

/-- `capture`, once the mode is changed. -/
def captureSend (c : Control) : Deed :=
  match c.session.camera.protocol with
  | .eos => c.send true eosOcCapture [] rest
  | .nikon =>
      if c.flags.nikonCapture &&& 2 ≠ 0 then
        c.send true nikonOcCapture2 [0xFFFFFFFF, 0x00000000] rest
      else if c.flags.nikonCapture &&& 1 ≠ 0 then c.send true nikonOcCapture [] rest
      else c.send true ptpOcCapture [0x00000000, 0x00000000] rest
  | .sony => { c with call := .idle }.quiet
  | _ => c.send true ptpOcCapture [0x00000000, 0x00000000] rest

/-- A turn of the loops of `moveFocus`. -/
def focusSend (c : Control) (move : Int) (steps : Nat) : Deed :=
  let next : Ret → Control → Control := fun ret c =>
    { c with call := if ret = .ok then .focus move (steps - 1) else .idle }
  if steps = 0 then { c with call := .idle }.quiet
  else match c.session.camera.protocol with
    | .eos => c.send true eosOcMoveFocus [focusParam move] next
    | .nikon => c.send true nikonOcMoveFocus (nikonFocusParams move) next
    | _ => { c with call := .idle }.quiet

/-- A call goes on. -/
def goOn (c : Control) : Option Deed :=
  match c.call with
  | .idle => none
  | .bulbStart => some c.bulbStartSend
  | .bulbLocked => some (c.send true eosOcBulbStart [] rest)
  | .bulbUnlock => some (c.send false eosOcResetUiLock [] fun ret c =>
      { c with
        session.camera.bulbOpen := if ret = .ok then false else c.session.camera.bulbOpen
        call := .idle })
  | .capture => some { c with session.camera.busy := true }.captureSend
  | .focus move steps => some (c.focusSend move steps)

/-- One step, if it can be taken. -/
def step (c : Control) (m : Move) : Option Deed :=
  match m with
  | .session l =>
      if c.call.yields ∧ stays l then
        (c.session.step l).map fun o =>
          ⟨{ c with session := o.session }, o.request, decides c.session l⟩
      else none
  | .goOn => if c.session.task = .idle then c.goOn else none
  | .capture =>
      -- The callers ask the flag first.
      if c.session.task = .idle ∧ c.call = .idle ∧ c.flags.capture ∧ c.session.camera.ready then
        some { c with call := .capture }.quiet
      else none
  | .bulbStart =>
      if c.session.task = .idle ∧ c.call = .idle ∧ c.flags.bulb ∧ c.session.camera.ready then
        some { c with
          session.camera.bulbOpen := true
          session.camera.busy := true
          call := .bulbStart }.quiet
      else none
  | .bulbEnd =>
      if c.session.task = .idle ∧ c.call = .idle ∧ c.flags.bulb ∧ c.session.camera.ready ∧
          c.session.camera.bulbOpen then
        some { c with session.camera.busy := true }.bulbEndSend
      else none
  | .moveFocus move steps =>
      if c.session.task = .idle ∧ c.call = .idle ∧ c.flags.focus ∧ move ≠ 0 ∧
          (c.session.camera.protocol = .eos → c.session.camera.modeLiveView) then
        some { c with call := .focus move steps }.quiet
      else none

/-- The state after a step. -/
def next (c : Control) (m : Move) : Option Control := (c.step m).map Deed.control

/-- A step sends an operation because the flags say so. -/
def Sends (c : Control) (m : Move) (op : Nat) : Prop :=
  ∃ d q, c.step m = some d ∧ d.flagged = true ∧ d.request = some q ∧ q.opCode = op

/-- What is sent so is on the list. -/
def Advertised (ops : List Nat) (c : Control) : Prop := ∀ m op, c.Sends m op → op ∈ ops

end Control

section Init

variable (protocol : Protocol) (nikonUSB : Bool) (before : Nat) (ops : List Nat)

/-- What the loop leaves in a flag. -/
theorem initFlags_any (flag : Flags → Bool) (p : Nat → Bool)
    (hsettle : ∀ f, flag (Flags.settle f) = flag f)
    (hnote : ∀ f op, flag (Flags.note protocol nikonUSB f op) = (flag f || p op))
    (hstart : flag (Flags.start before) = false) :
    flag (initFlags protocol nikonUSB before ops) = ops.any p := by
  unfold initFlags
  rw [hsettle, foldl_any _ flag p hnote, hstart, Bool.false_or]

end Init

namespace Flags

theorem settle_supports (f : Flags) : f.settle.supports = f.supports := by
  unfold settle
  split <;> rfl

theorem settle_capture (f : Flags) : f.settle.capture = f.capture := by
  unfold settle
  split <;> rfl

theorem settle_focus (f : Flags) : f.settle.focus = f.focus := by
  unfold settle
  split <;> rfl

theorem settle_nikonCapture (f : Flags) : f.settle.nikonCapture = f.nikonCapture := by
  unfold settle
  split <;> rfl

theorem settle_bulb (f : Flags) :
    f.settle.bulb = decide (1 < f.bulbSupport ∨ 1 < f.ptpBulbMode) := by
  unfold settle
  split
  case isTrue h => exact (decide_eq_true (.inl h)).symm
  case isFalse h => exact decide_eq_decide.mpr (or_iff_right h).symm

theorem settle_ptpBulbMode (f : Flags) :
    f.settle.ptpBulbMode = if 1 < f.bulbSupport then 0 else f.ptpBulbMode := by
  unfold settle
  split <;> rfl

end Flags

section Nikon

variable (nikonUSB : Bool) (before : Nat) (ops : List Nat)

/-- A Nikon's flag for an operation the loop looks for. -/
theorem initFlags_nikon_focus :
    (initFlags .nikon nikonUSB before ops).focus = ops.any (· == nikonOcMoveFocus) := by
  refine initFlags_any _ _ _ ops _ _ Flags.settle_focus (fun f op => ?_) rfl
  simp only [Flags.note, Flags.noteNikon, ptpOcCapture, nikonOcCapture, nikonOcCapture2,
    ptpOcPropertySet, nikonOcCameraReady, nikonOcMoveFocus, nikonOcEventGet]
  grind

theorem initFlags_nikon_cameraReady :
    (initFlags .nikon nikonUSB before ops).supports.cameraReady =
      ops.any (· == nikonOcCameraReady) := by
  refine initFlags_any _ _ _ ops (fun f => f.supports.cameraReady) _
    (fun f => by rw [Flags.settle_supports]) (fun f op => ?_) rfl
  simp only [Flags.note, Flags.noteNikon, ptpOcCapture, nikonOcCapture, nikonOcCapture2,
    ptpOcPropertySet, nikonOcCameraReady, nikonOcMoveFocus, nikonOcEventGet]
  grind

theorem initFlags_nikon_event :
    (initFlags .nikon nikonUSB before ops).supports.event = ops.any (· == nikonOcEventGet) := by
  refine initFlags_any _ _ _ ops (fun f => f.supports.event) _
    (fun f => by rw [Flags.settle_supports]) (fun f op => ?_) rfl
  simp only [Flags.note, Flags.noteNikon, ptpOcCapture, nikonOcCapture, nikonOcCapture2,
    ptpOcPropertySet, nikonOcCameraReady, nikonOcMoveFocus, nikonOcEventGet]
  grind

theorem initFlags_nikon_capture :
    (initFlags .nikon nikonUSB before ops).capture = ops.any fun op =>
      op == ptpOcCapture || (nikonUSB && (op == nikonOcCapture || op == nikonOcCapture2)) := by
  refine initFlags_any _ _ _ ops _ _ Flags.settle_capture (fun f op => ?_) rfl
  simp only [Flags.note, Flags.noteNikon, ptpOcCapture, nikonOcCapture, nikonOcCapture2,
    ptpOcPropertySet, nikonOcCameraReady, nikonOcMoveFocus, nikonOcEventGet]
  grind

/-- A bit of the mask: it was set before, or the operation that sets it is listed. -/
theorem initFlags_nikonCapture (bit op : Nat)
    (hbit : bit = 2 ∧ op = nikonOcCapture ∨ bit = 1 ∧ op = nikonOcCapture2) :
    (initFlags .nikon nikonUSB before ops).nikonCapture &&& bit ≠ 0 ↔
      before &&& bit ≠ 0 ∨ nikonUSB = true ∧ op ∈ ops := by
  have hfold := foldl_any (Flags.note .nikon nikonUSB)
    (fun f => decide (f.nikonCapture &&& bit ≠ 0)) (fun o => nikonUSB && o == op)
    (fun f o => ?_) ops (Flags.start before)
  · have hiff := Bool.eq_iff_iff.mp hfold
    unfold initFlags
    rw [Flags.settle_nikonCapture]
    simp only [Bool.or_eq_true, decide_eq_true_eq, List.any_eq_true, Bool.and_eq_true,
      beq_iff_eq] at hiff
    rw [hiff]
    refine or_congr Iff.rfl ⟨?_, ?_⟩
    · rintro ⟨o, hmem, husb, rfl⟩
      exact ⟨husb, hmem⟩
    · rintro ⟨husb, hmem⟩
      exact ⟨op, hmem, husb, rfl⟩
  · -- Of the two masks only the one that holds the bit sets it.
    have hor : ∀ n m, (n ||| m) &&& bit = (n &&& bit) ||| (m &&& bit) :=
      fun n m => Nat.and_or_distrib_right n m bit
    rcases hbit with ⟨rfl, rfl⟩ | ⟨rfl, rfl⟩
    · simp only [Flags.note, Flags.noteNikon, ptpOcCapture, nikonOcCapture, nikonOcCapture2,
        ptpOcPropertySet, nikonOcCameraReady, nikonOcMoveFocus, nikonOcEventGet]
      grind [Nat.or_eq_zero_iff]
    · simp only [Flags.note, Flags.noteNikon, ptpOcCapture, nikonOcCapture, nikonOcCapture2,
        ptpOcPropertySet, nikonOcCameraReady, nikonOcMoveFocus, nikonOcEventGet]
      grind [Nat.or_eq_zero_iff]

/-- No operation of a Nikon counts for a bulb. -/
theorem initFlags_nikon_bulb : (initFlags .nikon nikonUSB before ops).bulb = false := by
  have hcount : ∀ count : Flags → Nat, count (Flags.start before) = 0 →
      (∀ f op, count (Flags.note .nikon nikonUSB f op) = count f) →
      count (ops.foldl (Flags.note .nikon nikonUSB) (Flags.start before)) = 0 := by
    intro count hstart hnote
    rw [foldl_countP _ count (fun _ => false) (fun f op => by rw [hnote, if_neg Bool.false_ne_true])
      ops _ (by omega), hstart, List.countP_false]
    rfl
  unfold initFlags
  rw [Flags.settle_bulb, hcount Flags.bulbSupport rfl fun f op => ?_,
    hcount Flags.ptpBulbMode rfl fun f op => ?_]
  · exact decide_eq_false (by omega)
  · unfold Flags.note Flags.noteNikon
    grind
  · unfold Flags.note Flags.noteNikon
    grind

end Nikon

section Eos

variable (nikonUSB : Bool) (before : Nat) (ops : List Nat)

theorem initFlags_eos_focus :
    (initFlags .eos nikonUSB before ops).focus = ops.any (· == eosOcMoveFocus) := by
  refine initFlags_any _ _ _ ops _ _ Flags.settle_focus (fun f op => ?_) rfl
  simp only [Flags.note, Flags.noteEos, eosOcMoveFocus, eosOcCapture, eosOcVideoStart,
    eosOcRemoteReleaseOn, eosOcRemoteReleaseOff, eosOcBulbStart, eosOcBulbEnd, eosOcEventGet]
  grind

theorem initFlags_eos_capture :
    (initFlags .eos nikonUSB before ops).capture = ops.any (· == eosOcCapture) := by
  refine initFlags_any _ _ _ ops _ _ Flags.settle_capture (fun f op => ?_) rfl
  simp only [Flags.note, Flags.noteEos, eosOcMoveFocus, eosOcCapture, eosOcVideoStart,
    eosOcRemoteReleaseOn, eosOcRemoteReleaseOff, eosOcBulbStart, eosOcBulbEnd, eosOcEventGet]
  grind

/-- How often the two operations of the remote release are listed. -/
def releases (ops : List Nat) : Nat :=
  ops.countP fun op => op == eosOcRemoteReleaseOn || op == eosOcRemoteReleaseOff

/-- How often the two operations of the bulb are. -/
def bulbs (ops : List Nat) : Nat :=
  ops.countP fun op => op == eosOcBulbStart || op == eosOcBulbEnd

theorem foldl_note_bulbSupport :
    (ops.foldl (Flags.note .eos nikonUSB) (Flags.start before)).bulbSupport =
      u8 (releases ops) := by
  refine (foldl_countP _ Flags.bulbSupport _ (fun f op => ?_) ops _ (Nat.zero_lt_succ 255)).trans
    (congrArg u8 (Nat.zero_add _))
  simp only [Flags.note, Flags.noteEos, eosOcMoveFocus, eosOcCapture, eosOcVideoStart,
    eosOcRemoteReleaseOn, eosOcRemoteReleaseOff, eosOcBulbStart, eosOcBulbEnd, eosOcEventGet]
  grind

theorem foldl_note_ptpBulbMode :
    (ops.foldl (Flags.note .eos nikonUSB) (Flags.start before)).ptpBulbMode =
      u8 (bulbs ops) := by
  refine (foldl_countP _ Flags.ptpBulbMode _ (fun f op => ?_) ops _ (Nat.zero_lt_succ 255)).trans
    (congrArg u8 (Nat.zero_add _))
  simp only [Flags.note, Flags.noteEos, eosOcMoveFocus, eosOcCapture, eosOcVideoStart,
    eosOcRemoteReleaseOn, eosOcRemoteReleaseOff, eosOcBulbStart, eosOcBulbEnd, eosOcEventGet]
  grind

/-- What the counters come to: whether there is a bulb, and which of the two ways of
    opening it is taken. -/
theorem initFlags_eos_bulb :
    (initFlags .eos nikonUSB before ops).bulb =
      decide (1 < u8 (releases ops) ∨ 1 < u8 (bulbs ops)) := by
  unfold initFlags
  rw [Flags.settle_bulb, foldl_note_bulbSupport, foldl_note_ptpBulbMode]

theorem initFlags_eos_ptpBulbMode :
    (initFlags .eos nikonUSB before ops).ptpBulbMode =
      if 1 < u8 (releases ops) then 0 else u8 (bulbs ops) := by
  unfold initFlags
  rw [Flags.settle_ptpBulbMode, foldl_note_bulbSupport, foldl_note_ptpBulbMode]

end Eos

/-- What `init` sets only for a Canon or a Nikon. -/
theorem initFlags_other (protocol : Protocol) (nikonUSB : Bool) (before : Nat) (ops : List Nat)
    (heos : protocol ≠ .eos) (hnikon : protocol ≠ .nikon) :
    initFlags protocol nikonUSB before ops = (Flags.start before).settle := by
  have hnote : ∀ f op, Flags.note protocol nikonUSB f op = f := fun f op => by
    cases protocol with
    | eos => exact absurd rfl heos
    | nikon => exact absurd rfl hnikon
    | _ => rfl
  unfold initFlags
  congr 1
  induction ops with
  | nil => rfl
  | cons op ops ih => rw [List.foldl_cons, hnote, ih]

section Camera

/-- What the flags that `checkEvent` asks are kept with: the protocol, and the two
    that do not change while the camera is connected. -/
def Camera.kind (c : Camera) : Protocol × Bool × Bool :=
  (c.protocol, c.supports.cameraReady, c.supports.event)

theorem applyChange_kind (c : Camera) (change : Change) :
    (c.applyChange change).kind = c.kind := by
  cases change with
  | property item value =>
      simp only [Camera.applyChange, Camera.applyProperty, Camera.kind]
      grind
  | values item codes =>
      simp only [Camera.applyChange, Camera.applyValues, Camera.kind]
      grind
  | object handle => rfl
  | other type => rfl

theorem apply_kind (c : Camera) (o : Option Output) : (c.apply o).kind = c.kind := by
  unfold Camera.apply
  split
  · exact applyChange_kind c _
  · rfl

theorem applySony_kind (c : Camera) (p : SonyProperty) : (c.applySony p).kind = c.kind := by
  unfold Camera.applySony Camera.kind
  grind

theorem applyPtpEvent_kind (c : Camera) (e : Nat × Nat) : (c.applyPtpEvent e).kind = c.kind := by
  unfold Camera.applyPtpEvent Camera.kind
  grind

theorem foldl_applyPtpEvent_kind (events : List (Nat × Nat)) (c : Camera) :
    (events.foldl Camera.applyPtpEvent c).kind = c.kind := by
  induction events generalizing c with
  | nil => rfl
  | cons e events ih => rw [List.foldl_cons, ih, applyPtpEvent_kind]

end Camera

namespace Session

/-- The session is one with this camera, and only a Nikon is between the two halves
    of `checkEvent`. -/
structure With (k : Protocol × Bool × Bool) (s : Session) : Prop where
  kind : s.camera.kind = k
  events : ∀ event, s.task = .events event → k.1 = .nikon

variable {k : Protocol × Bool × Bool}

theorem With.of_idle {s : Session} (hkind : s.camera.kind = k)
    (htask : ∀ event, s.task ≠ .events event) : With k s :=
  ⟨hkind, fun event h => absurd h (htask event)⟩

theorem expireBusy_with (s : Session) (now : Nat) (h : With k s) :
    With k (s.expireBusy now) := by
  unfold expireBusy
  split
  · split
    · split
      · exact ⟨h.kind, h.events⟩
      · exact h
    · exact ⟨h.kind, h.events⟩
  · exact h

theorem nikonUpdate_with (s : Session) (h : s.camera.kind = k) : With k s.nikonUpdate := by
  unfold nikonUpdate
  split
  · exact .of_idle h (fun event => by simp only [ne_eq, reduceCtorEq, not_false_eq_true])
  · exact .of_idle h (fun event => by simp only [ne_eq, reduceCtorEq, not_false_eq_true])

theorem nikonPoll_kind (s : Session) (event : List UInt8) :
    (s.nikonPoll event).camera.kind = s.camera.kind := by
  simp only [nikonPoll]
  split
  · split
    · rfl
    · exact applyPtpEvent_kind _ _
  · split
    · rfl
    · exact applyPtpEvent_kind _ _

theorem nikonEventsStep_with (s : Session) (event : List UInt8) (h : s.camera.kind = k) :
    With k (s.nikonEventsStep event).session := by
  unfold nikonEventsStep
  split
  · simp only [ask]
    split
    · exact .of_idle h (fun event => by simp only [ne_eq, reduceCtorEq, not_false_eq_true])
    · exact nikonUpdate_with _ ((foldl_applyPtpEvent_kind _ _).trans h)
  · exact nikonUpdate_with _ ((nikonPoll_kind s event).trans h)

theorem askProperty_with (s : Session) (p : NikonProperty) (h : s.camera.kind = k) :
    With k (s.askProperty p).session := by
  simp only [askProperty, ask]
  split
  · exact .of_idle h (fun event => by simp only [ne_eq, reduceCtorEq, not_false_eq_true])
  · exact .of_idle h (fun event => by simp only [ne_eq, reduceCtorEq, not_false_eq_true])

theorem describe_with (s : Session) (p : NikonProperty) (h : s.camera.kind = k) :
    With k (s.describe p) := by
  cases p with
  | iso =>
      refine .of_idle ?_ (fun event => by
        simp only [describe, ne_eq, reduceCtorEq, not_false_eq_true])
      simp only [describe, Camera.describeIso]
      split <;> exact h
  | aperture =>
      refine .of_idle ?_ (fun event => by
        simp only [describe, ne_eq, reduceCtorEq, not_false_eq_true])
      simp only [describe, Camera.describeAperture]
      split <;> exact h
  | shutter =>
      refine .of_idle ?_ (fun event => by
        simp only [describe, ne_eq, reduceCtorEq, not_false_eq_true])
      simp only [describe, Camera.describeShutter]
      split <;> exact h

theorem eosStep_with (s : Session) (phase : Phase) (ret : Ret) (h : s.camera.kind = k) :
    With k (s.eosStep phase ret) := by
  simp only [eosStep]
  split
  · exact .of_idle h (fun event => by simp only [ne_eq, reduceCtorEq, not_false_eq_true])
  · exact .of_idle ((apply_kind _ _).trans h)
      (fun event => by simp only [ne_eq, reduceCtorEq, not_false_eq_true])

theorem sonyStep_with (s : Session) (i : Nat) (ret : Ret) (h : s.camera.kind = k) :
    With k (s.sonyStep i ret) := by
  unfold sonyStep SonyFrame.turn
  grind [With, applySony_kind]

theorem sonyReadProperties_with (s : Session) (h : With k s) :
    With k s.sonyReadProperties.session := by
  simp only [sonyReadProperties, ask]
  split
  · exact ⟨h.kind, h.events⟩
  · exact .of_idle h.kind (fun event => by simp only [ne_eq, reduceCtorEq, not_false_eq_true])

theorem sonyEvent_with (s : Session) (event : List UInt8) (h : With k s) :
    With k (s.sonyEvent event) := by
  simp only [sonyEvent]
  split
  · exact ⟨h.kind, h.events⟩
  · split
    · exact ⟨h.kind, h.events⟩
    · exact ⟨h.kind, h.events⟩

theorem sonyCheck_with (s : Session) (event : List UInt8) (h : With k s) :
    With k (s.sonyCheck event).session := by
  simp only [sonyCheck]
  split
  · exact sonyReadProperties_with _ (sonyEvent_with s event h)
  · exact sonyEvent_with s event h

theorem eosCheck_with (s : Session) (h : With k s) : With k s.eosCheck.session := by
  simp only [eosCheck, ask]
  split
  · exact ⟨h.kind, h.events⟩
  · exact .of_idle h.kind (fun event => by simp only [ne_eq, reduceCtorEq, not_false_eq_true])

theorem nikonCheck_with (s : Session) (event : List UInt8) (h : With k s)
    (hnikon : k.1 = .nikon) : With k (s.nikonCheck event).session := by
  unfold nikonCheck
  split
  · simp only [ask]
    split
    · exact ⟨h.kind, fun _ _ => hnikon⟩
    · exact ⟨h.kind, fun _ _ => hnikon⟩
  · exact ⟨h.kind, fun _ _ => hnikon⟩

theorem With.protocol {s : Session} (h : With k s) : s.camera.protocol = k.1 :=
  congrArg Prod.fst h.kind

theorem checkEvent_with (s : Session) (now : Nat) (event : List UInt8) (h : With k s) :
    With k (s.checkEvent now event).session := by
  have hexpire := expireBusy_with s now h
  unfold checkEvent
  split
  · exact h
  · simp only
    split
    case h_1 hprotocol =>
      exact nikonCheck_with _ event hexpire (hexpire.protocol.symm.trans hprotocol)
    · exact sonyCheck_with _ event hexpire
    · exact eosCheck_with _ hexpire
    · exact hexpire

theorem setFocus_with (s : Session) (value : Nat) (h : With k s) :
    With k (s.setFocus value).session := by
  unfold setFocus
  split
  · exact ⟨h.kind, h.events⟩
  · exact h

/-- The session stays with its camera. -/
theorem step_with (s : Session) (l : Label) (o : Outcome) (h : With k s)
    (hl : Control.stays l = true) (hstep : s.step l = some o) : With k o.session := by
  unfold step at hstep
  cases htask : s.task with
  | idle =>
      rw [htask] at hstep
      cases l with
      | checkEvent now event =>
          cases hstep
          exact checkEvent_with s now event h
      | setFocus value =>
          cases hstep
          exact setFocus_with s value h
      | readProperties =>
          cases hstep
          exact sonyReadProperties_with s h
      | command opCode receive params data =>
          cases hstep
          exact ⟨h.kind, h.events⟩
      | proceed => exact absurd hstep (by simp only [reduceCtorEq, not_false_eq_true])
      | _ => exact absurd hl (by simp only [Control.stays, Bool.false_eq_true, not_false_eq_true])
  | _ =>
      rw [htask] at hstep
      cases l with
      | proceed =>
          cases hstep
          first
            | exact nikonEventsStep_with s _ h.kind
            | exact askProperty_with s _ h.kind
            | exact describe_with s _ h.kind
            | exact eosStep_with s _ _ h.kind
            | exact sonyStep_with s _ _ h.kind
      | _ => exact absurd hstep (by simp only [reduceCtorEq, not_false_eq_true])

end Session

/-- The operation a Nikon with these flags is told to capture by. -/
def Flags.nikonCaptureOp (f : Flags) : Nat :=
  if f.nikonCapture &&& 2 ≠ 0 then nikonOcCapture2
  else if f.nikonCapture &&& 1 ≠ 0 then nikonOcCapture
  else ptpOcCapture

/-- What the flags stand for is on the list. -/
def Flags.Covered (f : Flags) (ops : List Nat) : Protocol → Prop
  | .eos =>
      (f.capture = true → eosOcCapture ∈ ops) ∧ (f.focus = true → eosOcMoveFocus ∈ ops) ∧
      (f.bulb = true → if f.ptpBulbMode ≠ 0 then eosOcBulbStart ∈ ops ∧ eosOcBulbEnd ∈ ops
        else eosOcRemoteReleaseOn ∈ ops ∧ eosOcRemoteReleaseOff ∈ ops)
  | .nikon =>
      (f.capture = true → f.nikonCaptureOp ∈ ops) ∧ (f.focus = true → nikonOcMoveFocus ∈ ops) ∧
      f.bulb = false ∧ (f.supports.cameraReady = true → nikonOcCameraReady ∈ ops) ∧
      (f.supports.event = true → nikonOcEventGet ∈ ops)
  | _ => f.capture = false ∧ f.focus = false ∧ f.bulb = false

/-- What a list has to be like for a protocol. A Canon camera lists both
    operations of the way its shutter is opened by, when `init` takes it for one
    that has them. A Nikon that lists a capture lists the one that the mask is read
    as; the mask may still hold what an earlier camera has left in it. -/
def Matches (protocol : Protocol) (nikonUSB : Bool) (before : Nat) (ops : List Nat) : Prop :=
  match protocol with
  | .eos =>
      if 1 < u8 (releases ops) then eosOcRemoteReleaseOn ∈ ops ∧ eosOcRemoteReleaseOff ∈ ops
      else 1 < u8 (bulbs ops) → eosOcBulbStart ∈ ops ∧ eosOcBulbEnd ∈ ops
  | .nikon =>
      ptpOcCapture ∈ ops ∨ nikonUSB = true ∧ (nikonOcCapture ∈ ops ∨ nikonOcCapture2 ∈ ops) →
        if before &&& 2 ≠ 0 ∨ nikonUSB = true ∧ nikonOcCapture ∈ ops then nikonOcCapture2 ∈ ops
        else before &&& 1 ≠ 0 ∨ nikonUSB = true ∧ nikonOcCapture2 ∈ ops → nikonOcCapture ∈ ops
  | _ => True

theorem any_beq_iff (ops : List Nat) (op : Nat) : ops.any (· == op) = true ↔ op ∈ ops := by
  rw [List.any_eq_true]
  constructor
  · rintro ⟨o, hmem, ho⟩
    rw [← beq_iff_eq.mp ho]
    exact hmem
  · intro hmem
    exact ⟨op, hmem, beq_self_eq_true op⟩

theorem covered_eos_iff (nikonUSB : Bool) (before : Nat) (ops : List Nat) :
    (initFlags .eos nikonUSB before ops).Covered ops .eos ↔ Matches .eos nikonUSB before ops := by
  simp only [Flags.Covered, Matches, initFlags_eos_capture, initFlags_eos_focus,
    initFlags_eos_bulb, initFlags_eos_ptpBulbMode, any_beq_iff, imp_self, true_and,
    decide_eq_true_eq]
  by_cases hrel : 1 < u8 (releases ops)
  · simp only [hrel, true_or, if_true, ne_eq, not_true_eq_false, if_false, forall_const]
  · simp only [hrel, false_or, if_false]
    refine forall_congr' fun hbulb => ?_
    rw [if_pos (by omega)]

theorem covered_nikon_iff (nikonUSB : Bool) (before : Nat) (ops : List Nat) :
    (initFlags .nikon nikonUSB before ops).Covered ops .nikon ↔
      Matches .nikon nikonUSB before ops := by
  have hcapture : (initFlags .nikon nikonUSB before ops).capture = true ↔
      ptpOcCapture ∈ ops ∨ nikonUSB = true ∧ (nikonOcCapture ∈ ops ∨ nikonOcCapture2 ∈ ops) := by
    rw [initFlags_nikon_capture, List.any_eq_true]
    grind
  have htwo := initFlags_nikonCapture nikonUSB before ops 2 nikonOcCapture (.inl ⟨rfl, rfl⟩)
  have hone := initFlags_nikonCapture nikonUSB before ops 1 nikonOcCapture2 (.inr ⟨rfl, rfl⟩)
  simp only [Flags.Covered, Matches, initFlags_nikon_focus, initFlags_nikon_cameraReady,
    initFlags_nikon_event, any_beq_iff, imp_self, and_true, initFlags_nikon_bulb, hcapture,
    Flags.nikonCaptureOp, htwo, hone]
  refine forall_congr' fun hcap => ?_
  split
  · exact Iff.rfl
  case isFalse hnot =>
    split
    case isTrue hbit => exact ⟨fun h _ => h, fun h => h hbit⟩
    case isFalse hbit =>
      refine ⟨fun _ h => absurd h hbit, fun _ => ?_⟩
      -- Neither bit is set, so the capture listed is the plain one.
      grind

theorem covered_iff (protocol : Protocol) (nikonUSB : Bool) (before : Nat) (ops : List Nat) :
    (initFlags protocol nikonUSB before ops).Covered ops protocol ↔
      Matches protocol nikonUSB before ops := by
  cases protocol with
  | eos => exact covered_eos_iff nikonUSB before ops
  | nikon => exact covered_nikon_iff nikonUSB before ops
  | _ =>
      rw [initFlags_other _ nikonUSB before ops (by decide) (by decide)]
      exact ⟨fun _ => trivial, fun _ => ⟨rfl, rfl, rfl⟩⟩

/-- A call is under way only if the flags let it start. -/
def Call.Allowed (protocol : Protocol) (f : Flags) : Call → Prop
  | .idle => True
  | .bulbStart => f.bulb = true
  | .bulbLocked => protocol = .eos ∧ f.bulb = true ∧ f.ptpBulbMode ≠ 0
  | .bulbUnlock => True
  | .capture => f.capture = true
  | .focus _ _ => f.focus = true

namespace Control

/-- What holds as long as the camera stays connected. -/
structure Sound (protocol : Protocol) (f : Flags) (c : Control) : Prop where
  flags : c.flags = f
  session : c.session.With (protocol, f.supports.cameraReady, f.supports.event)
  call : Call.Allowed protocol f c.call

variable {protocol : Protocol} {f : Flags}

theorem connect_sound (s : Session) (nikonUSB : Bool) (before : Nat) (ops : List Nat) :
    Sound protocol (initFlags protocol nikonUSB before ops)
      (connect s protocol nikonUSB before ops) where
  flags := rfl
  session := .of_idle rfl (fun event => by
    simp only [connect, ne_eq, reduceCtorEq, not_false_eq_true])
  call := trivial

/-- A step of a call leaves what it has to. -/
structure Keeps (protocol : Protocol) (f : Flags) (ops : List Nat) (d : Deed) : Prop where
  sound : Sound protocol f d.control
  advertised : d.flagged = true → ∀ q, d.request = some q → q.opCode ∈ ops

variable {ops : List Nat} {c : Control}

theorem Sound.quiet (h : Sound protocol f c) : Keeps protocol f ops c.quiet :=
  ⟨h, fun hflag => absurd hflag Bool.false_ne_true⟩

theorem Sound.protocol_eq (h : Sound protocol f c) : c.session.camera.protocol = protocol :=
  h.session.protocol

/-- A command that the flags decide on has to be on the list, and what comes after it
    has to leave what holds. -/
theorem Sound.send {flagged : Bool} {opCode : Nat} {params : List Nat}
    {next : Ret → Control → Control} (h : Sound protocol f c)
    (hop : flagged = true → opCode ∈ ops)
    (hnext : ∀ ret c, Sound protocol f c → Sound protocol f (next ret c)) :
    Keeps protocol f ops (c.send flagged opCode params next) where
  sound := hnext _ _ ⟨h.flags, ⟨h.session.kind, h.session.events⟩, h.call⟩
  advertised := by
    intro hflag q hq
    cases hq
    exact hop hflag

theorem Sound.idle (h : Sound protocol f c) : Sound protocol f { c with call := .idle } :=
  ⟨h.flags, h.session, trivial⟩

theorem Sound.rest (ret : Ret) (h : Sound protocol f c) : Sound protocol f (Control.rest ret c) :=
  h.idle

/-- What the calls do to the session besides is not seen by what holds. -/
theorem Sound.camera {camera : Camera} (h : Sound protocol f c)
    (hkind : camera.kind = c.session.camera.kind) :
    Sound protocol f { c with session.camera := camera } :=
  ⟨h.flags, ⟨hkind.trans h.session.kind, h.session.events⟩, h.call⟩

theorem Sound.call_to {call : Call} (h : Sound protocol f c)
    (hcall : Call.Allowed protocol f call) : Sound protocol f { c with call := call } :=
  ⟨h.flags, h.session, hcall⟩

theorem bulbStartSend_keeps (h : Sound protocol f c) (hcov : f.Covered ops protocol)
    (hbulb : f.bulb = true) : Keeps protocol f ops c.bulbStartSend := by
  unfold bulbStartSend
  rw [h.protocol_eq]
  cases protocol with
  | eos =>
      have hpair := hcov.2.2 hbulb
      simp only [h.flags]
      by_cases hmode : f.ptpBulbMode ≠ 0
      · rw [if_pos hmode]
        refine h.send (fun h => absurd h Bool.false_ne_true) fun ret c hc => ?_
        refine hc.call_to ?_
        split
        · exact ⟨rfl, hbulb, hmode⟩
        · trivial
      · rw [if_neg hmode]
        rw [if_neg hmode] at hpair
        exact h.send (fun _ => hpair.1) fun ret c hc => hc.rest ret
  | nikon => exact absurd (hbulb.symm.trans hcov.2.2.1) (by decide)
  | _ => exact h.idle.quiet

theorem bulbEndSend_keeps (h : Sound protocol f c) (hcov : f.Covered ops protocol)
    (hbulb : f.bulb = true) : Keeps protocol f ops c.bulbEndSend := by
  have hclose : ∀ (ret : Ret) (c : Control), Sound protocol f c → Sound protocol f
      (if ret = .ok then { c with session.camera.bulbOpen := false } else c) := by
    intro ret c hc
    split
    · exact hc.camera rfl
    · exact hc
  unfold bulbEndSend
  rw [h.protocol_eq]
  cases protocol with
  | eos =>
      have hpair := hcov.2.2 hbulb
      simp only [h.flags]
      by_cases hmode : f.ptpBulbMode ≠ 0
      · rw [if_pos hmode]
        rw [if_pos hmode] at hpair
        refine h.send (fun _ => hpair.2) fun ret c hc => ?_
        refine hc.call_to ?_
        split <;> trivial
      · rw [if_neg hmode]
        rw [if_neg hmode] at hpair
        exact h.send (fun _ => hpair.2) hclose
  | nikon => exact absurd (hbulb.symm.trans hcov.2.2.1) (by decide)
  | _ => exact (h.camera (by rfl)).quiet

theorem captureSend_keeps (h : Sound protocol f c) (hcov : f.Covered ops protocol)
    (hcapture : f.capture = true) : Keeps protocol f ops c.captureSend := by
  unfold captureSend
  rw [h.protocol_eq]
  cases protocol with
  | eos => exact h.send (fun _ => hcov.1 hcapture) fun ret c hc => hc.rest ret
  | nikon =>
      -- The mask picks the operation that `nikonCaptureOp` names.
      have hop := hcov.1 hcapture
      unfold Flags.nikonCaptureOp at hop
      simp only [h.flags]
      split
      case isTrue htwo =>
        rw [if_pos htwo] at hop
        exact h.send (fun _ => hop) fun ret c hc => hc.rest ret
      case isFalse htwo =>
        rw [if_neg htwo] at hop
        split
        case isTrue hone =>
          rw [if_pos hone] at hop
          exact h.send (fun _ => hop) fun ret c hc => hc.rest ret
        case isFalse hone =>
          rw [if_neg hone] at hop
          exact h.send (fun _ => hop) fun ret c hc => hc.rest ret
  | sony => exact h.idle.quiet
  | _ => exact absurd (hcapture.symm.trans hcov.1) (by decide)

theorem focusSend_keeps (h : Sound protocol f c) (hcov : f.Covered ops protocol)
    (hfocus : f.focus = true) (move : Int) (steps : Nat) :
    Keeps protocol f ops (c.focusSend move steps) := by
  have hnext : ∀ (ret : Ret) (c : Control), Sound protocol f c → Sound protocol f
      { c with call := if ret = .ok then .focus move (steps - 1) else .idle } := by
    intro ret c hc
    refine hc.call_to ?_
    split
    · exact hfocus
    · trivial
  unfold focusSend
  by_cases hsteps : steps = 0
  · rw [if_pos hsteps]
    exact h.idle.quiet
  · rw [if_neg hsteps, h.protocol_eq]
    cases protocol with
    | eos => exact h.send (fun _ => hcov.2.1 hfocus) hnext
    | nikon => exact h.send (fun _ => hcov.2.1 hfocus) hnext
    | _ => exact h.idle.quiet

theorem goOn_keeps (h : Sound protocol f c) (hcov : f.Covered ops protocol) {d : Deed}
    (hstep : c.goOn = some d) : Keeps protocol f ops d := by
  unfold goOn at hstep
  have hcall := h.call
  cases hc : c.call with
  | idle =>
      rw [hc] at hstep
      exact absurd hstep (by simp only [reduceCtorEq, not_false_eq_true])
  | bulbStart =>
      rw [hc] at hstep hcall
      cases hstep
      exact bulbStartSend_keeps h hcov hcall
  | bulbLocked =>
      rw [hc] at hstep hcall
      cases hstep
      rcases hcall with ⟨rfl, hbulb, hmode⟩
      have hpair := hcov.2.2 hbulb
      rw [if_pos hmode] at hpair
      exact h.send (fun _ => hpair.1) fun ret c hc => hc.rest ret
  | bulbUnlock =>
      rw [hc] at hstep
      cases hstep
      exact h.send (fun h => absurd h Bool.false_ne_true) fun ret c hc =>
        ⟨hc.flags, ⟨hc.session.kind, hc.session.events⟩, trivial⟩
  | capture =>
      rw [hc] at hstep hcall
      cases hstep
      exact captureSend_keeps ⟨h.flags, ⟨h.session.kind, h.session.events⟩, hcall⟩ hcov hcall
  | focus move steps =>
      rw [hc] at hstep hcall
      cases hstep
      exact focusSend_keeps h hcov hcall move steps

/-- What `checkEvent` sends to a Nikon. -/
theorem checkEvent_ready (s : Session) (now : Nat) (event : List UInt8) {ready events : Bool}
    (h : s.With (.nikon, ready, events)) (o : Outcome)
    (hstep : s.step (.checkEvent now event) = some o) (q : Request) (hq : o.request = some q) :
    ready = true ∧ q.opCode = nikonOcCameraReady := by
  have hexpire := s.expireBusy_with now h
  have hready : (s.expireBusy now).camera.supports.cameraReady = ready :=
    congrArg (fun k => k.2.1) hexpire.kind
  unfold Session.step at hstep
  split at hstep
  case h_1 _ htask hl =>
    cases hl
    cases hstep
    unfold Session.checkEvent at hq
    split at hq
    · exact absurd hq (by simp only [Session.quiet, reduceCtorEq, not_false_eq_true])
    · simp only [hexpire.protocol, Session.nikonCheck, hready] at hq
      split at hq
      case isTrue hr =>
        cases hq
        exact ⟨hr, rfl⟩
      case isFalse =>
        exact absurd hq (by simp only [Session.quiet, reduceCtorEq, not_false_eq_true])
  all_goals first | (rename_i hl; cases hl) | cases hstep

/-- And what it sends then. -/
theorem events_get (s : Session) (event : List UInt8) {ready events : Bool}
    (h : s.With (.nikon, ready, events)) (htask : s.task = .events event) (o : Outcome)
    (hstep : s.step .proceed = some o) (q : Request) (hq : o.request = some q) :
    events = true ∧ q.opCode = nikonOcEventGet := by
  have hevent : s.camera.supports.event = events := congrArg (fun k => k.2.2) h.kind
  unfold Session.step at hstep
  rw [htask] at hstep
  cases hstep
  simp only [Session.nikonEventsStep, hevent] at hq
  split at hq
  case isTrue he =>
    cases hq
    exact ⟨he, rfl⟩
  case isFalse => exact absurd hq (by simp only [Session.quiet, reduceCtorEq, not_false_eq_true])

/-- What `checkEvent` sends because the flags say so. -/
theorem session_advertised (h : c.session.With (protocol, f.supports.cameraReady, f.supports.event))
    (hcov : f.Covered ops protocol) (l : Label) (o : Outcome) (hstep : c.session.step l = some o)
    (hdecides : decides c.session l = true) (q : Request) (hq : o.request = some q) :
    q.opCode ∈ ops := by
  cases l with
  | checkEvent now event =>
      -- A Nikon that can tell is asked whether it is ready.
      have hprotocol : c.session.camera.protocol = .nikon := of_decide_eq_true hdecides
      rw [h.protocol] at hprotocol
      cases hprotocol
      rcases checkEvent_ready c.session now event h o hstep q hq with ⟨hready, hop⟩
      rw [hop]
      exact hcov.2.2.2.1 hready
  | proceed =>
      cases htask : c.session.task with
      | events event =>
          have hprotocol : protocol = .nikon := h.events event htask
          cases hprotocol
          rcases events_get c.session event h htask o hstep q hq with ⟨hevent, hop⟩
          rw [hop]
          exact hcov.2.2.2.2 hevent
      | _ =>
          rw [decides, htask] at hdecides
          exact absurd hdecides Bool.false_ne_true
  | _ => exact absurd hdecides Bool.false_ne_true

/-- One step, whatever it is. -/
theorem step_keeps (h : Sound protocol f c) (hcov : f.Covered ops protocol) (m : Move) (d : Deed)
    (hstep : c.step m = some d) : Keeps protocol f ops d := by
  unfold step at hstep
  cases m with
  | session l =>
      simp only at hstep
      split at hstep
      case isTrue hok =>
        rcases Option.map_eq_some_iff.mp hstep with ⟨o, ho, rfl⟩
        exact ⟨⟨h.flags, Session.step_with _ l o h.session hok.2 ho, h.call⟩,
          fun hdecides q hq => session_advertised h.session hcov l o ho hdecides q hq⟩
      case isFalse hok => exact absurd hstep (by simp only [reduceCtorEq, not_false_eq_true])
  | goOn =>
      simp only at hstep
      split at hstep
      · exact goOn_keeps h hcov hstep
      · exact absurd hstep (by simp only [reduceCtorEq, not_false_eq_true])
  | capture =>
      simp only at hstep
      split at hstep
      case isTrue hok =>
        cases hstep
        exact (h.call_to (h.flags ▸ hok.2.2.1)).quiet
      case isFalse hok => exact absurd hstep (by simp only [reduceCtorEq, not_false_eq_true])
  | bulbStart =>
      simp only at hstep
      split at hstep
      case isTrue hok =>
        cases hstep
        have hbulb : f.bulb = true := h.flags ▸ hok.2.2.1
        exact Sound.quiet ⟨h.flags, ⟨h.session.kind, h.session.events⟩, hbulb⟩
      case isFalse hok => exact absurd hstep (by simp only [reduceCtorEq, not_false_eq_true])
  | bulbEnd =>
      simp only at hstep
      split at hstep
      case isTrue hok =>
        cases hstep
        exact bulbEndSend_keeps (h.camera (by rfl)) hcov (h.flags ▸ hok.2.2.1)
      case isFalse hok => exact absurd hstep (by simp only [reduceCtorEq, not_false_eq_true])
  | moveFocus move steps =>
      simp only at hstep
      split at hstep
      case isTrue hok =>
        cases hstep
        exact (h.call_to (h.flags ▸ hok.2.2.1)).quiet
      case isFalse hok => exact absurd hstep (by simp only [reduceCtorEq, not_false_eq_true])

/-- What holds of the camera just connected holds as long as it stays. -/
theorem run_sound (s : Session) (nikonUSB : Bool) (before : Nat)
    (hmatches : Matches protocol nikonUSB before ops)
    (h : Run next (fun _ _ => True) (connect s protocol nikonUSB before ops) c) :
    Sound protocol (initFlags protocol nikonUSB before ops) c := by
  have hcov := (covered_iff protocol nikonUSB before ops).mpr hmatches
  refine h.invariant _ (fun c m c' hc _ hnext => ?_) (connect_sound s nikonUSB before ops)
  rcases Option.map_eq_some_iff.mp hnext with ⟨d, hd, rfl⟩
  exact (step_keeps hc hcov m d hd).sound

section Sent

/-- A camera of this protocol is connected and can be called. -/
structure Up (protocol : Protocol) (c : Control) : Prop where
  task : c.session.task = .idle
  call : c.call = .idle
  ready : c.session.camera.ready = true
  protocol : c.session.camera.protocol = protocol

theorem connect_up (s : Session) (nikonUSB : Bool) (before : Nat) (ops : List Nat) :
    Up protocol (connect s protocol nikonUSB before ops) :=
  ⟨rfl, rfl, rfl, rfl⟩

/-- A Nikon can be told to capture, and is told by the operation its mask is read
    as. -/
theorem capture_sends (h : Up .nikon c) (hcapture : c.flags.capture = true) :
    ∃ c', c.next .capture = some c' ∧ c'.Sends .goOn c.flags.nikonCaptureOp := by
  refine ⟨{ c with call := .capture }, ?_, ?_⟩
  · simp only [next, step]
    rw [if_pos ⟨h.task, h.call, hcapture, h.ready⟩]
    rfl
  · simp only [Sends, step, goOn, captureSend, Flags.nikonCaptureOp, h.task, h.protocol, if_true]
    split
    · exact ⟨_, _, rfl, rfl, rfl, rfl⟩
    · split
      · exact ⟨_, _, rfl, rfl, rfl, rfl⟩
      · exact ⟨_, _, rfl, rfl, rfl, rfl⟩

/-- A Canon camera's bulb is open, or being opened, where a call stands. -/
structure Opened (f : Flags) (call : Call) (c : Control) : Prop where
  task : c.session.task = .idle
  call : c.call = call
  ready : c.session.camera.ready = true
  opened : c.session.camera.bulbOpen = true
  protocol : c.session.camera.protocol = .eos
  flags : c.flags = f

theorem bulbStart_opened (h : Up .eos c) (hbulb : c.flags.bulb = true) :
    ∃ c', c.next .bulbStart = some c' ∧ Opened c.flags .bulbStart c' ∧
      c'.session.driver = c.session.driver := by
  simp only [next, step]
  rw [if_pos ⟨h.task, h.call, hbulb, h.ready⟩]
  exact ⟨_, rfl, ⟨h.task, rfl, h.ready, rfl, h.protocol, rfl⟩, rfl⟩

/-- A remote release is pressed. -/
theorem release_on (h : Opened f .bulbStart c) (hmode : f.ptpBulbMode = 0) :
    c.Sends .goOn eosOcRemoteReleaseOn ∧ ∃ c', c.next .goOn = some c' ∧ Opened f .idle c' := by
  have hstep : c.step .goOn = some (c.send true eosOcRemoteReleaseOn [0x03, 0x00] rest) := by
    simp only [step, goOn, bulbStartSend, h.task, h.call, h.protocol, h.flags, hmode, if_true,
      ne_eq, not_true_eq_false, if_false]
  refine ⟨⟨_, _, hstep, rfl, rfl, rfl⟩, _, congrArg (Option.map Deed.control) hstep, ?_⟩
  exact ⟨h.task, rfl, h.ready, h.opened, h.protocol, h.flags⟩

/-- And let go. -/
theorem release_off (h : Opened f .idle c) (hbulb : f.bulb = true) (hmode : f.ptpBulbMode = 0) :
    c.Sends .bulbEnd eosOcRemoteReleaseOff := by
  simp only [Sends, step, bulbEndSend, h.task, h.call, h.ready, h.opened, h.protocol, h.flags,
    hbulb, hmode, and_self, if_true, ne_eq, not_true_eq_false, if_false]
  exact ⟨_, _, rfl, rfl, rfl, rfl⟩

/-- The keys are locked, if the camera lets them be. -/
theorem bulb_locked (h : Opened f .bulbStart c) (hmode : f.ptpBulbMode ≠ 0)
    (hlock : (Request.mk c.session.driver eosOcSetUiLock false [] []).run.1 = .ok) :
    ∃ c', c.next .goOn = some c' ∧ Opened f .bulbLocked c' := by
  simp only [next, step, goOn, bulbStartSend, h.task, h.call, h.protocol, h.flags, if_true]
  rw [if_pos hmode]
  refine ⟨_, rfl, ⟨h.task, ?_, h.ready, h.opened, h.protocol, h.flags⟩⟩
  simp only [send, hlock, if_true]

/-- The bulb is started. -/
theorem bulb_start (h : Opened f .bulbLocked c) :
    c.Sends .goOn eosOcBulbStart ∧ ∃ c', c.next .goOn = some c' ∧ Opened f .idle c' := by
  have hstep : c.step .goOn = some (c.send true eosOcBulbStart [] rest) := by
    simp only [step, goOn, h.task, h.call, if_true]
  refine ⟨⟨_, _, hstep, rfl, rfl, rfl⟩, _, congrArg (Option.map Deed.control) hstep, ?_⟩
  exact ⟨h.task, rfl, h.ready, h.opened, h.protocol, h.flags⟩

/-- And ended. -/
theorem bulb_end (h : Opened f .idle c) (hbulb : f.bulb = true) (hmode : f.ptpBulbMode ≠ 0) :
    c.Sends .bulbEnd eosOcBulbEnd := by
  simp only [Sends, step, bulbEndSend, h.task, h.call, h.ready, h.opened, h.protocol, h.flags,
    hbulb, and_self, if_true]
  rw [if_pos hmode]
  exact ⟨_, _, rfl, rfl, rfl, rfl⟩

/-- A camera that answers lets its keys be locked. -/
theorem lock_answered : (Request.mk (Driver.idle [⟨noError, noError, [okResponse]⟩])
    eosOcSetUiLock false [] []).run.1 = .ok := by
  rfl

end Sent

/-- Nothing is sent on the strength of the flags that the camera does not list, whatever
    came before and whatever it answers, exactly when its list matches. -/
theorem run_advertised (protocol : Protocol) (nikonUSB : Bool) (before : Nat) (ops : List Nat) :
    (∀ s c, Run next (fun _ _ => True) (connect s protocol nikonUSB before ops) c →
      c.Advertised ops) ↔ Matches protocol nikonUSB before ops := by
  constructor
  · intro hall
    rw [← covered_iff]
    cases protocol with
    | eos =>
        refine ⟨?_, ?_, fun hbulb => ?_⟩
        · rw [initFlags_eos_capture]
          exact (any_beq_iff ops _).mp
        · rw [initFlags_eos_focus]
          exact (any_beq_iff ops _).mp
        · -- Each way of opening the shutter is begun and ended in one run.
          rcases bulbStart_opened (connect_up (eosSession [⟨noError, noError, [okResponse]⟩])
            nikonUSB before ops) hbulb with ⟨c₁, hnext₁, hopened₁, hdriver⟩
          have hrun₁ : Run next (fun _ _ => True) _ c₁ := .tail .bulbStart .refl trivial hnext₁
          by_cases hmode : (initFlags .eos nikonUSB before ops).ptpBulbMode = 0
          · rw [if_neg (not_not.mpr hmode)]
            rcases release_on hopened₁ hmode with ⟨hon, c₂, hnext₂, hopened₂⟩
            exact ⟨hall _ c₁ hrun₁ _ _ hon, hall _ c₂ (hrun₁.tail .goOn trivial hnext₂) _ _
              (release_off hopened₂ hbulb hmode)⟩
          · rw [if_pos hmode]
            rcases bulb_locked hopened₁ hmode (hdriver ▸ lock_answered) with ⟨c₂, hnext₂, hopened₂⟩
            have hrun₂ := hrun₁.tail .goOn trivial hnext₂
            rcases bulb_start hopened₂ with ⟨hstart, c₃, hnext₃, hopened₃⟩
            exact ⟨hall _ c₂ hrun₂ _ _ hstart, hall _ c₃ (hrun₂.tail .goOn trivial hnext₃) _ _
              (bulb_end hopened₃ hbulb hmode)⟩
    | nikon =>
        refine ⟨fun hcapture => ?_, ?_, initFlags_nikon_bulb nikonUSB before ops, ?_, ?_⟩
        · rcases capture_sends (connect_up (eosSession []) nikonUSB before ops) hcapture
            with ⟨c, hnext, hsends⟩
          exact hall _ c (.tail .capture .refl trivial hnext) _ _ hsends
        · rw [initFlags_nikon_focus]
          exact (any_beq_iff ops _).mp
        · rw [initFlags_nikon_cameraReady]
          exact (any_beq_iff ops _).mp
        · rw [initFlags_nikon_event]
          exact (any_beq_iff ops _).mp
    | _ =>
        rw [initFlags_other _ nikonUSB before ops (by decide) (by decide)]
        exact ⟨rfl, rfl, rfl⟩
  · rintro hmatches s c hrun m op ⟨d, q, hstep, hflag, hq, rfl⟩
    have hcov := (covered_iff protocol nikonUSB before ops).mpr hmatches
    exact (step_keeps (run_sound s nikonUSB before hmatches hrun) hcov m d hstep).advertised
      hflag q hq

/-- A Nikon that lists only the first of the two captures, used by the user's leave: it
    is told to capture by the second one. -/
theorem capture_crossed : ∃ c, Run next (fun _ _ => True)
    (connect (eosSession []) .nikon true 0 [ptpOcCapture, nikonOcCapture, nikonOcEventGet]) c ∧
      c.Sends .goOn nikonOcCapture2 ∧
      nikonOcCapture2 ∉ [ptpOcCapture, nikonOcCapture, nikonOcEventGet] := by
  rcases capture_sends (connect_up (eosSession []) true 0
    [ptpOcCapture, nikonOcCapture, nikonOcEventGet]) (by decide +kernel) with ⟨c, hnext, hsends⟩
  exact ⟨c, .tail .capture .refl trivial hnext, hsends, by decide⟩

end Control

end Ptp

end TimelapsePlus
