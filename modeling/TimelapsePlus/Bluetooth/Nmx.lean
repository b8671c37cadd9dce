import Mathlib.Logic.Basic

/-!
# The Position of a Motor

A motor is moved over the radio, by so many steps one way or the other, and where
it is is only known by adding them up. `move` adds the steps to the position
before it knows what becomes of the command. The command may not be sent, since
the link is gone, or not be acknowledged, and `move` says so to its caller, but
the position has been changed.

A position is a signed word, and a number of steps an unsigned one.

The bytes of a command are left out, and so is the wait for the motor to come to
rest, after which the link is looked at again.

## Main definitions

* `Position`: A signed word.
* `Air`: What a call finds on the radio.
* `Motor.move`, `Motor.moveSteps`, `Motor.moveToPosition`: The functions of the
  source.
* `acknowledged`: The steps of the commands that were acknowledged.
* `Tracks`: The position is the sum of these, at any time.
* `Heard`: Every command is acknowledged, or is one to stay.

## Theorems

* `Motor.call_cases`: What a call says, and what it does to the position.
* `Motor.call_tracks`: When a call keeps the sum.
* `tracks_iff`: When a sequence of calls does.
* `link_lost`: A command that is not sent moves the position.
-/

namespace TimelapsePlus

namespace Nmx

/-- An `int32_t`. -/
structure Position where
  val : Int
  low : -2147483648 ≤ val
  high : val < 2147483648
deriving DecidableEq

/-- A number is stored as an `int32_t`. -/
def Position.wrap (z : Int) : Position where
  val := (z + 2147483648) % 4294967296 - 2147483648
  low := by omega
  high := by omega

/-- `bt.state`, as far as it matters here. -/
inductive BtState
  | connectedNmx
  | connectedGm
  | other
deriving DecidableEq

/-- What a call finds on the radio: `bt.state` when it is made, `remote.nmx` and `bt.state`
    when the command is to be sent, and what `bt.checkOK` says to it. -/
structure Air where
  state : BtState
  remoteNmx : Bool
  stateNow : BtState
  ok : Bool
deriving DecidableEq

/-- `sendCommand`. -/
def sendCommand (a : Air) : Bool :=
  if !a.remoteNmx || decide (a.stateNow ≠ .connectedNmx) then false else a.ok

/-- The steps with the direction as their sign. -/
def signed (dir : UInt8) (steps : UInt32) : Int :=
  if dir = 0 then steps.toNat else -(steps.toNat : Int)

/-- A motor. -/
structure Motor where
  currentPos : Position
deriving DecidableEq

namespace Motor

/-- The position is updated. -/
def advance (m : Motor) (dir : UInt8) (steps : UInt32) : Motor :=
  { m with currentPos := .wrap (m.currentPos.val + signed dir steps) }

/-- `NMX::move`. -/
def move (m : Motor) (a : Air) (dir : UInt8) (steps : UInt32) (update : Bool) : Motor × Bool :=
  if a.state = .connectedGm then (if update then m.advance dir steps else m, a.ok)
  else (if update then m.advance dir steps else m, sendCommand a)

/-- `NMX::moveSteps`. -/
def moveSteps (m : Motor) (a : Air) (dir : UInt8) (steps : UInt32) : Motor × Bool :=
  m.move a dir steps true

/-- `NMX::moveToPosition`. -/
def moveToPosition (m : Motor) (a : Air) (pos : Position) : Motor × Bool :=
  if pos.val < m.currentPos.val then
    m.moveSteps a 1 (.ofNat (m.currentPos.val - pos.val).toNat)
  else if m.currentPos.val < pos.val then
    m.moveSteps a 0 (.ofNat (pos.val - m.currentPos.val).toNat)
  else (m, false)

end Motor

/-- What a motor is called for. -/
inductive Call
  | moveToPosition (pos : Position)
  | moveSteps (dir : UInt8) (steps : UInt32)

/-- A call. -/
def Motor.call (m : Motor) : Call → Air → Motor × Bool
  | .moveToPosition pos, a => m.moveToPosition a pos
  | .moveSteps dir steps, a => m.moveSteps a dir steps

/-- The steps of the command that a call is for. -/
def Motor.steps (m : Motor) : Call → Int
  | .moveToPosition pos => pos.val - m.currentPos.val
  | .moveSteps dir steps => signed dir steps

/-- A command is sent and acknowledged. -/
def Air.acked (a : Air) : Bool := if a.state = .connectedGm then a.ok else sendCommand a

/-- A sequence of calls. -/
def Motor.run (m : Motor) : List (Call × Air) → Motor
  | [] => m
  | (c, a) :: cs => (m.call c a).1.run cs

/-- The steps of the commands that were acknowledged, by what the calls say. -/
def acknowledged (m : Motor) : List (Call × Air) → Int
  | [] => 0
  | (c, a) :: cs =>
      (if (m.call c a).2 then m.steps c else 0) + acknowledged (m.call c a).1 cs

/-- After every call the position is what it was and the steps that were acknowledged. -/
def Tracks (m : Motor) (cs : List (Call × Air)) : Prop :=
  ∀ n, (m.run (cs.take n)).currentPos.val = m.currentPos.val + acknowledged m (cs.take n)

/-- Every command is acknowledged, and its position is one that can be stored, or else it
    is a command to stay. -/
def Heard (m : Motor) : List (Call × Air) → Prop
  | [] => True
  | (c, a) :: cs =>
      (if a.acked then
          -2147483648 ≤ m.currentPos.val + m.steps c ∧ m.currentPos.val + m.steps c < 2147483648
        else m.steps c = 0) ∧
      Heard (m.call c a).1 cs

/-- A number that can be stored is. -/
theorem wrap_val {z : Int} : (Position.wrap z).val = z ↔ -2147483648 ≤ z ∧ z < 2147483648 := by
  simp only [Position.wrap]
  omega

/-- The position is updated on either path. -/
theorem Motor.move_update (m : Motor) (a : Air) (dir : UInt8) (steps : UInt32) :
    m.move a dir steps true = (m.advance dir steps, a.acked) := by
  unfold Motor.move Air.acked
  by_cases hstate : a.state = .connectedGm
  · rw [if_pos hstate, if_pos hstate, if_pos rfl]
  · rw [if_neg hstate, if_neg hstate, if_pos rfl]

/-- The steps to a position fit their word. -/
theorem toNat_steps {p q : Position} (h : q.val < p.val) :
    ((UInt32.ofNat (p.val - q.val).toNat).toNat : Int) = p.val - q.val := by
  have hlow := q.low
  have hhigh := p.high
  rw [UInt32.toNat_ofNat']
  omega

/-- A call adds the steps of its command and says whether it was acknowledged, or else
    there is nothing to move. -/
theorem Motor.call_cases (m : Motor) (c : Call) (a : Air) :
    m.call c a = (⟨.wrap (m.currentPos.val + m.steps c)⟩, a.acked) ∨
      m.steps c = 0 ∧ m.call c a = (m, false) := by
  cases c with
  | moveSteps dir steps => exact Or.inl (m.move_update a dir steps)
  | moveToPosition pos =>
      by_cases hback : pos.val < m.currentPos.val
      · have hsteps : signed 1 (.ofNat (m.currentPos.val - pos.val).toNat) =
            m.steps (.moveToPosition pos) := by
          rw [signed, if_neg (by decide), toNat_steps hback]
          simp only [Motor.steps]
          omega
        refine Or.inl ((if_pos hback).trans ?_)
        rw [Motor.moveSteps, Motor.move_update, Motor.advance, hsteps]
      · by_cases hforth : m.currentPos.val < pos.val
        · have hsteps : signed 0 (.ofNat (pos.val - m.currentPos.val).toNat) =
              m.steps (.moveToPosition pos) := by
            rw [signed, if_pos rfl, toNat_steps hforth]
            rfl
          refine Or.inl ((if_neg hback).trans ((if_pos hforth).trans ?_))
          rw [Motor.moveSteps, Motor.move_update, Motor.advance, hsteps]
        · refine Or.inr ⟨?_, (if_neg hback).trans (if_neg hforth)⟩
          simp only [Motor.steps]
          omega

/-- The steps of a command fit their word. -/
theorem Motor.abs_steps (m : Motor) (c : Call) :
    -4294967296 < m.steps c ∧ m.steps c < 4294967296 := by
  cases c with
  | moveSteps dir steps =>
      have hlt := steps.toNat_lt
      simp only [Motor.steps, signed]
      split
      · omega
      · omega
  | moveToPosition pos =>
      have hp := pos.low
      have hp' := pos.high
      have hm := m.currentPos.low
      have hm' := m.currentPos.high
      simp only [Motor.steps]
      omega

/-- A call keeps the sum exactly when its command is acknowledged and its position can be
    stored, or it is one to stay. -/
theorem Motor.call_tracks (m : Motor) (c : Call) (a : Air) :
    (m.call c a).1.currentPos.val =
        m.currentPos.val + (if (m.call c a).2 then m.steps c else 0) ↔
      if a.acked then
        -2147483648 ≤ m.currentPos.val + m.steps c ∧ m.currentPos.val + m.steps c < 2147483648
      else m.steps c = 0 := by
  have hlow := m.currentPos.low
  have hhigh := m.currentPos.high
  rcases m.call_cases c a with hcall | ⟨hstay, hcall⟩
  · rw [hcall]
    simp only
    by_cases hacked : a.acked = true
    · rw [if_pos hacked, if_pos hacked]
      exact wrap_val
    · rw [if_neg hacked, if_neg hacked]
      -- The steps have been added, and a word is not enough for them to come around.
      have hsteps := m.abs_steps c
      simp only [Position.wrap]
      omega
  · rw [hcall, hstay]
    simp only [Bool.false_eq_true, if_false]
    split
    · omega
    · exact iff_of_true (Int.add_zero _).symm trivial

/-- The position is the sum of the acknowledged steps after every call, exactly when every
    command is acknowledged, and its position can be stored, or is one to stay. -/
theorem tracks_iff (m : Motor) (cs : List (Call × Air)) : Tracks m cs ↔ Heard m cs := by
  induction cs generalizing m with
  | nil =>
      refine ⟨fun _ => trivial, fun _ n => ?_⟩
      rw [List.take_nil]
      exact (Int.add_zero _).symm
  | cons x cs ih =>
      rcases x with ⟨c, a⟩
      rw [Heard, ← ih, ← Motor.call_tracks]
      constructor
      · intro h
        -- The first call is the prefix of length one.
        have hone := h 1
        simp only [List.take_succ_cons, List.take_zero, Motor.run, acknowledged, Int.add_zero]
          at hone
        refine ⟨hone, fun n => ?_⟩
        have hnext := h (n + 1)
        simp only [List.take_succ_cons, Motor.run, acknowledged] at hnext
        rw [hnext, hone]
        omega
      · rintro ⟨hone, hrest⟩ n
        cases n with
        | zero => exact (Int.add_zero _).symm
        | succ n =>
            have hnext := hrest n
            simp only [List.take_succ_cons, Motor.run, acknowledged]
            rw [hnext, hone]
            omega

/-- A motor at zero is to go a hundred steps, and the link is gone. Nothing is sent, and the
    position is a hundred. -/
theorem link_lost : ∃ m cs, ¬ Tracks m cs := by
  refine ⟨⟨.wrap 0⟩, [(.moveSteps 0 100, ⟨.other, true, .other, false⟩)], fun h => ?_⟩
  exact absurd (h 1) (by decide +kernel)

end Nmx

end TimelapsePlus
