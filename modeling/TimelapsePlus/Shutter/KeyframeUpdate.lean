import TimelapsePlus.Shutter.Keyframes
import TimelapsePlus.Shutter.Task

/-!
# Keeping a Keyframe Group in Step with the Program

`updateKeyframeGroup` is called whenever a group is shown: it puts the first
keyframe at time zero and the last one at the end of the program, and sets the
range of the values by what the group is for. The keyframes in between it leaves
where they are.

The end of the program is computed in 32 bits, and is never closer than 84
milliseconds. The first keyframe of an axis is its origin; the positions of the
axes, which follow it, are in a module of their own. Values do not overflow.

## Main definitions

* `KeyframeType`, `Scale`, `Group`: The data.
* `Program.lengthMs`: How long a program is.
* `updateKeyframeGroup`, `resetKeyframes`: The functions.
* `Group.Kept`: What is kept of a group.
* `Group.Ordered`: What has to be kept for it to be.
* `Group.Between`: Where a keyframe can be moved to.

## Theorems

* `update_stored`, `update_ms`: What an update does to the times.
* `update_kept`: An update of an ordered group keeps it.
* `Ordered.setMs`: A keyframe stays between its neighbours.
-/

namespace TimelapsePlus

namespace Shutter

open Word

/-- What a group is for. -/
inductive KeyframeType
  | exposure
  | motor1
  | motor2
  | motor3
  | focus
  | interval
deriving Repr, DecidableEq

/-- The settings the range of the values is taken from, and the two ends of the ramp. -/
structure Scale where
  motionStep1 : Int
  motionStep2 : Int
  motionStep3 : Int
  focusStep : Int
  rampMax : Int
  rampMin : Int

/-- A group of keyframes as the editor has it. `move` says that something is moved
    to the value under the cursor. -/
structure Group extends KeyframeGroup where
  selected : Nat
  hasEndKeyframe : Bool
  type : KeyframeType
  max : Int
  min : Int
  steps : Int
  rangeExtendable : Bool
  move : Bool

/-- How long a program is, in milliseconds. -/
def Program.lengthMs (p : Program) : Nat :=
  if p.ramp then p.duration * 60 * 1000 else p.photos * p.gap * 100

/-- Where the last keyframe belongs. -/
def Program.endMs (p : Program) : Nat := max 84 p.lengthMs

/-- Where `updateKeyframeGroup` puts it. -/
def Program.storedMs (p : Program) : Nat :=
  max 84 (if p.ramp then u32 (p.duration * 60 * 1000) else u32 (u32 (p.photos * p.gap) * 100))

namespace Group

/-- Put a keyframe at a time. -/
def setMs (g : Group) (i t : Nat) : Group :=
  { g with keyframes :=
      Function.update g.keyframes i ⟨(g.keyframes i).value, u32 t, u32_lt t⟩ }

/-- Give keyframes values. -/
def mapValue (g : Group) (f : Nat → Int → Int) : Group :=
  { g with keyframes := fun i => { g.keyframes i with value := f i (g.keyframes i).value } }

/-- Give a keyframe a value. -/
def setValue (g : Group) (i : Nat) (v : Int) : Group :=
  g.mapValue fun j w => if j = i then v else w

def value (g : Group) (i : Nat) : Int := (g.keyframes i).value

def ms (g : Group) (i : Nat) : Nat := (g.keyframes i).ms

/-- The largest value in use, if it is larger than this. -/
def highest (g : Group) (max : Int) : Int :=
  (List.range g.count).foldl (fun m i => if m < g.value i then g.value i else m) max

/-- The smallest value in use, if it is smaller than this. -/
def lowest (g : Group) (min : Int) : Int :=
  (List.range g.count).foldl (fun m i => if g.value i < m then g.value i else m) min

/-- The values of an axis, with the first of them at its origin. -/
def rebase (g : Group) : Group :=
  if g.value 0 ≠ 0 then
    g.mapValue fun i v => if i = 0 then 0 else if i < g.count then v - g.value 0 else v
  else g

/-- The group of an axis. -/
def fitMotor (g : Group) (steps : Int) : Group :=
  let g := g.rebase
  { g with
    max := g.highest 1000
    min := g.lowest (-1000)
    steps := steps
    rangeExtendable := true
    move := true }

/-- The part of `updateKeyframeGroup` about values. -/
def fit (g : Group) (s : Scale) : Group :=
  match g.type with
  | .motor1 => g.fitMotor s.motionStep1
  | .motor2 => g.fitMotor s.motionStep2
  | .motor3 => g.fitMotor s.motionStep3
  | .focus => { g with
      max := g.highest 100
      min := g.lowest (-100)
      steps := s.focusStep
      rangeExtendable := true
      move := true }
  | .exposure => { g.setValue 0 0 with
      max := s.rampMax
      min := s.rampMin
      steps := 1
      rangeExtendable := false
      move := false }
  | .interval => { g.mapValue fun i v => if i < g.count ∧ v < 2 then 2 else v with
      max := g.highest 45
      min := 2
      steps := 1
      rangeExtendable := true
      move := false }

/-- A group without an end of its own ends on the value before. -/
def level (g : Group) : Group :=
  if g.hasEndKeyframe = false ∧ 2 ≤ g.count then
    g.setValue (g.count - 1) (g.value (g.count - 2))
  else g

end Group

/-- `updateKeyframeGroup`. -/
def updateKeyframeGroup (s : Scale) (p : Program) (g : Group) : Group :=
  let g := ((g.fit s).setMs 0 0).level
  let length := if p.ramp then u32 (p.duration * 60 * 1000) else u32 (u32 (p.photos * p.gap) * 100)
  let g := g.setMs (g.count - 1) length
  if g.ms (g.count - 1) < 84 then g.setMs (g.count - 1) 84 else g

/-- `shutter::resetKeyframes`, for one of its groups. The times are left. -/
def resetKeyframes (g : Group) : Group :=
  let g := { g with count := 2, selected := 0, hasEndKeyframe := false }
  match g.type with
  | .interval => { (g.setValue 0 80).setValue 1 80 with max := 450, min := 20 }
  | _ => { (g.setValue 0 0).setValue 1 0 with max := 0, min := 0 }

/-- What is kept of a group: it is one the editor keeps, and ends with the program. -/
structure Group.Kept (p : Program) (g : Group) : Prop where
  edited : g.Edited
  last : g.last.ms = p.endMs

/-- What has to be kept of it: none but the last keyframe is before the one in
    front of it, and none is after the end. -/
structure Group.Ordered (bound : Nat) (g : Group) : Prop where
  two : 2 ≤ g.count
  nine : g.count ≤ 9
  sorted : ∀ i, i + 2 < g.count → g.ms i ≤ g.ms (i + 1)
  below : ∀ i, i < g.count → g.ms i ≤ bound

/-- A time is between those of the neighbours of a keyframe, counted from one, that
    is not the last. -/
def Group.Between (g : Group) (selected t : Nat) : Prop :=
  selected < g.count → (1 < selected → g.ms (selected - 2) ≤ t) ∧ t ≤ g.ms selected

namespace Group

variable (g : Group)

theorem setMs_ms (i t j : Nat) : (g.setMs i t).ms j = if j = i then u32 t else g.ms j := by
  by_cases hj : j = i
  · rw [if_pos hj, hj]
    exact congrArg Keyframe.ms (Function.update_self i _ g.keyframes)
  · rw [if_neg hj]
    exact congrArg Keyframe.ms (Function.update_of_ne hj _ g.keyframes)

@[simp] theorem setMs_count (i t : Nat) : (g.setMs i t).count = g.count := rfl

@[simp] theorem mapValue_ms (f : Nat → Int → Int) (j : Nat) : (g.mapValue f).ms j = g.ms j := rfl

@[simp] theorem setValue_ms (i : Nat) (v : Int) (j : Nat) : (g.setValue i v).ms j = g.ms j := rfl

@[simp] theorem setValue_count (i : Nat) (v : Int) : (g.setValue i v).count = g.count := rfl

/-- The values are no matter of the times. -/
theorem fit_times (s : Scale) : (g.fit s).count = g.count ∧ ∀ j, (g.fit s).ms j = g.ms j := by
  have hmotor : ∀ steps, (g.fitMotor steps).count = g.count ∧
      ∀ j, (g.fitMotor steps).ms j = g.ms j := by
    intro steps
    simp only [fitMotor, rebase]
    split
    · exact ⟨rfl, fun _ => rfl⟩
    · exact ⟨rfl, fun _ => rfl⟩
  unfold fit
  cases g.type with
  | motor1 => exact hmotor _
  | motor2 => exact hmotor _
  | motor3 => exact hmotor _
  | focus => exact ⟨rfl, fun _ => rfl⟩
  | exposure => exact ⟨rfl, fun _ => rfl⟩
  | interval => exact ⟨rfl, fun _ => rfl⟩

theorem level_times : g.level.count = g.count ∧ ∀ j, g.level.ms j = g.ms j := by
  unfold level
  split
  · exact ⟨rfl, fun _ => rfl⟩
  · exact ⟨rfl, fun _ => rfl⟩

end Group

/-- In a program that is not too long the end is the one that is calculated. -/
theorem Program.storedMs_eq (p : Program) (hshort : p.lengthMs < 4294967296) :
    p.storedMs = p.endMs := by
  unfold storedMs endMs
  unfold lengthMs at hshort ⊢
  split
  case isTrue hramp =>
    rw [if_pos hramp] at hshort
    rw [u32_of_lt hshort]
  case isFalse hramp =>
    rw [if_neg hramp] at hshort
    rw [u32_of_lt (by omega : p.photos * p.gap < 4294967296), u32_of_lt hshort]

/-- An update puts the first and the last keyframe in their places. -/
theorem update_stored (s : Scale) (p : Program) (g : Group) :
    (updateKeyframeGroup s p g).count = g.count ∧ ∀ j, (updateKeyframeGroup s p g).ms j =
      if j = g.count - 1 then p.storedMs else if j = 0 then 0 else g.ms j := by
  have hfit := g.fit_times s
  have hlevel := ((g.fit s).setMs 0 0).level_times
  -- The group before its last keyframe is put in its place.
  have hcount : ((g.fit s).setMs 0 0).level.count = g.count := hlevel.1.trans hfit.1
  have hms : ∀ j, ((g.fit s).setMs 0 0).level.ms j = if j = 0 then 0 else g.ms j := by
    intro j
    rw [hlevel.2, Group.setMs_ms, hfit.2]
    rfl
  have hstored : u32 (if p.ramp then u32 (p.duration * 60 * 1000)
      else u32 (u32 (p.photos * p.gap) * 100)) = if p.ramp then u32 (p.duration * 60 * 1000)
      else u32 (u32 (p.photos * p.gap) * 100) := by
    split
    · exact u32_of_lt (u32_lt _)
    · exact u32_of_lt (u32_lt _)
  unfold updateKeyframeGroup Program.storedMs
  generalize (if p.ramp then u32 (p.duration * 60 * 1000)
    else u32 (u32 (p.photos * p.gap) * 100)) = length at hstored ⊢
  simp only [Group.setMs_count, hcount, Group.setMs_ms, if_true, hstored]
  split
  case isTrue hless =>
    refine ⟨hcount, fun j => ?_⟩
    rw [Group.setMs_ms, Group.setMs_ms, hms]
    by_cases hj : j = g.count - 1
    · rw [if_pos hj, if_pos hj, u32_of_lt (by decide)]
      omega
    · rw [if_neg hj, if_neg hj, if_neg hj]
  case isFalse hmore =>
    refine ⟨hcount, fun j => ?_⟩
    rw [Group.setMs_ms, hms]
    by_cases hj : j = g.count - 1
    · rw [if_pos hj, if_pos hj, hstored]
      omega
    · rw [if_neg hj, if_neg hj]

@[inherit_doc update_stored]
theorem update_ms (s : Scale) (p : Program) (g : Group)
    (hshort : p.lengthMs < 4294967296) :
    (updateKeyframeGroup s p g).count = g.count ∧ ∀ j, (updateKeyframeGroup s p g).ms j =
      if j = g.count - 1 then p.endMs else if j = 0 then 0 else g.ms j := by
  rw [← p.storedMs_eq hshort]
  exact update_stored s p g

/-- An update of an ordered group keeps it. The last keyframe can be anywhere, also when
    it is the end of another program. -/
theorem update_kept (s : Scale) (p : Program) (g : Group) {bound : Nat} (h : g.Ordered bound)
    (hbelow : ∀ i, 0 < i → i + 1 < g.count → g.ms i ≤ p.endMs)
    (hshort : p.lengthMs < 4294967296) : (updateKeyframeGroup s p g).Kept p := by
  rcases update_ms s p g hshort with ⟨hcount, hms⟩
  have htwo := h.two
  refine ⟨⟨by rw [hcount]; exact h.two, by rw [hcount]; exact h.nine, ?_, fun i hi => ?_⟩, ?_⟩
  · refine (hms 0).trans ?_
    rw [if_neg (by omega), if_pos rfl]
  · rw [hcount] at hi
    refine (hms i).trans_le (le_of_le_of_eq ?_ (hms (i + 1)).symm)
    rw [if_neg (by omega : i ≠ g.count - 1), if_neg (Nat.succ_ne_zero i)]
    by_cases hlast : i + 1 = g.count - 1
    · rw [if_pos hlast]
      split
      · exact Nat.zero_le _
      · exact hbelow i (by omega) (by omega)
    · rw [if_neg hlast]
      split
      · exact Nat.zero_le _
      · exact h.sorted i (by omega)
  · refine (hms _).trans ?_
    rw [hcount, if_pos rfl]

namespace Group

variable {g : Group} {bound : Nat}

/-- What is kept is ordered. -/
theorem Kept.ordered {p : Program} (h : g.Kept p) : g.Ordered p.endMs where
  two := h.edited.two
  nine := h.edited.nine
  sorted i hi := h.edited.sorted i (by omega)
  below i hi := h.last ▸ h.edited.mono (by omega) (by have := h.edited.two; omega)

/-- A program that a group is kept for is not too long. -/
theorem Kept.short {p : Program} (h : g.Kept p) : p.lengthMs < 4294967296 := by
  have hlast := h.last
  have hlt := g.last.ms_lt
  unfold Program.endMs at hlast
  omega

/-- Only the times and their number matter. -/
theorem Ordered.of_times {n : Nat} {f : Nat → Nat} (hcount : g.count = n)
    (hms : ∀ k, k < n → g.ms k = f k) (htwo : 2 ≤ n) (hnine : n ≤ 9)
    (hsorted : ∀ i, i + 2 < n → f i ≤ f (i + 1)) (hbelow : ∀ i, i < n → f i ≤ bound) :
    g.Ordered bound where
  two := by rw [hcount]; exact htwo
  nine := by rw [hcount]; exact hnine
  sorted i hi := by
    rw [hcount] at hi
    rw [hms i (by omega), hms (i + 1) (by omega)]
    exact hsorted i hi
  below i hi := by
    rw [hcount] at hi
    rw [hms i hi]
    exact hbelow i hi

theorem Ordered.congr {g' : Group} (h : g.Ordered bound) (hcount : g'.count = g.count)
    (hms : ∀ j, g'.ms j = g.ms j) : g'.Ordered bound :=
  .of_times hcount (fun j _ => hms j) h.two h.nine h.sorted h.below

/-- A keyframe is moved to a time between those of its neighbours. -/
theorem Ordered.setMs (h : g.Ordered bound) {selected t : Nat} (hpos : 0 < selected)
    (hbetween : g.Between selected (u32 t)) (ht : u32 t ≤ bound) :
    (g.setMs (selected - 1) t).Ordered bound where
  two := h.two
  nine := h.nine
  sorted i hi := by
    rw [setMs_count] at hi
    rw [setMs_ms, setMs_ms]
    by_cases hi0 : i = selected - 1
    · -- It is the earlier of the two.
      rw [if_pos hi0, if_neg (by omega)]
      have hle := (hbetween (by omega)).2
      rwa [show i + 1 = selected by omega]
    · rw [if_neg hi0]
      by_cases hi1 : i + 1 = selected - 1
      · rw [if_pos hi1]
        have hle := (hbetween (by omega)).1 (by omega)
        rwa [show i = selected - 2 by omega]
      · rw [if_neg hi1]
        exact h.sorted i hi
  below i hi := by
    rw [setMs_ms]
    split
    · exact ht
    · exact h.below i hi

end Group

end Shutter

end TimelapsePlus
