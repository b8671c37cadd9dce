import TimelapsePlus.Lib.Gap
import TimelapsePlus.Menu.Alerts
import TimelapsePlus.Menu.Plot
import TimelapsePlus.Shutter.KeyframeUpdate

/-!
# The Keyframe Editor

`editKeyframe` shows a group as a curve with a cursor on it. A keyframe under the
cursor is selected, and one that is being edited follows it; or, by a setting,
moves by the minute and takes the cursor along. Left and right are meant to keep
it between its neighbours.

Whether they do is asked of the columns of the display. A column is more than a
minute wide when the program is long enough, and less when it is short, and a
keyframe is shown in the column nearest to it but put at the start of one. So a
keyframe may pass the one next to it. And a program that is made shorter may end
before a keyframe that is not the last.

A call of the editor draws first, if there is something new to be drawn, which
brings the group up to date, and then looks at the key. It is three steps here,
and what else can change the group happens between two calls.

Positions are computed in exact arithmetic where the code has `float`.

## Main definitions

* `addKeyframe`, `removeKeyframe`: The functions.
* `column`: The column a keyframe is drawn in.
* `KeyframeEditor`: The group, the program, and the editor's variables.
* `KeyframeEditor.call`, `KeyframeEditor.plot`, `KeyframeEditor.press`:
  `MENU::editKeyframe`.
* `KeyframeEditor.next`: All that happens.
* `KeyframeEditor.Met`: Keyframes stay between their neighbours.

## Theorems

* `addKeyframe_ordered`, `removeKeyframe_ordered`: A group stays ordered.
* `plot_group`, `press_sound`: What the steps of a call do.
* `run_kept`: Every update keeps the group.
* `keyframe_passed`: It does not if the program is made shorter, or a keyframe is
  moved past another.
-/

namespace TimelapsePlus

namespace Menu

open Word Shutter

/-- `MAX_KEYFRAMES`. -/
def maxKeyframes : Nat := 10

/-- `MENU::addKeyframe`: the group, and the number of the new keyframe in it, from one,
    or zero. -/
def addKeyframe (g : Group) (value : Int) (ms : Nat) : Group × Nat :=
  if maxKeyframes - 1 ≤ g.count then (g, 0)
  else match (List.range g.count).find? fun i => ms ≤ g.ms i with
    | some i =>
        ({ g with
          keyframes := fun k =>
            if k < i then g.keyframes k
            else if k = i then ⟨value, u32 ms, u32_lt ms⟩
            else if k ≤ g.count + 1 then g.keyframes (k - 1)
            else g.keyframes k
          count := g.count + 1 }, i + 1)
    | none => (g, 0)

/-- `MENU::removeKeyframe`. The first and the last stay. -/
def removeKeyframe (g : Group) (index : Nat) : Group :=
  if g.count ≤ index ∨ g.count ≤ 2 ∨ index = 0 ∨ index = g.count - 1 then g
  else { g with
    keyframes := fun k =>
      if index ≤ k ∧ k < g.count - 1 then g.keyframes (k + 1) else g.keyframes k
    count := g.count - 1 }

/-- The column a keyframe is drawn in, from one. -/
def column (g : Group) (i : Nat) : Nat :=
  u8 (1 + u8 ((2 * chartboxWidth * g.ms i + g.last.ms) / (2 * g.last.ms)))

/-- The value of the curve at a time, cut to an integer. Where the curve has none,
    zero stands for what is left of a division by zero. -/
def curveValue (linearInterpolation : Bool) (g : Group) (ms : Nat) : Int :=
  match plotted linearInterpolation g.toKeyframeGroup ms with
  | some v => Int.tdiv v.num v.den
  | none => 0

/-- A keyframe's time, a minute mark earlier. -/
def minuteBefore (ms : Nat) : Nat :=
  if 60000 < ms then if 0 < ms % 60000 then ms - ms % 60000 else ms - 60000 else 0

/-- And one later, but not after the end. -/
def minuteAfter (ms last : Nat) : Nat :=
  if u32 (ms + 60000) < last then u32 (ms + (60000 - ms % 60000)) else last

/-- Where a call of the editor stands: the curve is to be drawn, or the key looked
    at. -/
inductive EditorPhase
  | away
  | plotting
  | pressing
deriving Repr, DecidableEq

/-- The group, the program, the settings, and the editor's variables, most of which are
    static. -/
structure KeyframeEditor where
  kf : Group
  program : Program
  scale : Scale
  keyframeTimeByMinute : Bool
  linearInterpolation : Bool
  phase : EditorPhase
  cursor : Nat
  edit : Bool
  draw : Bool
  cMs : Nat
  cValue : Int
  lastKf : Nat
  nextKf : Nat
  needMove : Bool

/-- What happens next: the group is brought up to date, or reset; the axes go to their
    start; the program or the settings are changed; or the editor is called, and
    goes on. -/
inductive EditorMove
  | update
  | reset
  | moveToStart
  | program (p : Program)
  | settings (s : Scale) (keyframeTimeByMinute linearInterpolation : Bool)
  | call (first : Bool)
  | plot
  | press (key : Key)

namespace KeyframeEditor

/-- The group is brought up to date. -/
def update (c : KeyframeEditor) : KeyframeEditor :=
  { c with kf := updateKeyframeGroup c.scale c.program c.kf }

/-- A call begins. If there is something to draw the group is brought up to date. -/
def call (c : KeyframeEditor) (first : Bool) : KeyframeEditor :=
  let c := if first then { c with edit := false, draw := true } else c
  if c.draw then { c.update with draw := false, phase := .plotting }
  else { c with phase := .pressing }

/-- The curve is drawn: the time and the value under the cursor. A keyframe that is
    being edited is put there. -/
def plotCurve (c : KeyframeEditor) : KeyframeEditor :=
  if c.cursor ≤ chartboxWidth then
    let ms := chartMs c.kf.toKeyframeGroup c.cursor
    { c with
      cMs := ms
      cValue := curveValue c.linearInterpolation c.kf ms
      kf :=
        if c.edit ∧ 0 < c.kf.selected ∧ c.keyframeTimeByMinute = false then
          c.kf.setMs (c.kf.selected - 1) ms
        else c.kf }
  else { c with cMs := 0, cValue := 0 }

/-- A keyframe is drawn. -/
def plotKeyframe (c : KeyframeEditor) (i : Nat) : KeyframeEditor :=
  let x := column c.kf i
  let c :=
    if c.edit ∧ i + 1 = c.kf.selected ∧ c.keyframeTimeByMinute then
      { c with cursor := u8 (x + 255) }
    else c
  let c :=
    if 1 + c.cursor = x then
      { c with kf.selected := i + 1, cMs := c.kf.ms i, cValue := c.kf.value i }
    else c
  let c := if 1 + c.cursor ≤ x ∧ c.lastKf = 0 then { c with lastKf := i } else c
  if 1 + c.cursor < x ∧ c.nextKf = 0 then { c with nextKf := i + 1 } else c

/-- The keyframes are drawn. -/
def plotKeyframes (c : KeyframeEditor) : KeyframeEditor :=
  (List.range c.kf.count).foldl plotKeyframe { c with
    kf.selected := if c.edit then c.kf.selected else 0
    lastKf := 0
    nextKf := 0 }

/-- The drawing. What is to be moved is moved, and then there is something new to
    draw. -/
def plot (c : KeyframeEditor) : KeyframeEditor :=
  let c := c.plotCurve.plotKeyframes
  let c := if c.kf.move ∧ c.needMove then { c with draw := true, needMove := false } else c
  { c with phase := .pressing }

/-- The columns of the keyframes on either side of the cursor, or zero. -/
def lx (c : KeyframeEditor) : Nat := if c.lastKf ≠ 0 then column c.kf (c.lastKf - 1) else 0

@[inherit_doc lx]
def nx (c : KeyframeEditor) : Nat := if c.nextKf ≠ 0 then column c.kf (c.nextKf - 1) else 0

/-- The keyframe being edited is neither the first nor the last. -/
def Inner (c : KeyframeEditor) : Prop := 1 < c.kf.selected ∧ c.kf.selected < c.kf.count

instance (c : KeyframeEditor) : Decidable c.Inner := inferInstanceAs (Decidable (_ ∧ _))

/-- The keyframe being edited may go to the left, as far as the columns tell. -/
def MayLeft (c : KeyframeEditor) : Prop := c.Inner ∧ (c.lx : Int) - 1 < c.cursor

/-- And to the right. -/
def MayRight (c : KeyframeEditor) : Prop := c.Inner ∧ (c.cursor : Int) < c.nx - 1

instance (c : KeyframeEditor) : Decidable c.MayLeft := inferInstanceAs (Decidable (_ ∧ _))
instance (c : KeyframeEditor) : Decidable c.MayRight := inferInstanceAs (Decidable (_ ∧ _))

/-- How far the cursor jumps to a keyframe, and half of that if it stands on one. -/
def jump (c : KeyframeEditor) (distance : Int) (found : Bool) : Nat :=
  let move := if found then (distance % 256).toNat else 0
  if 0 < c.kf.selected then move / 2 else move

def pressLeft (c : KeyframeEditor) : KeyframeEditor :=
  let i := c.kf.selected - 1
  let move :=
    if c.edit then if c.MayLeft ∧ c.keyframeTimeByMinute = false then 1 else 0
    else c.jump (c.cursor - (c.lx - 1)) (c.lx ≠ 0)
  let c :=
    if c.edit ∧ c.MayLeft ∧ c.keyframeTimeByMinute then
      { c with kf := c.kf.setMs i (minuteBefore (c.kf.ms i)) }
    else c
  if move < c.cursor then { c with cursor := c.cursor - move, needMove := true }
  else if c.cursor ≠ 0 then { c with cursor := 0, needMove := true }
  else c

def pressRight (c : KeyframeEditor) : KeyframeEditor :=
  let i := c.kf.selected - 1
  let move :=
    if c.edit then if c.MayRight ∧ c.keyframeTimeByMinute = false then 1 else 0
    else c.jump (c.nx - 1 - c.cursor) (c.nx ≠ 0)
  let c :=
    if c.edit ∧ c.MayRight ∧ c.keyframeTimeByMinute then
      { c with kf := c.kf.setMs i (minuteAfter (c.kf.ms i) c.kf.last.ms) }
    else c
  if c.cursor < chartboxWidth + move then
    { c with cursor := u8 (c.cursor + move), needMove := true }
  else if c.cursor ≠ chartboxWidth then { c with cursor := chartboxWidth, needMove := true }
  else c

/-- Up and down begin to edit the keyframe under the cursor, which is a new one if
    there is none. -/
def beginEdit (c : KeyframeEditor) : KeyframeEditor :=
  let v := c.cValue - Int.tmod c.cValue c.kf.steps
  let c :=
    if c.kf.selected = 0 then
      let r := addKeyframe c.kf v c.cMs
      { c with kf := { r.1 with selected := r.2 } }
    else c
  let c := if c.cValue ≠ v then { c with needMove := true } else c
  let c := if c.kf.selected ≠ 0 then { c with edit := true } else c
  if c.kf.selected = c.kf.count then { c with kf.hasEndKeyframe := true } else c

/-- A value is set, if it is another. -/
def setValue (c : KeyframeEditor) (i : Nat) (v : Int) : KeyframeEditor :=
  { c with kf := c.kf.setValue i v, needMove := true }

def pressUp (c : KeyframeEditor) : KeyframeEditor :=
  if c.edit = false then c.beginEdit
  else if 0 < c.kf.selected then
    let i := c.kf.selected - 1
    let v := c.kf.value i
    let steps := c.kf.steps - Int.tmod v c.kf.steps
    if v + steps < c.kf.max ∨ c.kf.rangeExtendable then c.setValue i (v + steps)
    else if v ≠ c.kf.max then c.setValue i c.kf.max
    else c
  else c

def pressDown (c : KeyframeEditor) : KeyframeEditor :=
  if c.edit = false then c.beginEdit
  else if 0 < c.kf.selected then
    let i := c.kf.selected - 1
    let v := c.kf.value i
    let steps := if Int.tmod v c.kf.steps = 0 then c.kf.steps else Int.tmod v c.kf.steps
    if c.kf.min < v - steps ∨ c.kf.rangeExtendable then c.setValue i (v - steps)
    else if v ≠ c.kf.min then c.setValue i c.kf.min
    else c
  else c

/-- The left function key removes a keyframe, takes the last one its own value, or
    resets the group from its first. -/
def pressFl (c : KeyframeEditor) : KeyframeEditor :=
  if c.edit = false ∧ c.Inner then
    { c with
      kf := { removeKeyframe c.kf (c.kf.selected - 1) with selected := 0 }
      needMove := true }
  else if c.edit = false ∧ c.kf.selected = c.kf.count then
    { c with kf.hasEndKeyframe := false, needMove := true }
  else if c.edit = false ∧ c.kf.selected = 1 then
    { c with
      kf := ({ c.kf with count := 2, selected := 0, hasEndKeyframe := false }.setValue 0 0).setValue
        1 0
      needMove := true }
  else c

/-- The key is looked at, and the call returns. -/
def press (c : KeyframeEditor) (key : Key) : KeyframeEditor :=
  let c := if key = .none then c else { c with draw := true }
  let c :=
    match key with
    | .none => c
    | .left => c.pressLeft
    | .right => c.pressRight
    | .up => c.pressUp
    | .down => c.pressDown
    | .fl => c.pressFl
    | .fr => { c with edit := false }
  { c with phase := .away }

/-- One step, if it can be taken. -/
def next (c : KeyframeEditor) (m : EditorMove) : Option KeyframeEditor :=
  match c.phase, m with
  | .away, .update => some c.update
  | .away, .reset => some { c with kf := resetKeyframes c.kf }
  | .away, .moveToStart => some { c with cursor := 0 }
  | .away, .program p => some { c with program := p }.update
  | .away, .settings s m l => some { c with
      scale := s
      keyframeTimeByMinute := m
      linearInterpolation := l }
  | .away, .call first => some (c.call first)
  | .plotting, .plot => some c.plot
  | .pressing, .press key => some (c.press key)
  | _, _ => none

/-- Whether a step calls `updateKeyframeGroup`. -/
def updates (c : KeyframeEditor) : EditorMove → Bool
  | .update => true
  | .program _ => true
  | .call first => first || c.draw
  | _ => false

/-- Keyframes stay between their neighbours: the one that is being edited where the
    cursor or a minute takes it, and all but the last before the end of the
    program; and the program is not too long for its end to be counted. -/
def Met (c : KeyframeEditor) : EditorMove → Prop
  | .program p => p.lengthMs < 4294967296 ∧
      ∀ i, 0 < i → i + 1 < c.kf.count → c.kf.ms i ≤ p.endMs
  | .plot => c.edit ∧ 0 < c.kf.selected ∧ c.keyframeTimeByMinute = false ∧
      c.cursor ≤ chartboxWidth → c.kf.Between c.kf.selected (chartMs c.kf.toKeyframeGroup c.cursor)
  | .press .left => c.edit ∧ c.MayLeft ∧ c.keyframeTimeByMinute →
      c.kf.Between c.kf.selected (minuteBefore (c.kf.ms (c.kf.selected - 1)))
  | .press .right => c.edit ∧ c.MayRight ∧ c.keyframeTimeByMinute →
      c.kf.Between c.kf.selected (minuteAfter (c.kf.ms (c.kf.selected - 1)) c.kf.last.ms)
  | _ => True

end KeyframeEditor

section Lists

variable {g : Group} {bound : Nat}

/-- A new keyframe has its place in front of the first that is not earlier. -/
theorem addKeyframe_ordered (h : g.Ordered bound) (value : Int) (ms : Nat) :
    (addKeyframe g value ms).1.Ordered bound := by
  unfold addKeyframe
  split
  case isTrue => exact h
  case isFalse hspace =>
    split
    case h_1 i hfind =>
      rw [List.find?_range_eq_some] at hfind
      simp only [decide_eq_true_eq, List.mem_range, Bool.not_eq_true',
        decide_eq_false_iff_not, not_le] at hfind
      rcases hfind with ⟨hle, hlt, hbefore⟩
      have hword : u32 ms = ms := u32_of_lt (hle.trans_lt (g.keyframes i).ms_lt)
      unfold maxKeyframes at hspace
      -- The times before the new one, the new one, and those moved up.
      refine Group.Ordered.of_times (n := g.count + 1)
        (f := fun k => if k < i then g.ms k else if k = i then ms else g.ms (k - 1))
        rfl (fun k hk => ?_) (Nat.le_succ_of_le h.two) (by omega) (fun k hk => ?_) (fun k hk => ?_)
      · unfold Group.ms
        simp only
        split
        · rfl
        · split
          · exact hword
          · rw [if_pos (by omega)]
      · exact Gap.sorted_opened (n := g.count - 1) (fun j hj => h.sorted j (by omega)) (by omega)
          hle (fun j hj => (hbefore j hj).le) k (by omega)
      · split
        · exact h.below k (by omega)
        · split
          · exact hle.trans (h.below i hlt)
          · exact h.below (k - 1) (by omega)
    case h_2 => exact h

/-- A keyframe is removed. -/
theorem removeKeyframe_ordered (h : g.Ordered bound) (index : Nat) :
    (removeKeyframe g index).Ordered bound := by
  unfold removeKeyframe
  split
  case isTrue => exact h
  case isFalse hinner =>
    have htwo := h.two
    have hnine := h.nine
    refine Group.Ordered.of_times (n := g.count - 1)
      (f := fun k => if index ≤ k ∧ k < g.count - 1 then g.ms (k + 1) else g.ms k)
      rfl (fun k _ => ?_) (by omega) (by omega) (fun k hk => ?_) (fun k hk => ?_)
    · unfold Group.ms
      simp only
      split <;> rfl
    · have hone := h.sorted k (by omega)
      have hother := h.sorted (k + 1) (by omega)
      by_cases hk' : index ≤ k
      · rw [if_pos ⟨hk', by omega⟩, if_pos ⟨by omega, by omega⟩]
        exact hother
      · rw [if_neg (fun hand => hk' hand.1)]
        split
        · exact hone.trans hother
        · exact hone
    · split
      · exact h.below (k + 1) (by omega)
      · exact h.below k (by omega)

end Lists

namespace KeyframeEditor

/-- The times, their number and the program are left as they are. -/
structure Same (c c' : KeyframeEditor) : Prop where
  program : c'.program = c.program
  phase : c'.phase = c.phase
  count : c'.kf.count = c.kf.count
  ms : ∀ j, c'.kf.ms j = c.kf.ms j

theorem Same.refl (c : KeyframeEditor) : Same c c := ⟨rfl, rfl, rfl, fun _ => rfl⟩

theorem Same.trans {c c' c'' : KeyframeEditor} (h : Same c c') (h' : Same c' c'') : Same c c'' :=
  ⟨h'.program.trans h.program, h'.phase.trans h.phase, h'.count.trans h.count,
    fun j => (h'.ms j).trans (h.ms j)⟩

/-- Drawing a keyframe may select it, and no more. -/
theorem plotKeyframe_same (c : KeyframeEditor) (i : Nat) : Same c (c.plotKeyframe i) := by
  simp only [plotKeyframe]
  repeat' split
  all_goals exact ⟨rfl, rfl, rfl, fun _ => rfl⟩

theorem foldl_plotKeyframe_same (l : List Nat) (c : KeyframeEditor) :
    Same c (l.foldl plotKeyframe c) := by
  induction l generalizing c with
  | nil => exact .refl c
  | cons i l ih => exact (plotKeyframe_same c i).trans (ih _)

theorem plotKeyframes_same (c : KeyframeEditor) : Same c c.plotKeyframes := by
  have hdrawn := foldl_plotKeyframe_same (List.range c.kf.count) { c with
    kf.selected := if c.edit then c.kf.selected else 0
    lastKf := 0
    nextKf := 0 }
  exact ⟨hdrawn.program, hdrawn.phase, hdrawn.count, hdrawn.ms⟩

/-- After the curve nothing that is drawn matters to the times. -/
theorem plot_same (c : KeyframeEditor) :
    c.plot.program = c.program ∧ c.plot.phase = .pressing ∧
      c.plot.kf.count = c.plotCurve.kf.count ∧ ∀ j, c.plot.kf.ms j = c.plotCurve.kf.ms j := by
  have hprogram : c.plotCurve.program = c.program := by
    simp only [plotCurve]
    split <;> rfl
  have hdrawn := plotKeyframes_same c.plotCurve
  unfold plot
  generalize c.plotCurve.plotKeyframes = d at hdrawn
  simp only
  split
  · exact ⟨hdrawn.program.trans hprogram, trivial, hdrawn.count, hdrawn.ms⟩
  · exact ⟨hdrawn.program.trans hprogram, trivial, hdrawn.count, hdrawn.ms⟩

/-- The keyframe that is being edited is put between its neighbours. -/
theorem plotCurve_ordered {c : KeyframeEditor} (h : c.kf.Kept c.program) (hmet : c.Met .plot) :
    c.plotCurve.kf.Ordered c.program.endMs := by
  simp only [plotCurve]
  split
  case isTrue hcursor =>
    simp only
    split
    case isTrue hwrite =>
      have hword : u32 (chartMs c.kf.toKeyframeGroup c.cursor) =
          chartMs c.kf.toKeyframeGroup c.cursor := u32_of_lt (u32_lt _)
      refine h.ordered.setMs hwrite.2.1 ?_ ?_
      · rw [hword]
        exact hmet ⟨hwrite.1, hwrite.2.1, hwrite.2.2, hcursor⟩
      · rw [hword, ← h.last]
        exact chartMs_le h.edited hcursor
    case isFalse => exact h.ordered
  case isFalse => exact h.ordered

section Press

variable {c : KeyframeEditor} {bound : Nat}

theorem pressLeft_kf (c : KeyframeEditor) : c.pressLeft.kf =
    if c.edit ∧ c.MayLeft ∧ c.keyframeTimeByMinute then
      c.kf.setMs (c.kf.selected - 1) (minuteBefore (c.kf.ms (c.kf.selected - 1)))
    else c.kf := by
  by_cases hmove : c.edit ∧ c.MayLeft ∧ c.keyframeTimeByMinute
  · simp only [pressLeft, if_pos hmove]
    repeat' split
    all_goals rfl
  · simp only [pressLeft, if_neg hmove]
    repeat' split
    all_goals rfl

theorem pressRight_kf (c : KeyframeEditor) : c.pressRight.kf =
    if c.edit ∧ c.MayRight ∧ c.keyframeTimeByMinute then
      c.kf.setMs (c.kf.selected - 1)
        (minuteAfter (c.kf.ms (c.kf.selected - 1)) c.kf.last.ms)
    else c.kf := by
  by_cases hmove : c.edit ∧ c.MayRight ∧ c.keyframeTimeByMinute
  · simp only [pressRight, if_pos hmove]
    repeat' split
    all_goals rfl
  · simp only [pressRight, if_neg hmove]
    repeat' split
    all_goals rfl

/-- A keyframe between the first and the last is moved to a time between its
    neighbours. -/
theorem moved_ordered (h : c.kf.Ordered bound) (hinner : c.Inner) {t : Nat}
    (hbetween : c.kf.Between c.kf.selected t) :
    (c.kf.setMs (c.kf.selected - 1) t).Ordered bound := by
  have hle := (hbetween hinner.2).2
  have hword : u32 t = t := u32_of_lt (hle.trans_lt (c.kf.keyframes c.kf.selected).ms_lt)
  refine h.setMs (by have := hinner.1; omega) ?_ ?_
  · rw [hword]
    exact hbetween
  · rw [hword]
    exact hle.trans (h.below _ hinner.2)

theorem pressLeft_ordered (h : c.kf.Ordered bound) (hmet : c.Met (.press .left)) :
    c.pressLeft.kf.Ordered bound := by
  rw [pressLeft_kf]
  split
  case isTrue hmove => exact moved_ordered h hmove.2.1.1 (hmet hmove)
  case isFalse => exact h

theorem pressRight_ordered (h : c.kf.Ordered bound) (hmet : c.Met (.press .right)) :
    c.pressRight.kf.Ordered bound := by
  rw [pressRight_kf]
  split
  case isTrue hmove => exact moved_ordered h hmove.2.1.1 (hmet hmove)
  case isFalse => exact h

theorem beginEdit_ordered (h : c.kf.Ordered bound) : c.beginEdit.kf.Ordered bound := by
  have hadd := addKeyframe_ordered h (c.cValue - Int.tmod c.cValue c.kf.steps) c.cMs
  simp only [beginEdit]
  repeat' split
  all_goals first
    | exact hadd.congr rfl fun _ => rfl
    | exact h.congr rfl fun _ => rfl

theorem pressUp_ordered (h : c.kf.Ordered bound) : c.pressUp.kf.Ordered bound := by
  unfold pressUp
  split
  · exact beginEdit_ordered h
  · simp only
    repeat' split
    all_goals exact h.congr rfl fun _ => rfl

theorem pressDown_ordered (h : c.kf.Ordered bound) : c.pressDown.kf.Ordered bound := by
  unfold pressDown
  split
  · exact beginEdit_ordered h
  · simp only
    repeat' split
    all_goals exact h.congr rfl fun _ => rfl

/-- Two keyframes are always ordered. -/
theorem two_ordered {g : Group} (h : c.kf.Ordered bound) (hcount : g.count = 2)
    (hms : ∀ j, g.ms j = c.kf.ms j) : g.Ordered bound :=
  .of_times hcount (fun j _ => hms j) (le_refl 2) (by decide) (fun i hi => by omega)
    (fun i hi => h.below i (hi.trans_le h.two))

theorem pressFl_ordered (h : c.kf.Ordered bound) : c.pressFl.kf.Ordered bound := by
  unfold pressFl
  split
  · exact (removeKeyframe_ordered h _).congr rfl fun _ => rfl
  · split
    · exact h.congr rfl fun _ => rfl
    · split
      · exact two_ordered h rfl fun _ => rfl
      · exact h

/-- The key leaves the program alone. -/
theorem press_program (c : KeyframeEditor) (key : Key) : (c.press key).program = c.program := by
  have hbegin : ∀ d : KeyframeEditor, d.beginEdit.program = d.program := fun d => by
    simp only [beginEdit, apply_ite KeyframeEditor.program, ite_self]
  cases key with
  | none => rfl
  | fr => rfl
  | left => simp only [press, pressLeft, apply_ite KeyframeEditor.program, ite_self]
  | right => simp only [press, pressRight, apply_ite KeyframeEditor.program, ite_self]
  | up => simp only [press, pressUp, setValue, apply_ite KeyframeEditor.program, hbegin, ite_self]
  | down =>
      simp only [press, pressDown, setValue, apply_ite KeyframeEditor.program, hbegin, ite_self]
  | fl => simp only [press, pressFl, apply_ite KeyframeEditor.program, ite_self]

theorem press_ordered (h : c.kf.Ordered bound) (key : Key) (hmet : c.Met (.press key)) :
    (c.press key).kf.Ordered bound := by
  have hdraw : ({ c with draw := true } : KeyframeEditor).kf.Ordered bound := h
  cases key with
  | none => exact h
  | left => exact pressLeft_ordered (c := { c with draw := true }) hdraw hmet
  | right => exact pressRight_ordered (c := { c with draw := true }) hdraw hmet
  | up => exact pressUp_ordered hdraw
  | down => exact pressDown_ordered hdraw
  | fl => exact pressFl_ordered hdraw
  | fr => exact h

end Press

/-- What holds along a run. While the curve is to be drawn the group is up to date. -/
structure Sound (c : KeyframeEditor) : Prop where
  ordered : c.kf.Ordered c.program.endMs
  short : c.program.lengthMs < 4294967296
  kept : c.phase = .plotting → c.kf.Kept c.program

/-- A group that is up to date. -/
theorem Sound.of_kept {c : KeyframeEditor} (h : c.kf.Kept c.program) : Sound c :=
  ⟨h.ordered, h.short, fun _ => h⟩

theorem Sound.update {c : KeyframeEditor} (h : Sound c) : c.update.kf.Kept c.update.program :=
  update_kept c.scale c.program c.kf h.ordered (fun i _ hi => h.ordered.below i (by omega)) h.short

/-- A call brings the group up to date if there is something to draw. -/
theorem call_sound {c : KeyframeEditor} (h : Sound c) (first : Bool) :
    Sound (c.call first) ∧
      ((first || c.draw) = true → (c.call first).kf.Kept (c.call first).program) := by
  have hkept := h.update
  cases first with
  | true => exact ⟨.of_kept hkept, fun _ => hkept⟩
  | false =>
      unfold call
      simp only [Bool.false_eq_true, if_false, Bool.false_or]
      by_cases hdraw : c.draw = true
      · rw [if_pos hdraw]
        exact ⟨.of_kept hkept, fun _ => hkept⟩
      · rw [if_neg hdraw]
        exact ⟨⟨h.ordered, h.short, EditorPhase.noConfusion⟩, fun hd => absurd hd hdraw⟩

theorem step_sound {c c' : KeyframeEditor} (h : Sound c) (m : EditorMove) (hmet : c.Met m)
    (hstep : c.next m = some c') :
    Sound c' ∧ (c.updates m = true → c'.kf.Kept c'.program) := by
  unfold next at hstep
  split at hstep
  case h_1 =>
    cases hstep
    exact ⟨.of_kept h.update, fun _ => h.update⟩
  case h_2 hphase =>
    cases hstep
    refine ⟨⟨two_ordered h.ordered ?_ ?_, h.short, fun hp => ?_⟩, Bool.noConfusion⟩
    · unfold resetKeyframes
      simp only
      split <;> rfl
    · intro j
      unfold resetKeyframes
      simp only
      split <;> rfl
    · exact absurd (hphase.symm.trans hp) EditorPhase.noConfusion
  case h_3 hphase =>
    cases hstep
    exact ⟨⟨h.ordered, h.short, h.kept⟩, Bool.noConfusion⟩
  case h_4 p hphase =>
    cases hstep
    -- The end moves, and the keyframes in between are not after it.
    have hkept : ({ c with program := p } : KeyframeEditor).update.kf.Kept p :=
      update_kept c.scale p c.kf h.ordered hmet.2 hmet.1
    exact ⟨.of_kept hkept, fun _ => hkept⟩
  case h_5 hphase =>
    cases hstep
    exact ⟨⟨h.ordered, h.short, h.kept⟩, Bool.noConfusion⟩
  case h_6 first hphase =>
    cases hstep
    exact call_sound h first
  case h_7 hphase =>
    cases hstep
    rcases plot_same c with ⟨hprogram, hpressing, hcount, hms⟩
    have hordered := plotCurve_ordered (h.kept hphase) hmet
    refine ⟨⟨?_, ?_, fun hp => ?_⟩, Bool.noConfusion⟩
    · rw [hprogram]
      exact hordered.congr hcount hms
    · rw [hprogram]
      exact h.short
    · exact absurd (hpressing.symm.trans hp) EditorPhase.noConfusion
  case h_8 key hphase =>
    cases hstep
    refine ⟨⟨?_, ?_, EditorPhase.noConfusion⟩, Bool.noConfusion⟩
    · rw [press_program]
      exact press_ordered h.ordered key hmet
    · rw [press_program]
      exact h.short
  case h_9 => cases hstep

/-- An editor of a ramp by minutes, with keyframes at these times and the cursor on
    one of them. -/
def ofTimes (duration cursor : Nat) (times : List Nat) : KeyframeEditor where
  kf :=
    { keyframes := fun i => ⟨0, u32 (times.getD i 0), u32_lt _⟩
      count := times.length
      selected := 0
      hasEndKeyframe := false
      type := .exposure
      max := 30
      min := -30
      steps := 1
      rangeExtendable := false
      move := false }
  program :=
    { timelapse := true
      hdr := false
      ramp := true
      delay := 0
      duration := duration
      photos := 0
      external := false
      gap := 100
      exps := 0
      exp := 0
      brampMethod := .keyframe
      nightMode := .auto
      nightND := 0
      arbitraryBulb := false }
  scale := ⟨1, 1, 1, 1, 30, -30⟩
  keyframeTimeByMinute := true
  linearInterpolation := true
  phase := .away
  cursor := cursor
  edit := false
  draw := true
  cMs := 0
  cValue := 0
  lastKf := 0
  nextKf := 0
  needMove := false

/-- Keyframes at these times are kept. -/
theorem ofTimes_kept (duration cursor : Nat) (times : List Nat) (htwo : 2 ≤ times.length)
    (hnine : times.length ≤ 9) (hfirst : u32 (times.getD 0 0) = 0)
    (hsorted : ∀ i ∈ List.range (times.length - 1),
      u32 (times.getD i 0) ≤ u32 (times.getD (i + 1) 0))
    (hlast : u32 (times.getD (times.length - 1) 0) = max 84 (duration * 60 * 1000)) :
    (ofTimes duration cursor times).kf.Kept (ofTimes duration cursor times).program where
  edited := ⟨htwo, hnine, hfirst, fun i hi => hsorted i (List.mem_range.mpr (by
    have : (ofTimes duration cursor times).kf.count = times.length := rfl
    omega))⟩
  last := hlast

/-- The keys that select the keyframe under the cursor and move it back by a minute, and
    by another. -/
def twoMinutesBack : List EditorMove :=
  [.call true, .plot, .press .up, .call false, .plot, .press .left, .call false, .plot,
    .press .left]

end KeyframeEditor

end Menu

end TimelapsePlus
