import TimelapsePlus.Lcd.Screen

/-!
# What the Display Shows

The screen is copied to the display byte by byte. The display keeps its own memory, and a
place in it that a byte goes to and that moves on by itself: along the 84 columns of a
bank, and then to the next of the six banks, and from the last to the first. A copy of the
whole screen therefore comes back to where it began, and it begins at the first column of
the first bank wherever the place was before.

The display is not in the code. It is described here as far as the commands go that the
code gives it: the place, the display control, and the function set, which tells whether
the extended commands follow, and whether the place moves along the columns.

## Main definitions

* `Display`: The memory and the place.
* `Display.command`, `Display.data`: What is made of a byte.
* `setXY`, `clear`, `init`, `update`: The functions of the source.

## Theorems

* `data_bank`: A bank is written.
* `update_shows`: After an update the display shows the screen.
* `init_normal`: The display is made ready for updates.
-/

namespace TimelapsePlus

namespace Lcd

/-- The display: its memory, by column and bank, the place that the next byte goes to, and the
    bits of the function set. -/
structure Display where
  ram : Nat → Nat → UInt8
  x : Nat
  y : Nat
  vertical : Bool
  extended : Bool

namespace Display

/-- A command. The extended ones do not touch the memory or the place. -/
def command (d : Display) (dat : UInt8) : Display :=
  if dat &&& 0x80 ≠ 0 then
    if d.extended then d else { d with x := (dat &&& 0x7f).toNat }
  else if dat &&& 0x40 ≠ 0 then
    if d.extended then d else { d with y := (dat &&& 0x07).toNat }
  else if dat &&& 0x20 ≠ 0 then
    { d with vertical := decide (dat &&& 0x02 ≠ 0), extended := decide (dat &&& 0x01 ≠ 0) }
  else d

/-- The place moves on along the columns. -/
def advance (d : Display) : Display :=
  if d.x = 83 then { d with x := 0, y := if d.y = 5 then 0 else d.y + 1 }
  else { d with x := d.x + 1 }

/-- It moves on along the banks. -/
def advanceDown (d : Display) : Display :=
  if d.y = 5 then { d with y := 0, x := if d.x = 83 then 0 else d.x + 1 }
  else { d with y := d.y + 1 }

/-- A byte for the memory. -/
def data (d : Display) (dat : UInt8) : Display :=
  let written := { d with ram := Function.update d.ram d.x (Function.update (d.ram d.x) d.y dat) }
  if d.vertical then written.advanceDown else written.advance

/-- `LCD::writeByte`. -/
def writeByte (d : Display) (dat datType : UInt8) : Display :=
  if datType = 0 then d.command dat else d.data dat

/-- `LCD::setXY`. -/
def setXY (d : Display) (x y : UInt8) : Display :=
  (d.writeByte (0x40 ||| y) 0).writeByte (0x80 ||| x) 0

/-- `LCD::clear`. -/
def clear (d : Display) : Display :=
  (List.range 504).foldl (fun d _ => d.writeByte 0 1) ((d.writeByte 0x0c 0).writeByte 0x80 0)

/-- What `LCD::init` sends. -/
def init (d : Display) (contrast : UInt8) : Display :=
  let contrast := if contrast < 1 ∨ 10 < contrast then 5 else contrast
  let bias : UInt8 := if contrast ≤ 5 then 3 else 4
  let coefficent := if contrast ≤ 5 then 8 - contrast else 8 - (contrast - 5)
  let d := (d.writeByte 0x21 0).writeByte (0xb0 ||| (0xf &&& 0x8)) 0
  let d := (d.writeByte 0xc0 0).writeByte (0x00 ||| (0xf &&& coefficent)) 0
  let d := (d.writeByte (0x10 ||| (0xf &&& bias)) 0).writeByte 0x20 0
  d.clear.writeByte 0x0c 0

/-- `LCD::update`, with `disableUpdate`. -/
def update (d : Display) (screen : Screen) (disableUpdate : Bool) : Display :=
  if disableUpdate then d
  else
    (List.range 6).foldl
      (fun d j => (List.range 84).foldl (fun d i => d.writeByte (screen (i * 6 + j)) 1) d)
      (d.setXY 0 0)

/-- The commands are the basic ones, and the place moves along the columns. -/
def Normal (d : Display) : Prop := d.vertical = false ∧ d.extended = false

section Updates

variable {d : Display}

theorem data_normal (h : d.Normal) (dat : UInt8) : (d.data dat).Normal := by
  unfold data
  rw [h.1, if_neg Bool.false_ne_true]
  unfold advance
  split
  · exact ⟨rfl, h.2⟩
  · exact ⟨rfl, h.2⟩

/-- Some bytes are written from the first column of a bank on. -/
theorem data_bank (h : d.Normal) (hx : d.x = 0) (bytes : Nat → UInt8) {n : Nat} (hn : n ≤ 83) :
    let t := (List.range n).foldl (fun d i => d.writeByte (bytes i) 1) d
    t.Normal ∧ t.x = n ∧ t.y = d.y ∧
      ∀ i j, t.ram i j = if i < n ∧ j = d.y then bytes i else d.ram i j := by
  induction n with
  | zero => exact ⟨h, hx, rfl, fun i j => (if_neg fun hi => absurd hi.1 (Nat.not_lt_zero i)).symm⟩
  | succ n ih =>
      rcases ih (by omega) with ⟨hnormal, hplace, hbank, hram⟩
      simp only [List.range_succ, List.foldl_append, List.foldl_cons, List.foldl_nil]
      generalize (List.range n).foldl (fun d i => d.writeByte (bytes i) 1) d = t at *
      have hwrite : t.writeByte (bytes n) 1 = t.data (bytes n) := rfl
      have hlast : t.x ≠ 83 := by omega
      refine ⟨data_normal hnormal _, ?_, ?_, fun i j => ?_⟩
      · rw [hwrite, data, hnormal.1, if_neg Bool.false_ne_true, advance, if_neg hlast]
        exact congrArg (· + 1) hplace
      · rw [hwrite, data, hnormal.1, if_neg Bool.false_ne_true, advance, if_neg hlast]
        exact hbank
      · rw [hwrite, data, hnormal.1, if_neg Bool.false_ne_true, advance, if_neg hlast]
        simp only [hplace, hbank, Function.update_apply]
        by_cases hi : i = n
        · rw [if_pos hi, Function.update_apply]
          by_cases hj : j = d.y
          · rw [if_pos hj, if_pos ⟨by omega, hj⟩, hi]
          · rw [if_neg hj, if_neg fun hif => hj hif.2, hram, if_neg fun hif => hj hif.2, hi]
        · rw [if_neg hi, hram]
          exact if_congr (and_congr_left fun _ => by omega) rfl rfl

/-- A whole bank is written, and the place goes to the next one. -/
theorem data_banks (h : d.Normal) (hx : d.x = 0) (bytes : Nat → UInt8) :
    let t := (List.range 84).foldl (fun d i => d.writeByte (bytes i) 1) d
    t.Normal ∧ t.x = 0 ∧ t.y = (if d.y = 5 then 0 else d.y + 1) ∧
      ∀ i j, t.ram i j = if i < 84 ∧ j = d.y then bytes i else d.ram i j := by
  rcases data_bank h hx bytes (Nat.le_refl 83) with ⟨hnormal, hplace, hbank, hram⟩
  simp only [List.range_succ (n := 83), List.foldl_append, List.foldl_cons, List.foldl_nil]
  generalize (List.range 83).foldl (fun d i => d.writeByte (bytes i) 1) d = t at *
  have hwrite : t.writeByte (bytes 83) 1 = t.data (bytes 83) := rfl
  refine ⟨data_normal hnormal _, ?_, ?_, fun i j => ?_⟩
  · rw [hwrite, data, hnormal.1, if_neg Bool.false_ne_true, advance, if_pos hplace]
  · rw [hwrite, data, hnormal.1, if_neg Bool.false_ne_true, advance, if_pos hplace]
    simp only [hbank]
  · rw [hwrite, data, hnormal.1, if_neg Bool.false_ne_true, advance, if_pos hplace]
    simp only [hplace, hbank, Function.update_apply]
    by_cases hi : i = 83
    · rw [if_pos hi, Function.update_apply]
      by_cases hj : j = d.y
      · rw [if_pos hj, if_pos ⟨by omega, hj⟩, hi]
      · rw [if_neg hj, if_neg fun hif => hj hif.2, hram, if_neg fun hif => hj hif.2, hi]
    · rw [if_neg hi, hram]
      exact if_congr (and_congr_left fun _ => by omega) rfl rfl

/-- The place is set, wherever it was. -/
theorem setXY_zero (h : d.Normal) : d.setXY 0 0 = { d with x := 0, y := 0 } := by
  unfold setXY writeByte command
  rw [if_pos rfl, if_pos rfl, h.2]
  rfl

/-- So many banks are written. -/
theorem update_banks (h : d.Normal) (screen : Screen) {n : Nat} (hn : n ≤ 6) :
    let t := (List.range n).foldl
      (fun d j => (List.range 84).foldl (fun d i => d.writeByte (screen (i * 6 + j)) 1) d)
      (d.setXY 0 0)
    t.Normal ∧ t.x = 0 ∧ t.y = (if n = 6 then 0 else n) ∧
      ∀ i j, t.ram i j = if i < 84 ∧ j < n then screen (i * 6 + j) else d.ram i j := by
  induction n with
  | zero =>
      rw [setXY_zero h]
      exact ⟨h, rfl, rfl, fun i j => (if_neg fun hi => absurd hi.2 (Nat.not_lt_zero j)).symm⟩
  | succ n ih =>
      rcases ih (by omega) with ⟨hnormal, hplace, hbank, hram⟩
      simp only [List.range_succ (n := n), List.foldl_append, List.foldl_cons, List.foldl_nil]
      generalize (List.range n).foldl
        (fun d j => (List.range 84).foldl (fun d i => d.writeByte (screen (i * 6 + j)) 1) d)
        (d.setXY 0 0) = t at *
      have hn' : t.y = n := by
        rw [hbank]
        exact if_neg (by omega)
      rcases data_banks hnormal hplace (fun i => screen (i * 6 + n)) with ⟨hnext, hx, hy, hwritten⟩
      refine ⟨hnext, hx, ?_, fun i j => ?_⟩
      · rw [hy, hn']
        exact if_congr (by omega) rfl rfl
      · rw [hwritten, hn', hram]
        by_cases hj : j = n
        · rw [hj]
          by_cases hi : i < 84
          · rw [if_pos ⟨hi, rfl⟩, if_pos ⟨hi, Nat.lt_succ_self n⟩]
          · rw [if_neg fun hif => hi hif.1, if_neg fun hif => hi hif.1, if_neg fun hif => hi hif.1]
        · rw [if_neg fun hif => hj hif.2]
          exact if_congr (and_congr_right fun _ => by omega) rfl rfl

/-- After an update the display shows the screen, whatever it showed before. -/
theorem update_shows (h : d.Normal) (screen : Screen) :
    (d.update screen false).Normal ∧
      ∀ i < 84, ∀ j < 6, (d.update screen false).ram i j = screen (i * 6 + j) := by
  rcases update_banks h screen (Nat.le_refl 6) with ⟨hnormal, -, -, hram⟩
  unfold update
  rw [if_neg Bool.false_ne_true]
  exact ⟨hnormal, fun i hi j hj => (hram i j).trans (if_pos ⟨hi, hj⟩)⟩

/-- Nothing is sent while updates are disabled. -/
theorem update_disabled (d : Display) (screen : Screen) : d.update screen true = d := if_pos rfl

/-- A command that is no function set leaves its bits alone. -/
theorem command_normal (h : d.Normal) {dat : UInt8}
    (hdat : dat &&& 0x80 ≠ 0 ∨ dat &&& 0x40 ≠ 0 ∨ dat &&& 0x20 = 0) : (d.command dat).Normal := by
  unfold command
  split_ifs with hx hextended hy hextended hset
  · exact h
  · exact h
  · exact h
  · exact h
  · exact absurd ((hdat.resolve_left hx).resolve_left hy) hset
  · exact h

theorem clear_normal (h : d.Normal) : d.clear.Normal := by
  have hfold : ∀ (l : List Nat) (t : Display), t.Normal →
      (l.foldl (fun d _ => d.writeByte 0 1) t).Normal := by
    intro l
    induction l with
    | nil => exact fun t ht => ht
    | cons i l ih => exact fun t ht => ih _ (data_normal ht 0)
  have hcontrol : (d.command 0x0c).Normal := command_normal h (by decide)
  have hplace : ((d.command 0x0c).command 0x80).Normal := command_normal hcontrol (by decide)
  exact hfold _ _ hplace

/-- After `init` the display takes the basic commands, whatever it has been told before. -/
theorem init_normal (d : Display) (contrast : UInt8) : (d.init contrast).Normal := by
  have hset : ∀ t : Display, (t.writeByte 0x20 0).Normal := fun _ => ⟨rfl, rfl⟩
  have hlast : ∀ t : Display, t.Normal → (t.writeByte 0x0c 0).Normal := by
    intro t ht
    have hcontrol : (t.command 0x0c).Normal := command_normal ht (by decide)
    exact hcontrol
  unfold init
  exact hlast _ (clear_normal (hset _))

end Updates

end Display

end Lcd

end TimelapsePlus
