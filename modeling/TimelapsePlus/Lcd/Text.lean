import TimelapsePlus.Lcd.Screen

/-!
# Text on the Screen

There are two fonts. A character of the large one is six columns of a byte. One of the
small one has a number of columns of its own, with five points each, and some characters
of it are drawn point by point. Text only sets points. So it is known where it does, from
the height that it is written at.

The fonts are tables in the program memory and stand for themselves here.

## Main definitions

* `Screen.plot`: Some points are set.
* `writeChar`, `writeCharTiny`, `writeStringTiny`, `measureStringTiny`: The functions of the
  source.

## Theorems

* `draws_plot`, `plot_on`: What points come to, and where they are.
* `draws_char`: What a character of the large font comes to.
* `draws_string`, `string_on`: The same of a string of the small font.
-/

namespace TimelapsePlus

namespace Lcd

open TimelapsePlus.Pointwise

/-- A table in the program memory. -/
abbrev Font : Type := Nat → UInt8

/-- Some points are set, one after the other. -/
def Screen.plot (s : Screen) (points : List (UInt8 × UInt8)) : Screen :=
  points.foldl (fun s i => s.setPixel i.1 i.2) s

/-- The points of the columns of a character, of which some have so many bits, counted from
    where it begins. -/
def glyph (font : Font) (place columns bits : Nat) : List (UInt8 × UInt8) :=
  (List.range columns).flatMap fun line =>
    ((List.range bits).filter fun b => (font (place + line)).toNat.testBit b).map fun b =>
      (.ofNat line, .ofNat b)

/-- Points are set, counted from a place. -/
def Screen.plotAt (s : Screen) (x y : UInt8) (marks : List (UInt8 × UInt8)) : Screen :=
  s.plot (marks.map fun o => (x + o.1, y + o.2))

/-- `LCD::writeChar`. -/
def writeChar (font6_8 : Font) (s : Screen) (x y c : UInt8) : Screen :=
  s.plotAt x y (glyph font6_8 ((c - 32).toNat * 6) 6 8)

/-- The place of a letter or a digit in the small font. -/
def tinyIndex (c : UInt8) : UInt8 :=
  if 48 ≤ c ∧ c ≤ 57 then c - 48 + (90 - 65) + 1
  else if 90 < c then c - 32 - 65
  else c - 65

/-- The points that `LCD::writeCharTiny` sets, and the width it returns. -/
def charTiny (font4_5 : Font) (c : UInt8) : List (UInt8 × UInt8) × UInt8 :=
  if c = 32 then ([], 2)
  else if c = 46 then ([(0, 4)], 1)
  else if c = 58 then ([(0, 1), (0, 3)], 1)
  else if c = 43 then ([(0, 2), (1, 2), (1, 1), (1, 3), (2, 2)], 3)
  else if c = 45 then ([(0, 2), (1, 2), (2, 2)], 3)
  else if c = 47 then ([(4, 0), (3, 1), (2, 2), (1, 3), (0, 4)], 5)
  else if ¬ (48 ≤ c ∧ c ≤ 57) ∧ 90 < tinyIndex c then ([], 0)
  else
    let len := font4_5 ((tinyIndex c).toNat * 6)
    (glyph font4_5 ((tinyIndex c).toNat * 6 + 1) len.toNat 5, len)

/-- `LCD::writeCharTiny`. -/
def writeCharTiny (font4_5 : Font) (s : Screen) (x y c : UInt8) : Screen × UInt8 :=
  (s.plotAt x y (charTiny font4_5 c).1, (charTiny font4_5 c).2)

/-- The rest of the loop of `LCD::writeStringTiny`, with the width so far. -/
def stringTinyFrom (font4_5 : Font) (x y : UInt8) : List UInt8 → UInt8 → Screen → Screen
  | [], _, s => s
  | c :: text, l, s =>
    let r := writeCharTiny font4_5 s (x + l) y c
    stringTinyFrom font4_5 x y text (l + (r.2 + 1)) r.1

/-- `LCD::writeStringTiny`. -/
def writeStringTiny (font4_5 : Font) (s : Screen) (x y : UInt8) (text : List UInt8) : Screen :=
  stringTinyFrom font4_5 x y text 0 s

/-- `LCD::measureCharTiny`. -/
def measureCharTiny (font4_5 : Font) (c : UInt8) : UInt8 :=
  if c = 32 then 2
  else if c = 46 ∨ c = 58 then 1
  else if c = 43 ∨ c = 45 then 3
  else if c = 47 then 5
  else if 48 ≤ c ∧ c ≤ 57 then 3
  else font4_5 ((tinyIndex c).toNat * 6) + 1

/-- `LCD::measureStringTiny`. -/
def measureStringTiny (font4_5 : Font) (text : List UInt8) : UInt8 :=
  text.foldl (fun l c => l + measureCharTiny font4_5 c) 0

section Drawing

variable {font : Font} {R : UInt8 × UInt8 → Prop}

/-- Some points are set in the picture. -/
def plotted (points : List (UInt8 × UInt8)) (p : Picture) : Picture :=
  points.foldl (fun p i => paint (fun _ => true) i.1 i.2 p) p

theorem draws_plot (points : List (UInt8 × UInt8)) :
    Draws (fun s => s.plot points) (plotted points) := by
  intro s
  induction points generalizing s with
  | nil => rfl
  | cons i points ih =>
      have hset : (s.setPixel i.1 i.2).picture = paint (fun _ => true) i.1 i.2 s.picture :=
        draws_setPixel i.1 i.2 s
      refine (ih (s.setPixel i.1 i.2)).trans ?_
      rw [hset]
      rfl

/-- What a character of the large font draws in the picture. -/
def charAt (font6_8 : Font) (x y c : UInt8) : Picture → Picture :=
  plotted ((glyph font6_8 ((c - 32).toNat * 6) 6 8).map fun o => (x + o.1, y + o.2))

theorem draws_char (font6_8 : Font) (x y c : UInt8) :
    Draws (fun s => writeChar font6_8 s x y c) (charAt font6_8 x y c) :=
  draws_plot _

theorem paint_on (c : Bool → Bool) (x y : UInt8) : On (· = (x, y)) (paint c x y) := by
  unfold paint
  by_cases hon : OnScreen x y
  · simp only [if_pos hon]
    exact dot_on (x, y)
  · simp only [if_neg hon]
    exact On.id _

theorem plot_on {points : List (UInt8 × UInt8)} (h : ∀ i ∈ points, R i) : On R (plotted points) :=
  On.foldl fun i hi => (paint_on _ i.1 i.2).mono fun j hj => by
    rw [hj]
    exact h i hi

/-- The rows from a height on, five of them. -/
def Rows (y : UInt8) (i : UInt8 × UInt8) : Prop :=
  y.toNat ≤ i.2.toNat ∧ i.2.toNat ≤ y.toNat + 4

theorem short_points {points : List (UInt8 × UInt8)}
    (h : (points.all fun o => decide (o.2.toNat ≤ 4)) = true) : ∀ o ∈ points, o.2.toNat ≤ 4 :=
  fun o ho => of_decide_eq_true (List.all_eq_true.mp h o ho)

/-- A character of the small font is five rows high. -/
theorem charTiny_marks (c : UInt8) : ∀ o ∈ (charTiny font c).1, o.2.toNat ≤ 4 := by
  unfold charTiny
  split_ifs
  · exact short_points rfl
  · exact short_points rfl
  · exact short_points rfl
  · exact short_points rfl
  · exact short_points rfl
  · exact short_points rfl
  · exact fun o ho => absurd ho List.not_mem_nil
  · intro o ho
    rcases List.mem_flatMap.mp ho with ⟨line, -, hline⟩
    rcases List.mem_map.mp hline with ⟨b, hb, rfl⟩
    have hlt := List.mem_range.mp (List.mem_filter.mp hb).1
    rw [UInt8.toNat_ofNat']
    omega

theorem charTiny_rows {y : UInt8} (hy : y.toNat + 4 < 256) (x c : UInt8) :
    ∀ i ∈ (charTiny font c).1.map (fun o => (x + o.1, y + o.2)), Rows y i := by
  intro i hi
  rcases List.mem_map.mp hi with ⟨o, ho, rfl⟩
  have hle := charTiny_marks c o ho
  have hsum : (y + o.2).toNat = y.toNat + o.2.toNat := by
    rw [UInt8.toNat_add]
    omega
  unfold Rows
  rw [hsum]
  omega

/-- What a string draws in the picture. -/
def stringFrom (font4_5 : Font) (x y : UInt8) : List UInt8 → UInt8 → Picture → Picture
  | [], _, p => p
  | c :: text, l, p =>
    let r := charTiny font4_5 c
    let points := r.1.map fun o => (x + l + o.1, y + o.2)
    stringFrom font4_5 x y text (l + (r.2 + 1)) (plotted points p)

theorem draws_string (font : Font) (x y : UInt8) (text : List UInt8) :
    Draws (fun s => writeStringTiny font s x y text) (stringFrom font x y text 0) := by
  have hfrom : ∀ (text : List UInt8) (l : UInt8),
      Draws (stringTinyFrom font x y text l) (stringFrom font x y text l) := by
    intro text
    induction text with
    | nil => exact fun l s => rfl
    | cons c text ih =>
        intro l s
        exact ((draws_plot ((charTiny font c).1.map fun o => (x + l + o.1, y + o.2))).comp
          (ih (l + ((charTiny font c).2 + 1)))) s
  exact hfrom text 0

theorem string_on {y : UInt8} (hy : y.toNat + 4 < 256) (font : Font) (x : UInt8)
    (text : List UInt8) : On (Rows y) (stringFrom font x y text 0) := by
  have hfrom : ∀ (text : List UInt8) (l : UInt8), On (Rows y) (stringFrom font x y text l) := by
    intro text
    induction text with
    | nil => exact fun l => On.id _
    | cons c text ih => exact fun l => (plot_on (charTiny_rows hy (x + l) c)).comp (ih _)
  exact hfrom text 0

end Drawing

end Lcd

end TimelapsePlus
