import TimelapsePlus.Lcd.Display
import TimelapsePlus.Lcd.Text
import TimelapsePlus.Menu.Navigation

/-!
# The Page of a Menu

A menu is drawn with a row of nine points' height for each item that is shown, a title above
and a bar below. The selected row is inverted. To move the selection the row is inverted
once more, which undoes it, and another one is. Only when the page is to be scrolled, or
has been, is all of it drawn again.

How far it is scrolled is counted in points. It depends on the selection and on the number
of items, and `init` looks at this number before it counts anew: it is the number of the
menu before.

What is drawn for an item is left open (`Row`): a text, a number, a setting. It is drawn at
a height, and what it makes of a picture depends on the picture only.

The loops of a highlight do not end if they are to go up to 255, so a step may have no
result here.

## Main definitions

* `Row`, `Panel`: What is drawn for an item, and a menu.
* `Row.item`: An item with nothing but its text.
* `Page`: The screen, the display, and where the selection is.
* `highlight`, `clearHighlight`, `select`, `checkScroll`, `setTitle`, `setBar`, `init`, `up`,
  `down`: The functions of the source.
* `Page.step`: A menu is drawn, or a key is pressed.
-/

namespace TimelapsePlus

namespace Menu

open Lcd

/-- What is drawn for an item at a height, in bytes and in the picture. -/
structure Row where
  draw : UInt8 → Screen → Screen
  shape : UInt8 → Picture → Picture
  draws : ∀ y, Draws (draw y) (shape y)

/-- `MENU_NAME_LEN`. -/
def menuNameLen : Nat := 13

/-- The text of an item as it is in the table, with a sign after that of a submenu. -/
def writeItem (font6_8 : Font) (name : Nat → UInt8) (submenu : Bool) (y : UInt8) (s : Screen) :
    Screen :=
  let s := (List.range (menuNameLen - 1)).foldl
    (fun s b => if name b = 43 then s else writeChar font6_8 s (2 + .ofNat b * 6) y (name b)) s
  if submenu then writeChar font6_8 s (2 + (.ofNat menuNameLen - 1) * 6) y 62 else s

/-- What it draws in the picture. -/
def itemShape (font6_8 : Font) (name : Nat → UInt8) (submenu : Bool) (y : UInt8) (p : Picture) :
    Picture :=
  let p := (List.range (menuNameLen - 1)).foldl
    (fun p b => if name b = 43 then p else charAt font6_8 (2 + .ofNat b * 6) y (name b) p) p
  if submenu then charAt font6_8 (2 + (.ofNat menuNameLen - 1) * 6) y 62 p else p

theorem draws_item (font6_8 : Font) (name : Nat → UInt8) (submenu : Bool) (y : UInt8) :
    Draws (writeItem font6_8 name submenu y) (itemShape font6_8 name submenu y) := by
  have hchar : ∀ b, Draws
      (fun s => if name b = 43 then s else writeChar font6_8 s (2 + .ofNat b * 6) y (name b))
      fun p => if name b = 43 then p else charAt font6_8 (2 + .ofNat b * 6) y (name b) p := by
    intro b
    by_cases hplus : name b = 43
    · simp only [if_pos hplus]
      exact fun s => rfl
    · simp only [if_neg hplus]
      exact draws_char _ _ _ _
  have hname := Draws.foldl hchar (List.range (menuNameLen - 1))
  intro s
  unfold writeItem itemShape
  cases submenu with
  | true =>
      rw [if_pos rfl, if_pos rfl]
      refine (draws_char font6_8 _ y 62 _).trans ?_
      rw [hname s]
  | false =>
      rw [if_neg Bool.false_ne_true, if_neg Bool.false_ne_true]
      exact hname s

/-- An item with nothing but its text. -/
def Row.item (font6_8 : Font) (name : Nat → UInt8) (submenu : Bool) : Row where
  draw := writeItem font6_8 name submenu
  shape := itemShape font6_8 name submenu
  draws := draws_item font6_8 name submenu

/-- A menu: its rows, its title, and the two texts of its bar, if it has one. -/
structure Panel where
  rows : List Row
  title : List UInt8
  bar : Option (List UInt8 × List UInt8)
  room : rows.length ≤ menuMax

/-- The page. `panel` is the menu as it was drawn last. -/
structure Page where
  screen : Screen
  display : Display
  disableUpdate : Bool
  hx1 : UInt8
  hy1 : UInt8
  hx2 : UInt8
  hy2 : UInt8
  menuSelected : UInt8
  menuScroll : UInt8
  menuSize : UInt8
  panel : Panel

-- The small font is a table in the program memory.
variable (font4_5 : Font)

/-- `MENU::setTitle`. -/
def setTitle (s : Screen) (title : List UInt8) : Option Screen := do
  let l := measureStringTiny font4_5 title / 2
  let s ← s.eraseBox 0 0 83 5
  let s ← s.drawHighlight 0 1 83 3
  let s ← s.eraseBox (41 - l - 1) 0 (41 + l + 1) 5
  some (writeStringTiny font4_5 s (41 - l) 0 title)

/-- `MENU::setBar`. -/
def setBar (s : Screen) (left right : List UInt8) : Option Screen := do
  let s ← s.eraseBox 0 41 83 47
  let s := writeStringTiny font4_5 s 2 42 left
  let s := writeStringTiny font4_5 s (83 - measureStringTiny font4_5 right) 42 right
  s.drawHighlight 0 41 83 47

namespace Page

/-- The highlight is undone, if there is one. -/
def unlight (p : Page) : Option Screen :=
  if p.hx1 ||| p.hy1 ||| p.hx2 ||| p.hy2 ≠ 0 then
    p.screen.drawHighlight p.hx1 p.hy1 p.hx2 p.hy2
  else some p.screen

/-- `MENU::highlight`. -/
def highlight (p : Page) (x1 y1 x2 y2 : UInt8) : Option Page := do
  let s ← p.unlight
  let s ← s.drawHighlight x1 y1 x2 y2
  some { p with screen := s, hx1 := x1, hy1 := y1, hx2 := x2, hy2 := y2 }

/-- `MENU::clearHighlight`. -/
def clearHighlight (p : Page) : Option Page := do
  let s ← p.unlight
  some { p with screen := s, hx1 := 0, hy1 := 0, hx2 := 0, hy2 := 0 }

/-- The first row of points of an item. -/
def top (menuItem menuScroll : UInt8) : UInt8 := 7 + 9 * menuItem - menuScroll

/-- `MENU::select`. -/
def select (p : Page) (menuItem : UInt8) : Option Page :=
  if p.menuSize ≤ menuItem then
    p.clearHighlight.map fun p => { p with menuSelected := 255 }
  else
    (p.highlight 1 (7 + 9 * menuItem - p.menuScroll) (3 + 6 * 13)
      (15 + 9 * menuItem - p.menuScroll)).map fun p => { p with menuSelected := menuItem }

/-- What `checkScroll` makes of the scroll. -/
def scrollFor (menuSelected menuSize : UInt8) : UInt8 :=
  if 2 < menuSelected then
    if menuSelected.toNat + 1 = menuSize.toNat then (menuSize - 1) * 9 - 23
    else (menuSelected - 2) * 9
  else 0

/-- `MENU::checkScroll`. -/
def checkScroll (p : Page) : Page × Bool :=
  let was := p.menuScroll
  let scroll := scrollFor p.menuSelected p.menuSize
  ({ p with menuScroll := scroll }, decide (0 < scroll) || decide (0 < was))

/-- The rows of a menu are drawn, one below the other. -/
def drawRows (rows : List Row) (menuScroll : UInt8) (s : Screen) : Screen :=
  rows.zipIdx.foldl (fun s r => r.1.draw (8 + 9 * .ofNat r.2 - menuScroll) s) s

/-- `MENU::init`. -/
def init (p : Page) (menu : Panel) : Option Page := do
  let p ← p.clearHighlight
  let p := { p with screen := p.screen.cls }
  let p := p.checkScroll.1
  let p := { p with
    screen := drawRows menu.rows p.menuScroll p.screen
    menuSize := .ofNat menu.rows.length
    panel := menu }
  let p ← p.select p.menuSelected
  let s ← setTitle font4_5 p.screen menu.title
  match menu.bar with
  | none => some { p with screen := s }
  | some (left, right) =>
    let s ← setBar font4_5 s left right
    some { p with screen := s }

/-- `lcd->update()`. -/
def update (p : Page) : Page :=
  { p with display := p.display.update p.screen p.disableUpdate }

/-- What `up` and `down` do after a selection, with the menu as it would be drawn now. -/
def settle (p : Page) (menu : Panel) : Option Page :=
  let r := p.checkScroll
  if r.2 then (r.1.init font4_5 menu).map update else some r.1.update

/-- `MENU::down`. -/
def down (p : Page) (menuWrap : Bool) (menu : Panel) : Option Page := do
  let p ←
    if p.menuSelected.toNat + 1 < p.menuSize.toNat then p.select (p.menuSelected + 1)
    else if menuWrap then p.select 0
    else some p
  p.settle font4_5 menu

/-- `MENU::up`. -/
def up (p : Page) (menuWrap : Bool) (menu : Panel) : Option Page := do
  let p ←
    if 0 < p.menuSelected then p.select (p.menuSelected - 1)
    else if menuWrap then p.select (p.menuSize - 1)
    else some p
  p.settle font4_5 menu

end Page

/-- What happens to the page. Something else makes use of the screen, a menu is drawn, with a
    selection or the one there is, it is drawn after its first item has been selected in the one
    before, or a key is pressed. -/
inductive PageMove
  | paint (screen : Screen) (display : Display) (disableUpdate : Bool)
  | draw (selected : Option UInt8) (menu : Panel)
  | enter (menu : Panel)
  | up (menuWrap : Bool) (menu : Panel)
  | down (menuWrap : Bool) (menu : Panel)

namespace Page

/-- One move. -/
def step (p : Page) : PageMove → Option Page
  | .paint screen display disableUpdate =>
      some { p with screen := screen, display := display, disableUpdate := disableUpdate }
  | .draw selected menu =>
      (({ p with menuSelected := selected.getD p.menuSelected } : Page).init font4_5 menu).map
        update
  | .enter menu => do
      let p ← p.select 0
      (p.init font4_5 menu).map update
  | .up menuWrap menu => p.up font4_5 menuWrap menu
  | .down menuWrap menu => p.down font4_5 menuWrap menu

end Page

end Menu

end TimelapsePlus
