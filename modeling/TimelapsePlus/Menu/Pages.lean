import TimelapsePlus.Lib.Run
import TimelapsePlus.Menu.Page

/-!
# What a Menu Shows

A press of a key moves the selection by inverting two rows, and what is then on the screen
might well be something else than the menu: a row that is left inverted, or one that has
been scrolled away from its text. It is not. In every run of menus that are drawn and keys
that are pressed, the display shows the menu as it was drawn last, with the selected row
inverted and no other, and this row lies between the title and the bar.

The highlight is kept as a box, and what is left of one is undone by inverting it again.
The title and the bar are drawn after it. They have no point in common with a row, so it
does not matter that they come in between. On its way the box may go astray: a row that has
been selected before the page is scrolled may be anywhere, also beyond the screen. No box
goes up to 255 though, where the loop would not end. There the number of items matters.

A menu may come to be drawn with less items than its selection needs. Then nothing is
selected, and without `menuWrap` no key changes that.

## Main definitions

* `Panel.plain`, `Panel.picture`: A menu without a selection, and with one.
* `Page.Ready`, `Page.Lit`, `Page.Steady`: What holds of the highlight and of the selection.
* `Page.Drawn`, `Page.Shown`: The screen shows the menu, and the display does.

## Theorems

* `titled_on`, `barred_on`: Where the title and the bar are.
* `scrollFor_top`: Where the selected row is.
* `select_selects`, `init_steady`, `settle_steady`, `step_steady`: What is done to the page.
* `page_shown`: The display shows the menu and its selection.
* `selection_lost`: A selection that is lost does not come back by itself.
-/

namespace TimelapsePlus

namespace Menu

open Lcd TimelapsePlus.Pointwise

variable (font4_5 : Font)

/-! ### Pictures -/

/-- What `setTitle` draws. -/
def titled (title : List UInt8) (p : Picture) : Picture :=
  let l := measureStringTiny font4_5 title / 2
  stringFrom font4_5 (41 - l) 0 title 0
    (fill (fun _ => false) (41 - l - 1) 0 (41 + l + 1) 5
      (fill not 0 1 83 3 (fill (fun _ => false) 0 0 83 5 p)))

/-- What `setBar` draws, if there is a bar. -/
def barred (bar : Option (List UInt8 × List UInt8)) (p : Picture) : Picture :=
  match bar with
  | none => p
  | some (left, right) =>
    fill not 0 41 83 47 (stringFrom font4_5 (83 - measureStringTiny font4_5 right) 42 right 0
      (stringFrom font4_5 2 42 left 0 (fill (fun _ => false) 0 41 83 47 p)))

/-- What the rows draw. -/
def rowShapes (rows : List Row) (menuScroll : UInt8) (p : Picture) : Picture :=
  rows.zipIdx.foldl (fun p r => r.1.shape (8 + 9 * .ofNat r.2 - menuScroll) p) p

/-- A menu without a selection. -/
def Panel.plain (menu : Panel) (menuScroll : UInt8) : Picture :=
  barred font4_5 menu.bar (titled font4_5 menu.title (rowShapes menu.rows menuScroll
    fun _ => false))

/-- A menu with an item selected, if there is such an item. -/
def Panel.picture (menu : Panel) (menuScroll menuSelected : UInt8) : Picture :=
  if menuSelected.toNat < menu.rows.length then
    fill not 1 (Page.top menuSelected menuScroll) 81 (Page.top menuSelected menuScroll + 8)
      (menu.plain font4_5 menuScroll)
  else menu.plain font4_5 menuScroll

/-- The number of items fits into a byte. -/
theorem Panel.count (menu : Panel) : (UInt8.ofNat menu.rows.length).toNat = menu.rows.length := by
  have hroom : menu.rows.length ≤ 44 := menu.room
  rw [UInt8.toNat_ofNat']
  omega

section Frame

/-- The title is in the first six rows of points. -/
theorem titled_on (title : List UInt8) :
    On (fun i => i.2.toNat ≤ 5) (titled font4_5 title) := by
  have hbox : ∀ (c : Bool → Bool) (x1 y1 x2 y2 : UInt8), y2.toNat ≤ 5 →
      On (fun i : UInt8 × UInt8 => i.2.toNat ≤ 5) (fill c x1 y1 x2 y2) :=
    fun c x1 y1 x2 y2 hle => (fill_on c x1 y1 x2 y2).mono fun i hi =>
      (UInt8.le_iff_toNat_le.mp hi.2.2).trans hle
  have hstring := (string_on (y := 0) (by decide) font4_5
    (41 - measureStringTiny font4_5 title / 2) title).mono
    (S := fun i => i.2.toNat ≤ 5) fun i hi => hi.2.trans (by decide)
  exact ((hbox _ _ _ _ _ (by decide)).comp (hbox _ _ _ _ _ (by decide))).comp
    (hbox _ _ _ _ _ (by decide)) |>.comp hstring

/-- The bar is below. -/
theorem barred_on (bar : Option (List UInt8 × List UInt8)) :
    On (fun i => 41 ≤ i.2.toNat) (barred font4_5 bar) := by
  have hbox : ∀ c : Bool → Bool,
      On (fun i : UInt8 × UInt8 => 41 ≤ i.2.toNat) (fill c 0 41 83 47) :=
    fun c => (fill_on c 0 41 83 47).mono fun i hi => UInt8.le_iff_toNat_le.mp hi.2.1
  have hstring : ∀ (x : UInt8) (text : List UInt8),
      On (fun i : UInt8 × UInt8 => 41 ≤ i.2.toNat) (stringFrom font4_5 x 42 text 0) :=
    fun x text => (string_on (by decide) font4_5 x text).mono fun i hi =>
      le_trans (by decide) hi.1
  cases bar with
  | none => exact On.id _
  | some texts =>
      rcases texts with ⟨left, right⟩
      exact (((hbox _).comp (hstring _ left)).comp (hstring _ right)).comp (hbox _)

/-- A row between them can be inverted before or after they are drawn. -/
theorem frame_comm (menu : Panel) {x1 y1 x2 y2 : UInt8} (hy1 : 6 ≤ y1.toNat)
    (hy2 : y2.toNat ≤ 40) (p : Picture) :
    barred font4_5 menu.bar (titled font4_5 menu.title (fill not x1 y1 x2 y2 p)) =
      fill not x1 y1 x2 y2 (barred font4_5 menu.bar (titled font4_5 menu.title p)) := by
  have hrow := (fill_on not x1 y1 x2 y2).mono
    (S := fun i : UInt8 × UInt8 => 6 ≤ i.2.toNat ∧ i.2.toNat ≤ 40) fun i hi =>
      ⟨hy1.trans (UInt8.le_iff_toNat_le.mp hi.2.1), (UInt8.le_iff_toNat_le.mp hi.2.2).trans hy2⟩
  rw [(titled_on font4_5 menu.title).comm hrow (fun i hi hi' => by omega),
    (barred_on font4_5 menu.bar).comm hrow (fun i hi hi' => by omega)]

theorem setTitle_draws (s : Screen) (title : List UInt8) :
    ∃ t, setTitle font4_5 s title = some t ∧ t.picture = titled font4_5 title s.picture := by
  have hwidth : (41 + measureStringTiny font4_5 title / 2 + 1 : UInt8) ≠ 255 := by
    -- Half of a byte is no more than 127.
    intro heq
    have hval := congrArg UInt8.toNat heq
    have hlt := (measureStringTiny font4_5 title).toNat_lt
    rw [UInt8.toNat_add, UInt8.toNat_add, UInt8.toNat_div] at hval
    simp only [UInt8.reduceToNat] at hval
    omega
  have hcolumn : (83 : UInt8) ≠ 255 := by decide
  rcases eraseBox_draws s 0 0 hcolumn (show (5 : UInt8) ≠ 255 by decide) with ⟨a, ha, hpa⟩
  rcases drawHighlight_draws a 0 1 hcolumn (show (3 : UInt8) ≠ 255 by decide) with ⟨b, hb, hpb⟩
  rcases eraseBox_draws b (41 - measureStringTiny font4_5 title / 2 - 1) 0 hwidth
    (show (5 : UInt8) ≠ 255 by decide) with ⟨c, hc, hpc⟩
  refine ⟨writeStringTiny font4_5 c (41 - measureStringTiny font4_5 title / 2) 0 title, ?_, ?_⟩
  · unfold setTitle
    simp only [ha, hb, hc, Option.bind_eq_bind, Option.bind_some]
  · have hstring := draws_string font4_5 (41 - measureStringTiny font4_5 title / 2) 0 title c
    simp only at hstring
    rw [hstring, hpc, hpb, hpa]
    rfl

theorem setBar_draws (s : Screen) (left right : List UInt8) :
    ∃ t, setBar font4_5 s left right = some t ∧
      t.picture = barred font4_5 (some (left, right)) s.picture := by
  have hcolumn : (83 : UInt8) ≠ 255 := by decide
  have hrow : (47 : UInt8) ≠ 255 := by decide
  rcases eraseBox_draws s 0 41 hcolumn hrow with ⟨a, ha, hpa⟩
  rcases drawHighlight_draws (writeStringTiny font4_5 (writeStringTiny font4_5 a 2 42 left)
    (83 - measureStringTiny font4_5 right) 42 right) 0 41 hcolumn hrow with ⟨b, hb, hpb⟩
  refine ⟨b, ?_, ?_⟩
  · unfold setBar
    simp only [ha, hb, Option.bind_eq_bind, Option.bind_some]
  · have hleft := draws_string font4_5 2 42 left a
    have hright := draws_string font4_5 (83 - measureStringTiny font4_5 right) 42 right
      (writeStringTiny font4_5 a 2 42 left)
    simp only at hleft hright
    rw [hpb, hright, hleft, hpa]
    rfl

theorem drawRows_draws (rows : List Row) (menuScroll : UInt8) (s : Screen) :
    (Page.drawRows rows menuScroll s).picture = rowShapes rows menuScroll s.picture := by
  unfold Page.drawRows rowShapes
  generalize rows.zipIdx = items
  induction items generalizing s with
  | nil => rfl
  | cons r items ih =>
      rw [List.foldl_cons, List.foldl_cons, ih, r.1.draws]

end Frame

/-! ### Places -/

/-- Where the first row of points of a selected item may be. -/
def Place (top : UInt8) : Prop := top = 7 ∨ top = 16 ∨ top = 25 ∨ top = 30

theorem Place.toNat {top : UInt8} (h : Place top) :
    top.toNat = 7 ∨ top.toNat = 16 ∨ top.toNat = 25 ∨ top.toNat = 30 := by
  rcases h with rfl | rfl | rfl | rfl <;> decide

/-- Scrolling puts the selected item there, also by the number of items of the menu before. -/
theorem scrollFor_top {menuSelected : UInt8} (menuSize : UInt8) (h : menuSelected.toNat < 44) :
    Place (Page.top menuSelected (Page.scrollFor menuSelected menuSize)) := by
  have htop : ∀ scroll : UInt8, (Page.top menuSelected scroll).toNat =
      (7 + 9 * menuSelected.toNat + (256 - scroll.toNat)) % 256 := by
    intro scroll
    have hlt := scroll.toNat_lt
    unfold Page.top
    rw [UInt8.toNat_sub, UInt8.toNat_add, UInt8.toNat_mul]
    simp only [UInt8.reduceToNat]
    omega
  unfold Place
  simp only [← UInt8.toNat_inj, htop, UInt8.reduceToNat]
  unfold Page.scrollFor
  by_cases hfew : 2 < menuSelected
  · rw [if_pos hfew]
    rw [UInt8.lt_iff_toNat_lt] at hfew
    simp only [UInt8.reduceToNat] at hfew
    by_cases hlast : menuSelected.toNat + 1 = menuSize.toNat
    · have hscroll : ((menuSize - 1) * 9 - 23 : UInt8).toNat =
          (9 * menuSelected.toNat + 233) % 256 := by
        rw [UInt8.toNat_sub, UInt8.toNat_mul, UInt8.toNat_sub, ← hlast]
        simp only [UInt8.reduceToNat]
        omega
      rw [if_pos hlast, hscroll]
      omega
    · have hscroll : ((menuSelected - 2) * 9 : UInt8).toNat =
          9 * (menuSelected.toNat - 2) % 256 := by
        rw [UInt8.toNat_mul, UInt8.toNat_sub]
        simp only [UInt8.reduceToNat]
        omega
      rw [if_neg hlast, hscroll]
      omega
  · rw [if_neg hfew]
    rw [UInt8.lt_iff_toNat_lt] at hfew
    simp only [UInt8.reduceToNat] at hfew ⊢
    -- The first three items are where they are without scrolling.
    have hfirst : menuSelected.toNat = 0 ∨ menuSelected.toNat = 1 ∨ menuSelected.toNat = 2 := by
      omega
    rcases hfirst with hi | hi | hi
    · rw [hi]
      exact Or.inl rfl
    · rw [hi]
      exact Or.inr (Or.inl rfl)
    · rw [hi]
      exact Or.inr (Or.inr (Or.inl rfl))

/-- No scroll makes a box begin one row below the first. -/
theorem scrollFor_ne {menuSelected : UInt8} (menuSize : UInt8)
    (h : menuSelected.toNat < 44 ∨ menuSelected = 255) :
    Page.scrollFor menuSelected menuSize ≠ 16 := by
  rcases h with hlt | rfl
  · intro heq
    have hplace := (scrollFor_top menuSize hlt).toNat
    rw [heq] at hplace
    unfold Page.top at hplace
    rw [UInt8.toNat_sub, UInt8.toNat_add, UInt8.toNat_mul] at hplace
    simp only [UInt8.reduceToNat] at hplace
    omega
  · have hlt := menuSize.toNat_lt
    have hnone : ¬ ((255 : UInt8).toNat + 1 = menuSize.toNat) := by
      simp only [UInt8.reduceToNat]
      omega
    unfold Page.scrollFor
    rw [if_pos (by decide), if_neg hnone]
    decide

/-! ### The highlight -/

/-- The row of an item is inverted, if there is such an item. -/
def mark (menuSize menuItem menuScroll : UInt8) (q : Picture) : Picture :=
  if menuItem < menuSize then
    fill not 1 (Page.top menuItem menuScroll) 81 (Page.top menuItem menuScroll + 8) q
  else q

theorem mark_mark (menuSize menuItem menuScroll : UInt8) (q : Picture) :
    mark menuSize menuItem menuScroll (mark menuSize menuItem menuScroll q) = q := by
  unfold mark
  split
  · exact fill_fill Bool.not_not _ _ _ _ q
  · rfl

/-- There is no item 255. -/
theorem mark_selected (menuSize menuItem menuScroll : UInt8) :
    mark menuSize (if menuItem < menuSize then menuItem else 255) menuScroll =
      mark menuSize menuItem menuScroll := by
  by_cases hitem : menuItem < menuSize
  · rw [if_pos hitem]
  · have hnone : ¬ (255 : UInt8) < menuSize := by
      have hlt := menuSize.toNat_lt
      rw [UInt8.lt_iff_toNat_lt]
      simp only [UInt8.reduceToNat]
      omega
    rw [if_neg hitem]
    funext q
    exact (if_neg hnone).trans (if_neg hitem).symm

/-- The rows are between the title and the bar. -/
theorem frame_mark (menu : Panel) {menuSize menuItem menuScroll : UInt8}
    (h : menuItem < menuSize → Place (Page.top menuItem menuScroll)) (p : Picture) :
    barred font4_5 menu.bar (titled font4_5 menu.title (mark menuSize menuItem menuScroll p)) =
      mark menuSize menuItem menuScroll
        (barred font4_5 menu.bar (titled font4_5 menu.title p)) := by
  unfold mark
  by_cases hitem : menuItem < menuSize
  · have hplace := (h hitem).toNat
    rw [if_pos hitem, if_pos hitem]
    refine frame_comm font4_5 menu (by omega) ?_ p
    rw [UInt8.toNat_add]
    simp only [UInt8.reduceToNat]
    omega
  · rw [if_neg hitem, if_neg hitem]

namespace Page

variable {p q : Page} {menuItem : UInt8}

/-- What undoing the highlight does to the picture. -/
def lit (p : Page) (q : Picture) : Picture :=
  if p.hx1 ||| p.hy1 ||| p.hx2 ||| p.hy2 ≠ 0 then fill not p.hx1 p.hy1 p.hx2 p.hy2 q else q

theorem unlight_draws (hright : p.hx2 ≠ 255) (hbottom : p.hy2 ≠ 255) :
    ∃ s, p.unlight = some s ∧ s.picture = p.lit p.screen.picture := by
  unfold unlight lit
  split
  · exact drawHighlight_draws p.screen p.hx1 p.hy1 hright hbottom
  · exact ⟨p.screen, rfl, rfl⟩

theorem clearHighlight_lit (p : Page) (s : Screen) :
    ({ p with screen := s, hx1 := 0, hy1 := 0, hx2 := 0, hy2 := 0 } : Page).lit = id := by
  funext q
  exact if_neg (show ¬ ((0 : UInt8) ||| 0 ||| 0 ||| 0 ≠ 0) by decide)

/-- What comes of a selection. -/
structure Selects (p : Page) (menuItem : UInt8) (q : Page) : Prop where
  display : q.display = p.display
  disableUpdate : q.disableUpdate = p.disableUpdate
  menuScroll : q.menuScroll = p.menuScroll
  menuSize : q.menuSize = p.menuSize
  panel : q.panel = p.panel
  menuSelected : q.menuSelected = if menuItem < p.menuSize then menuItem else 255
  box : q.lit = mark p.menuSize menuItem p.menuScroll
  right : q.hx2 ≠ 255
  bottom : q.hy2 ≠ 255
  picture : q.screen.picture = mark p.menuSize menuItem p.menuScroll (p.lit p.screen.picture)

/-- A row is inverted, after the one before has been. Its box may not go up to 255. -/
theorem select_selects (hright : p.hx2 ≠ 255) (hbottom : p.hy2 ≠ 255)
    (hend : menuItem < p.menuSize → top menuItem p.menuScroll + 8 ≠ 255) :
    ∃ q, p.select menuItem = some q ∧ p.Selects menuItem q := by
  rcases unlight_draws hright hbottom with ⟨s, hs, hpicture⟩
  unfold select
  by_cases hitem : menuItem < p.menuSize
  · have hrow : 15 + 9 * menuItem - p.menuScroll = top menuItem p.menuScroll + 8 := by
      unfold top
      grind
    rcases drawHighlight_draws s 1 (top menuItem p.menuScroll) (show (81 : UInt8) ≠ 255 by decide)
      (hend hitem) with ⟨t, ht, hbox⟩
    have hmark : mark p.menuSize menuItem p.menuScroll = fill not 1 (top menuItem p.menuScroll)
        81 (top menuItem p.menuScroll + 8) := by
      funext i
      exact if_pos hitem
    rw [if_neg (UInt8.not_le.mpr hitem), hrow]
    refine ⟨{ p with
      screen := t, hx1 := 1, hy1 := top menuItem p.menuScroll, hx2 := 81
      hy2 := top menuItem p.menuScroll + 8, menuSelected := menuItem }, ?_, ?_⟩
    · have hhighlight : p.highlight 1 (7 + 9 * menuItem - p.menuScroll) (3 + 6 * 13)
          (top menuItem p.menuScroll + 8) = some { p with
            screen := t, hx1 := 1, hy1 := top menuItem p.menuScroll, hx2 := 81
            hy2 := top menuItem p.menuScroll + 8 } := by
        have hcolumn : (3 + 6 * 13 : UInt8) = 81 := rfl
        have htop : 7 + 9 * menuItem - p.menuScroll = top menuItem p.menuScroll := rfl
        unfold highlight
        rw [hs, hcolumn, htop, Option.bind_eq_bind, Option.bind_some, ht, Option.bind_some]
      rw [hhighlight, Option.map_some]
    · have hcolumn : (81 : UInt8) ≠ 255 := by decide
      refine ⟨rfl, rfl, rfl, rfl, rfl, (if_pos hitem).symm, ?_, hcolumn, hend hitem, ?_⟩
      · -- A box that begins in the second column is not all zero.
        rw [hmark]
        funext i
        refine if_pos fun hzero => ?_
        rw [UInt8.or_eq_zero_iff, UInt8.or_eq_zero_iff, UInt8.or_eq_zero_iff] at hzero
        exact absurd hzero.1.1.1 (show (1 : UInt8) ≠ 0 by decide)
      · rw [hmark, ← hpicture]
        exact hbox
  · have hmark : mark p.menuSize menuItem p.menuScroll = id := by
      funext i
      exact if_neg hitem
    rw [if_pos (UInt8.not_lt.mp hitem)]
    refine ⟨{ p with
      screen := s, hx1 := 0, hy1 := 0, hx2 := 0, hy2 := 0, menuSelected := 255 }, ?_, ?_⟩
    · unfold clearHighlight
      rw [hs, Option.bind_eq_bind, Option.bind_some, Option.map_some]
    · have hnone : (0 : UInt8) ≠ 255 := by decide
      refine ⟨rfl, rfl, rfl, rfl, rfl, (if_neg hitem).symm, ?_, hnone, hnone, ?_⟩
      · rw [hmark]
        exact clearHighlight_lit { p with menuSelected := 255 } s
      · rw [hmark]
        exact hpicture

/-! ### The page -/

/-- The highlight can be undone, and a menu can be drawn. -/
structure Ready (p : Page) : Prop where
  right : p.hx2 ≠ 255
  bottom : p.hy2 ≠ 255
  range : p.menuSelected.toNat < 44 ∨ p.menuSelected = 255
  normal : p.display.Normal

/-- The highlight is where the selection is. -/
structure Lit (p : Page) : Prop extends Ready p where
  size : p.menuSize = .ofNat p.panel.rows.length
  box : p.lit = mark p.menuSize p.menuSelected p.menuScroll

/-- The page is scrolled to where the selection is. -/
structure Steady (p : Page) : Prop extends Lit p where
  place : p.menuSelected.toNat < 44 → Place (top p.menuSelected p.menuScroll)
  rest : p.menuScroll ≠ 16

/-- The screen shows the menu with its selection. -/
def Drawn (font4_5 : Font) (p : Page) : Prop :=
  p.screen.picture = p.panel.picture font4_5 p.menuScroll p.menuSelected

/-- The display does, unless updates are disabled. -/
def Shown (font4_5 : Font) (p : Page) : Prop :=
  p.Drawn font4_5 ∧ (p.disableUpdate = false →
    ∀ i < 84, ∀ j < 6, p.display.ram i j = p.screen (i * 6 + j))

theorem Ready.choose (h : p.Ready) {selected : UInt8} (hselected : selected.toNat < 44) :
    ({ p with menuSelected := selected } : Page).Ready :=
  ⟨h.right, h.bottom, Or.inl hselected, h.normal⟩

/-- The number of items is no more than there is room for. -/
theorem Lit.count (h : p.Lit) : p.menuSize.toNat = p.panel.rows.length ∧ p.menuSize.toNat ≤ 44 := by
  have hsize : p.menuSize.toNat = p.panel.rows.length := by
    rw [h.size, p.panel.count]
  exact ⟨hsize, hsize.le.trans p.panel.room⟩

theorem picture_mark (menu : Panel) (menuScroll menuSelected : UInt8) :
    menu.picture font4_5 menuScroll menuSelected =
      mark (.ofNat menu.rows.length) menuSelected menuScroll (menu.plain font4_5 menuScroll) := by
  unfold Panel.picture mark
  refine if_congr ?_ rfl rfl
  rw [UInt8.lt_iff_toNat_lt, menu.count]

/-- A selection keeps the highlight where the selection is, and the screen with it. -/
theorem Lit.select (h : p.Lit) (hq : p.Selects menuItem q) :
    q.Lit ∧ (p.Drawn font4_5 → q.Drawn font4_5) := by
  have hcount := h.count
  refine ⟨⟨⟨hq.right, hq.bottom, ?_, ?_⟩, ?_, ?_⟩, fun hdrawn => ?_⟩
  · rw [hq.menuSelected]
    by_cases hitem : menuItem < p.menuSize
    · rw [if_pos hitem]
      rw [UInt8.lt_iff_toNat_lt] at hitem
      exact Or.inl (by omega)
    · rw [if_neg hitem]
      exact Or.inr rfl
  · rw [hq.display]
    exact h.normal
  · rw [hq.menuSize, hq.panel]
    exact h.size
  · rw [hq.box, hq.menuSize, hq.menuScroll, hq.menuSelected, mark_selected]
  · unfold Drawn at hdrawn ⊢
    -- The row before is inverted back, and what is left is the menu without a selection.
    rw [hq.picture, hdrawn, picture_mark, ← h.size, h.box, mark_mark, hq.panel, hq.menuScroll,
      hq.menuSelected, picture_mark, ← h.size, mark_selected]

/-- The page with the rows of a menu, and no highlight. -/
def started (p : Page) (menu : Panel) (s : Screen) : Page :=
  { p with
    screen := drawRows menu.rows (scrollFor p.menuSelected p.menuSize) s.cls
    hx1 := 0, hy1 := 0, hx2 := 0, hy2 := 0
    menuScroll := scrollFor p.menuSelected p.menuSize
    menuSize := .ofNat menu.rows.length
    panel := menu }

theorem started_lit (p : Page) (menu : Panel) (s : Screen) : (p.started menu s).lit = id :=
  clearHighlight_lit (p.started menu s) (p.started menu s).screen

/-- What was on the screen before is gone. -/
theorem started_picture (p : Page) (menu : Panel) (s : Screen) :
    (p.started menu s).screen.picture =
      rowShapes menu.rows (p.started menu s).menuScroll fun _ => false := by
  have hcls : s.cls.picture = fun _ => false := draws_cls s
  rw [← hcls]
  exact drawRows_draws menu.rows _ s.cls

/-- The frame around the rows is drawn last, and nothing else changes. -/
theorem init_draws {menu : Panel} {s : Screen} (hs : p.unlight = some s)
    (hq : (p.started menu s).select p.menuSelected = some q) :
    ∃ u, p.init font4_5 menu = some { q with screen := u } ∧
      u.picture = barred font4_5 menu.bar (titled font4_5 menu.title q.screen.picture) := by
  rcases setTitle_draws font4_5 q.screen menu.title with ⟨t, ht, htitle⟩
  have hclear : p.clearHighlight = some { p with
      screen := s, hx1 := 0, hy1 := 0, hx2 := 0, hy2 := 0 } := by
    unfold clearHighlight
    rw [hs, Option.bind_eq_bind, Option.bind_some]
  have hinit : p.init font4_5 menu = (match menu.bar with
      | none => some { q with screen := t }
      | some (left, right) =>
        (setBar font4_5 t left right).bind fun s => some { q with screen := s }) := by
    unfold init
    rw [hclear, Option.bind_eq_bind, Option.bind_some]
    show ((p.started menu s).select p.menuSelected).bind _ = _
    rw [hq, Option.bind_some]
    exact congrArg (Option.bind · _) ht
  rw [hinit]
  cases menu.bar with
  | none => exact ⟨t, rfl, htitle⟩
  | some texts =>
      rcases texts with ⟨left, right⟩
      rcases setBar_draws font4_5 t left right with ⟨u, hu, hbar⟩
      refine ⟨u, ?_, ?_⟩
      · simp only [hu, Option.bind_some]
      · rw [hbar, htitle]

/-- A menu is drawn, whatever is on the screen. -/
theorem init_steady (h : p.Ready) (menu : Panel) :
    ∃ q, p.init font4_5 menu = some q ∧ q.Steady ∧ q.Drawn font4_5 ∧
      q.disableUpdate = p.disableUpdate ∧ q.panel = menu ∧
      q.menuSelected = if p.menuSelected.toNat < menu.rows.length then p.menuSelected else 255 := by
  have hroom : menu.rows.length ≤ 44 := menu.room
  -- There is an item with this number.
  have hitems : p.menuSelected < UInt8.ofNat menu.rows.length ↔
      p.menuSelected.toNat < menu.rows.length := by
    rw [UInt8.lt_iff_toNat_lt, menu.count]
  have hplace : p.menuSelected < UInt8.ofNat menu.rows.length →
      Place (top p.menuSelected (scrollFor p.menuSelected p.menuSize)) :=
    fun hitem => scrollFor_top p.menuSize ((hitems.mp hitem).trans_le hroom)
  have hend : p.menuSelected < UInt8.ofNat menu.rows.length →
      top p.menuSelected (scrollFor p.menuSelected p.menuSize) + 8 ≠ 255 := by
    intro hitem heq
    have htop := (hplace hitem).toNat
    have hval := congrArg UInt8.toNat heq
    rw [UInt8.toNat_add] at hval
    simp only [UInt8.reduceToNat] at hval
    omega
  rcases unlight_draws h.right h.bottom with ⟨s, hs, -⟩
  have hnone : (0 : UInt8) ≠ 255 := by decide
  rcases select_selects (p := p.started menu s) hnone hnone hend with ⟨q, hq, hselects⟩
  rcases init_draws font4_5 hs hq with ⟨u, hu, hpicture⟩
  have hselected : q.menuSelected =
      if p.menuSelected.toNat < menu.rows.length then p.menuSelected else 255 :=
    hselects.menuSelected.trans (if_congr hitems rfl rfl)
  have hscroll : q.menuScroll = scrollFor p.menuSelected p.menuSize := hselects.menuScroll
  refine ⟨{ q with screen := u }, hu,
    ⟨⟨⟨hselects.right, hselects.bottom, ?_, ?_⟩, ?_, ?_⟩, ?_, ?_⟩,
    ?_, hselects.disableUpdate, hselects.panel, hselected⟩
  · show q.menuSelected.toNat < 44 ∨ q.menuSelected = 255
    rw [hselected]
    split
    · next hitem => exact Or.inl (hitem.trans_le hroom)
    · exact Or.inr rfl
  · show q.display.Normal
    rw [hselects.display]
    exact h.normal
  · show q.menuSize = .ofNat q.panel.rows.length
    rw [hselects.menuSize, hselects.panel]
    rfl
  · show q.lit = mark q.menuSize q.menuSelected q.menuScroll
    rw [hselects.box, hselects.menuSize, hselects.menuScroll, hselects.menuSelected,
      mark_selected]
  · show q.menuSelected.toNat < 44 → Place (top q.menuSelected q.menuScroll)
    rw [hselected, hscroll]
    split
    · next hitem => exact fun _ => hplace (hitems.mpr hitem)
    · exact fun hlt => absurd hlt (by decide)
  · show q.menuScroll ≠ 16
    rw [hscroll]
    exact scrollFor_ne p.menuSize h.range
  · show u.picture = q.panel.picture font4_5 q.menuScroll q.menuSelected
    have hpanel : q.panel = menu := hselects.panel
    have hpicture' := hselects.picture
    rw [started_lit, started_picture] at hpicture'
    rw [hpicture, hpicture', hpanel, hselects.menuScroll, hselects.menuSelected, picture_mark]
    refine (frame_mark font4_5 menu hplace _).trans ?_
    exact congrFun (mark_selected _ _ _).symm _

theorem update_steady (h : p.Steady) : p.update.Steady := by
  have hnormal : (p.display.update p.screen p.disableUpdate).Normal := by
    cases p.disableUpdate with
    | true =>
        rw [Display.update_disabled]
        exact h.normal
    | false => exact (Display.update_shows h.normal p.screen).1
  exact ⟨⟨⟨h.right, h.bottom, h.range, hnormal⟩, h.size, h.box⟩, h.place, h.rest⟩

/-- An update shows the screen. -/
theorem update_shown (h : p.Steady) (hdrawn : p.Drawn font4_5) : p.update.Shown font4_5 := by
  have hshows := (Display.update_shows h.normal p.screen).2
  refine ⟨hdrawn, fun hoff => ?_⟩
  have hupdate : p.disableUpdate = false := hoff
  have hdisplay : p.update.display = p.display.update p.screen false := by
    unfold update
    rw [hupdate]
  rw [hdisplay]
  exact hshows

/-- After a selection the page is scrolled to it, or stays unscrolled. -/
theorem settle_steady (h : p.Lit) (menu : Panel) :
    ∃ q, p.settle font4_5 menu = some q ∧ q.Steady ∧ (p.Drawn font4_5 → q.Shown font4_5) := by
  unfold settle
  by_cases hmoved : p.checkScroll.2 = true
  · have hready : p.checkScroll.1.Ready := ⟨h.right, h.bottom, h.range, h.normal⟩
    rcases init_steady font4_5 hready menu with ⟨q, hq, hsteady, hdrawn, -⟩
    rw [if_pos hmoved, hq, Option.map_some]
    exact ⟨q.update, rfl, update_steady hsteady, fun _ => update_shown font4_5 hsteady hdrawn⟩
  · -- It has not been scrolled, and is not to be.
    rw [if_neg hmoved]
    unfold checkScroll at hmoved ⊢
    simp only [Bool.or_eq_true, decide_eq_true_eq, not_or, UInt8.not_lt] at hmoved
    have hzero : scrollFor p.menuSelected p.menuSize = 0 := UInt8.le_antisymm hmoved.1 UInt8.zero_le
    have hwas : p.menuScroll = 0 := UInt8.le_antisymm hmoved.2 UInt8.zero_le
    have hsame : { p with menuScroll := scrollFor p.menuSelected p.menuSize } = p := by
      rw [hzero, ← hwas]
    have hsteady : p.Steady := by
      refine ⟨h, fun hlt => ?_, ?_⟩
      · rw [hwas, ← hzero]
        exact scrollFor_top p.menuSize hlt
      · rw [hwas]
        decide
    simp only [hsame]
    exact ⟨p.update, rfl, update_steady hsteady, update_shown font4_5 hsteady⟩

/-- An item is selected, and the page is scrolled to it. -/
theorem pick_steady (h : p.Lit)
    (hend : menuItem < p.menuSize → top menuItem p.menuScroll + 8 ≠ 255) (menu : Panel) :
    ∃ q, ((p.select menuItem).bind fun p => p.settle font4_5 menu) = some q ∧ q.Steady ∧
      (p.Drawn font4_5 → q.Shown font4_5) := by
  rcases select_selects h.right h.bottom hend with ⟨r, hr, hselects⟩
  rcases h.select font4_5 hselects with ⟨hlit, hdrawn⟩
  rcases settle_steady font4_5 hlit menu with ⟨q, hq, hsteady, hshown⟩
  rw [hr, Option.bind_some]
  exact ⟨q, hq, hsteady, fun hp => hshown (hdrawn hp)⟩

/-- The box of the first item does not go up to 255. -/
theorem first_ends (h : p.Steady) : top 0 p.menuScroll + 8 ≠ 255 := by
  intro heq
  have hscroll : p.menuScroll = 16 := by
    unfold top at heq
    grind
  exact h.rest hscroll

theorem draw_steady (h : p.Ready) (menu : Panel) :
    ∃ q, (p.init font4_5 menu).map update = some q ∧ q.Steady ∧ q.Shown font4_5 ∧
      q.panel = menu := by
  rcases init_steady font4_5 h menu with ⟨q, hq, hsteady, hdrawn, -, hpanel, -⟩
  rw [hq, Option.map_some]
  exact ⟨q.update, rfl, update_steady hsteady, update_shown font4_5 hsteady hdrawn, hpanel⟩

theorem down_steady (h : p.Steady) (menuWrap : Bool) (menu : Panel) :
    ∃ q, p.down font4_5 menuWrap menu = some q ∧ q.Steady ∧
      (p.Drawn font4_5 → q.Shown font4_5) := by
  have hcount := h.count
  unfold down
  by_cases hnext : p.menuSelected.toNat + 1 < p.menuSize.toNat
  · -- The next row is nine points below one that is on the screen.
    rw [if_pos hnext]
    refine pick_steady font4_5 h.toLit (fun _ heq => ?_) menu
    have hplace := (h.place (by omega)).toNat
    have hrow : top (p.menuSelected + 1) p.menuScroll + 8 =
        top p.menuSelected p.menuScroll + 17 := by
      unfold top
      grind
    have hval := congrArg UInt8.toNat (hrow.symm.trans heq)
    rw [UInt8.toNat_add] at hval
    simp only [UInt8.reduceToNat] at hval
    omega
  · rw [if_neg hnext]
    cases menuWrap with
    | true =>
        rw [if_pos rfl]
        exact pick_steady font4_5 h.toLit (fun _ => first_ends h) menu
    | false =>
        rw [if_neg Bool.false_ne_true]
        exact settle_steady font4_5 h.toLit menu

theorem up_steady (h : p.Steady) (menuWrap : Bool) (menu : Panel) :
    ∃ q, p.up font4_5 menuWrap menu = some q ∧ q.Steady ∧
      (p.Drawn font4_5 → q.Shown font4_5) := by
  have hcount := h.count
  unfold up
  by_cases hprevious : 0 < p.menuSelected
  · -- The row before is nine points above.
    rw [if_pos hprevious]
    rw [UInt8.lt_iff_toNat_lt] at hprevious
    simp only [UInt8.reduceToNat] at hprevious
    have hbefore : (p.menuSelected - 1).toNat + 1 = p.menuSelected.toNat := by
      have hlt := p.menuSelected.toNat_lt
      rw [UInt8.toNat_sub]
      simp only [UInt8.reduceToNat]
      omega
    refine pick_steady font4_5 h.toLit (fun hitem heq => ?_) menu
    rw [UInt8.lt_iff_toNat_lt] at hitem
    have hchosen : p.menuSelected.toNat < 44 := by
      refine h.range.resolve_right fun hnone => ?_
      have hval : p.menuSelected.toNat = 255 := congrArg UInt8.toNat hnone
      omega
    have hplace := (h.place hchosen).toNat
    have hrow : top (p.menuSelected - 1) p.menuScroll + 8 =
        top p.menuSelected p.menuScroll - 1 := by
      unfold top
      grind
    have hval := congrArg UInt8.toNat (hrow.symm.trans heq)
    rw [UInt8.toNat_sub] at hval
    simp only [UInt8.reduceToNat] at hval
    omega
  · rw [if_neg hprevious]
    cases menuWrap with
    | true =>
        -- From the first item to the last. There are too few for its box to go up to 255.
        rw [if_pos rfl]
        have hfirst : p.menuSelected = 0 :=
          UInt8.le_antisymm (UInt8.not_lt.mp hprevious) UInt8.zero_le
        refine pick_steady font4_5 h.toLit (fun hitem heq => ?_) menu
        have hplace := h.place (by rw [hfirst]; decide)
        rw [hfirst] at hplace
        have htop := hplace.toNat
        have hsize : p.menuSize ≠ 0 := by
          intro hzero
          rw [hzero, UInt8.lt_iff_toNat_lt] at hitem
          exact absurd hitem (Nat.not_lt_zero _)
        have hrow : top (p.menuSize - 1) p.menuScroll + 8 =
            top 0 p.menuScroll + 9 * p.menuSize - 1 := by
          unfold top
          grind
        have hval := congrArg UInt8.toNat (hrow.symm.trans heq)
        rw [UInt8.toNat_sub, UInt8.toNat_add, UInt8.toNat_mul] at hval
        simp only [UInt8.reduceToNat] at hval
        omega
    | false =>
        rw [if_neg Bool.false_ne_true]
        exact settle_steady font4_5 h.toLit menu

/-! ### Runs -/

end Page

namespace PageMove

/-- The display takes the basic commands, and an item that is selected is one of a table. -/
def Fits : PageMove → Prop
  | .paint _ display _ => display.Normal
  | .draw (some selected) _ => selected.toNat < menuMax
  | _ => True

/-- A menu is drawn. -/
def Draws : PageMove → Prop
  | .draw _ _ => True
  | .enter _ => True
  | _ => False

/-- A key is pressed. -/
def Presses : PageMove → Prop
  | .up _ _ => True
  | .down _ _ => True
  | _ => False

/-- Nothing is selected of which the item is not known to be there. -/
def Idle : PageMove → Prop
  | .paint _ _ _ => True
  | .draw selected _ => selected = none
  | .enter _ => False
  | .up menuWrap _ => menuWrap = false
  | .down menuWrap _ => menuWrap = false

end PageMove

namespace Page

variable {p : Page} {m : PageMove}

/-- Each move has a result, and one after which the screen is right if it has been before, or
    if a menu is drawn. -/
theorem step_steady (h : p.Steady) (hfits : m.Fits) :
    ∃ q, p.step font4_5 m = some q ∧ q.Steady ∧ (m.Draws → q.Shown font4_5) ∧
      (m.Presses → p.Drawn font4_5 → q.Shown font4_5) := by
  cases m with
  | paint screen display disableUpdate =>
      exact ⟨_, rfl, ⟨⟨⟨h.right, h.bottom, h.range, hfits⟩, h.size, h.box⟩, h.place, h.rest⟩,
        False.elim, False.elim⟩
  | draw selected menu =>
      have hready : ({ p with menuSelected := selected.getD p.menuSelected } : Page).Ready := by
        cases selected with
        | none => exact h.toReady
        | some selected => exact h.toReady.choose hfits
      rcases draw_steady font4_5 hready menu with ⟨q, hq, hsteady, hshown, -⟩
      exact ⟨q, hq, hsteady, fun _ => hshown, False.elim⟩
  | enter menu =>
      rcases select_selects h.right h.bottom (fun _ => first_ends h) with ⟨r, hr, hselects⟩
      have hready := (h.toLit.select font4_5 hselects).1.toReady
      rcases draw_steady font4_5 hready menu with ⟨q, hq, hsteady, hshown, -⟩
      refine ⟨q, ?_, hsteady, fun _ => hshown, False.elim⟩
      unfold step
      simp only [hr, Option.bind_eq_bind, Option.bind_some, hq]
  | up menuWrap menu =>
      rcases up_steady font4_5 h menuWrap menu with ⟨q, hq, hsteady, hshown⟩
      exact ⟨q, hq, hsteady, False.elim, fun _ => hshown⟩
  | down menuWrap menu =>
      rcases down_steady font4_5 h menuWrap menu with ⟨q, hq, hsteady, hshown⟩
      exact ⟨q, hq, hsteady, False.elim, fun _ => hshown⟩

/-- Keys are pressed, one after the other. -/
theorem presses_shown {keys : List PageMove} (hkeys : ∀ k ∈ keys, k.Presses) (h : p.Steady)
    (hshown : p.Shown font4_5) :
    ∃ q, steps (step font4_5) p keys = some q ∧ q.Steady ∧ q.Shown font4_5 := by
  induction keys generalizing p with
  | nil => exact ⟨p, rfl, h, hshown⟩
  | cons k keys ih =>
      have hpress : k.Presses := hkeys k List.mem_cons_self
      have hfits : k.Fits := by
        cases k with
        | up menuWrap menu => trivial
        | down menuWrap menu => trivial
        | _ => exact hpress.elim
      rcases step_steady font4_5 h hfits with ⟨r, hr, hsteady, -, hkeep⟩
      rcases ih (fun k' hk' => hkeys k' (List.mem_cons_of_mem k hk')) hsteady
        (hkeep hpress hshown.1) with ⟨q, hq, hend⟩
      refine ⟨q, ?_, hend⟩
      rw [steps_cons _ hr]
      exact hq

/-- The page before anything is drawn. -/
def fresh (screen : Screen) (display : Display) : Page where
  screen := screen
  display := display
  disableUpdate := false
  hx1 := 0
  hy1 := 0
  hx2 := 0
  hy2 := 0
  menuSelected := 0
  menuScroll := 0
  menuSize := 0
  panel := { rows := [], title := [], bar := none, room := Nat.zero_le _ }

theorem fresh_steady (screen : Screen) {display : Display} (h : display.Normal) :
    (fresh screen display).Steady := by
  have hnone : (0 : UInt8) ≠ 255 := by decide
  have hrest : (0 : UInt8) ≠ 16 := by decide
  refine ⟨⟨⟨hnone, hnone, Or.inl (show (0 : Nat) < 44 by decide), h⟩, rfl, ?_⟩,
    fun _ => Or.inl (show (7 + 9 * 0 - 0 : UInt8) = 7 by decide), hrest⟩
  rw [show (fresh screen display).lit = id from clearHighlight_lit (fresh screen display) screen]
  funext q
  exact (if_neg (show ¬ (0 : UInt8) < 0 by decide)).symm

theorem run_steady {screen : Screen} {display : Display} (h : display.Normal)
    (hrun : Run (step font4_5) (fun _ m => m.Fits) (fresh screen display) p) : p.Steady := by
  refine hrun.invariant (fun p => p.Steady) ?_ (fresh_steady screen h)
  intro p m q hp hm hq
  rcases step_steady font4_5 hp hm with ⟨r, hr, hnext, -⟩
  rw [Option.some.inj (hq.symm.trans hr)]
  exact hnext

/-- Whatever has been done before, a menu that is drawn is on the display, and stays there with
    the selection as keys are pressed. The selected row is between the title and the bar. No
    move goes on for ever. -/
theorem page_shown {screen : Screen} {display : Display} (hinit : display.Normal)
    (hrun : Run (step font4_5) (fun _ m => m.Fits) (fresh screen display) p) (hfits : m.Fits) :
    (∃ q, p.step font4_5 m = some q) ∧ (m.Draws → ∀ keys : List PageMove,
      (∀ k ∈ keys, k.Presses) → ∃ q, steps (step font4_5) p (m :: keys) = some q ∧
        q.Shown font4_5 ∧ (q.menuSelected.toNat < q.panel.rows.length →
          7 ≤ (top q.menuSelected q.menuScroll).toNat ∧
            (top q.menuSelected q.menuScroll).toNat ≤ 30)) := by
  have hsteady := run_steady font4_5 hinit hrun
  rcases step_steady font4_5 hsteady hfits with ⟨r, hr, hnext, hdraws, -⟩
  refine ⟨⟨r, hr⟩, fun hm keys hkeys => ?_⟩
  rcases presses_shown font4_5 hkeys hnext (hdraws hm) with ⟨q, hq, hend, hshown⟩
  refine ⟨q, ?_, hshown, fun hitem => ?_⟩
  · rw [steps, hr]
    exact hq
  · have hplace := (hend.place (hitem.trans_le q.panel.room)).toNat
    omega

/-- A menu of one item. -/
def oneItem : Panel where
  rows := [Row.item (fun _ => 0x55) (fun _ => 65) true]
  title := [77, 69, 78, 85]
  bar := some ([66, 65, 67, 75], [79, 75])
  room := Nat.succ_le_succ (Nat.zero_le _)

/-- A display that has been made ready. -/
def readyDisplay : Display :=
  Display.init { ram := fun _ _ => 0, x := 0, y := 0, vertical := false, extended := false } 5

/-- A menu is entered, and a key is pressed. -/
theorem page_shown_entered :
    (∃ q, (fresh (fun _ => 0) readyDisplay).step (fun _ => 3) (.enter oneItem) = some q) ∧
      ∃ q, steps (step fun _ => 3) (fresh (fun _ => 0) readyDisplay)
          [.enter oneItem, .down true oneItem] = some q ∧ q.Shown (fun _ => 3) ∧
        (q.menuSelected.toNat < q.panel.rows.length →
          7 ≤ (top q.menuSelected q.menuScroll).toNat ∧
            (top q.menuSelected q.menuScroll).toNat ≤ 30) := by
  have hkeys : ∀ k ∈ [PageMove.down true oneItem], k.Presses := by
    intro k hk
    rw [List.mem_singleton] at hk
    rw [hk]
    trivial
  have hshown := page_shown (fun _ => 3) (p := fresh (fun _ => 0) readyDisplay)
    (m := .enter oneItem) (Display.init_normal _ 5) .refl trivial
  exact ⟨hshown.1, hshown.2 trivial [.down true oneItem] hkeys⟩

theorem settle_lost (h : p.Ready) (hlost : p.menuSelected = 255) {menu : Panel} {q : Page}
    (hq : p.settle font4_5 menu = some q) : q.menuSelected = 255 := by
  unfold settle at hq
  by_cases hmoved : p.checkScroll.2 = true
  · rw [if_pos hmoved] at hq
    have hready : p.checkScroll.1.Ready := ⟨h.right, h.bottom, h.range, h.normal⟩
    rcases init_steady font4_5 hready menu with ⟨r, hr, -, -, -, -, hselected⟩
    rw [hr, Option.map_some, Option.some.injEq] at hq
    rw [← hq]
    refine hselected.trans ?_
    split
    · exact hlost
    · rfl
  · rw [if_neg hmoved, Option.some.injEq] at hq
    rw [← hq]
    exact hlost

/-- No row is selected beyond the last one. -/
theorem pick_lost (h : p.Ready) {menuItem : UInt8} (hitem : p.menuSize ≤ menuItem) {menu : Panel}
    {q : Page} (hq : ((p.select menuItem).bind fun p => p.settle font4_5 menu) = some q) :
    q.menuSelected = 255 := by
  have hnot : ¬ menuItem < p.menuSize := UInt8.not_lt.mpr hitem
  rcases select_selects h.right h.bottom (fun hlt => absurd hlt hnot) with ⟨r, hr, hselects⟩
  have hlost : r.menuSelected = 255 := hselects.menuSelected.trans (if_neg hnot)
  rw [hr, Option.bind_some] at hq
  refine settle_lost font4_5 ⟨hselects.right, hselects.bottom, Or.inr hlost, ?_⟩ hlost hq
  rw [hselects.display]
  exact h.normal

/-- One move that selects nothing by itself. -/
theorem step_lost (h : p.Steady) (hlost : p.menuSelected = 255) (hidle : m.Idle) {q : Page}
    (hq : p.step font4_5 m = some q) : q.menuSelected = 255 := by
  have hcount := h.count
  cases m with
  | paint screen display disableUpdate =>
      rw [← Option.some.inj hq]
      exact hlost
  | draw selected menu =>
      have hnone : selected = none := hidle
      rcases init_steady font4_5 h.toReady menu with ⟨r, hr, -, -, -, -, hselected⟩
      have hstep : p.step font4_5 (.draw selected menu) = some r.update := by
        unfold step
        rw [hnone]
        exact congrArg (Option.map update) hr
      rw [← Option.some.inj (hstep.symm.trans hq)]
      refine hselected.trans ?_
      split
      · exact hlost
      · rfl
  | enter menu => exact hidle.elim
  | up menuWrap menu =>
      have hup : 0 < p.menuSelected := by
        rw [hlost]
        decide
      have hend : p.menuSize ≤ p.menuSelected - 1 := by
        rw [hlost, UInt8.le_iff_toNat_le]
        have hval : (255 - 1 : UInt8).toNat = 254 := rfl
        omega
      have hmove : p.up font4_5 menuWrap menu = some q := hq
      unfold up at hmove
      rw [if_pos hup] at hmove
      exact pick_lost font4_5 h.toReady hend hmove
  | down menuWrap menu =>
      have hwrap : menuWrap = false := hidle
      have hlast : ¬ p.menuSelected.toNat + 1 < p.menuSize.toNat := by
        have hval : p.menuSelected.toNat = 255 := congrArg UInt8.toNat hlost
        omega
      have hmove : p.down font4_5 menuWrap menu = some q := hq
      unfold down at hmove
      rw [if_neg hlast, hwrap, if_neg Bool.false_ne_true] at hmove
      exact settle_lost font4_5 h.toReady hlost hmove

/-- When a menu has come to have no item for the selection, none is selected from then on, also
    if there are more items again: without `menuWrap` no key selects one. -/
theorem selection_lost {screen : Screen} {display : Display} (hinit : display.Normal)
    (hrun : Run (step font4_5) (fun _ m => m.Fits) (fresh screen display) p)
    (hlost : p.menuSelected = 255) {q : Page}
    (hidle : Run (step font4_5) (fun _ m => m.Fits ∧ m.Idle) p q) : q.menuSelected = 255 := by
  have hsteady := run_steady font4_5 hinit hrun
  have hboth : q.Steady ∧ q.menuSelected = 255 := by
    refine hidle.invariant (fun p => p.Steady ∧ p.menuSelected = 255) ?_ ⟨hsteady, hlost⟩
    intro p m q hp hm hq
    rcases step_steady font4_5 hp.1 hm.1 with ⟨r, hr, hnext, -⟩
    rw [Option.some.inj (hr.symm.trans hq)] at hnext
    exact ⟨hnext, step_lost font4_5 hp.1 hp.2 hm.2 hq⟩
  exact hboth.2

/-- A menu is drawn with a selection that it has no item for, and a key is pressed. -/
theorem selection_lost_drawn : ∃ p q : Page,
    Run (step fun _ => 3) (fun _ m => m.Fits) (fresh (fun _ => 0) readyDisplay) p ∧
      p.menuSelected = 255 ∧
      Run (step fun _ => 3) (fun _ m => m.Fits ∧ m.Idle) p q ∧ q.menuSelected = 255 := by
  have hnormal : readyDisplay.Normal := Display.init_normal _ 5
  have hfresh := fresh_steady (fun _ => 0) hnormal
  have hready := hfresh.toReady.choose (show (3 : UInt8).toNat < 44 by decide)
  rcases init_steady (fun _ => 3) hready oneItem with
    ⟨r, hr, hsteady, -, -, -, hselected⟩
  have hlost : r.update.menuSelected = 255 :=
    hselected.trans (if_neg (show ¬ (3 : Nat) < 1 by decide))
  have hdraw : (fresh (fun _ => 0) readyDisplay).step (fun _ => 3) (.draw (some 3) oneItem) =
      some r.update := congrArg (Option.map update) hr
  have hrun : Run (step fun _ => 3) (fun _ m => m.Fits) (fresh (fun _ => 0) readyDisplay)
      r.update :=
    .tail (.draw (some 3) oneItem) .refl (show (3 : Nat) < 44 by decide) hdraw
  rcases step_steady (fun _ => 3) (m := .up false oneItem) (update_steady hsteady)
    trivial with ⟨q, hq, -⟩
  have hidle : Run (step fun _ => 3) (fun _ m => m.Fits ∧ m.Idle) r.update q :=
    .tail (.up false oneItem) .refl ⟨trivial, rfl⟩ hq
  exact ⟨r.update, q, hrun, hlost, hidle, selection_lost (fun _ => 3) hnormal hrun hlost hidle⟩

end Page

end Menu

end TimelapsePlus
