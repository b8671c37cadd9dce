import Mathlib.Data.Nat.Count
import Mathlib.Logic.Function.Basic
import TimelapsePlus.Lib.Nesting
import TimelapsePlus.Menu.Alerts

/-!
# Going Back in the Menus

Where the menu stands is a menu and an item of it, and the item is counted among those
that are shown: whether one is depends on a condition that may change. What is put on the
stack is the place of the item in the table, counted among all of them. Going back counts
again.

A menu and a function are put there differently. Of a function it is the function that is
gone back to, and the menu behind it with its item are kept beside it.

What else moves the menu, a submenu that is opened, a function that is called, a key that
moves the selection, is any change of where it stands that leaves the stack alone.

## Main definitions

* `getIndex`, `getSelected`: The functions.
* `Navigator`: Where the menu stands, and the stack.
* `menuPush`, `push`, `pushType`, `back`: `MENU::push` and `MENU::back`.
* `NavMove`, `Navigator.step`: What may happen.
* `Navigator.Room`, `Navigator.Selected`: There is room on the stack, and an item.
* `Navigator.saved`: The stack, the latest first.
* `Navigator.outline`: What the rest of the menu is modelled with.

## Theorems

* `getIndex_spec`, `getSelected_eq`: The functions by what they count.
* `push_saved`, `back_saved`: What is put on the stack, and what is made of it.
* `navigation_returns`: Going back comes to where the matching push was.
* `outline_pushAs`, `outline_back`: The stack of the other model.
-/

namespace TimelapsePlus

namespace Menu

/-- `MENU_MAX`. -/
def menuMax : Nat := 44

/-- An item is shown if it has no condition, or the condition holds. -/
def shown (condition : Option Nat) : Bool :=
  match condition with
  | none => true
  | some c => c ≠ 0

/-- The loop of `getIndex`, with so many items left. -/
def getIndexFrom (cmenu : Nat → Option Nat) (selected index i : Nat) : Nat → Nat
  | 0 => index
  | n + 1 =>
    if shown (cmenu index) then
      if selected = i then index else getIndexFrom cmenu selected (index + 1) (i + 1) n
    else getIndexFrom cmenu selected (index + 1) i n

/-- `MENU::getIndex`: the place of an item in the table. -/
def getIndex (cmenu : Nat → Option Nat) (selected : Nat) : Nat :=
  getIndexFrom cmenu selected 0 0 menuMax

/-- The loop of `getSelected`. -/
def getSelectedFrom (cmenu : Nat → Option Nat) (index ind i : Nat) : Nat → Nat
  | 0 => i
  | n + 1 =>
    if index = ind then i
    else getSelectedFrom cmenu index (ind + 1) (if shown (cmenu ind) then i + 1 else i) n

/-- `MENU::getSelected`: its place among the items that are shown. -/
def getSelected (cmenu : Nat → Option Nat) (index : Nat) : Nat :=
  getSelectedFrom cmenu index 0 0 menuMax

/-- How many of the first items are shown. -/
def shownBefore (cmenu : Nat → Option Nat) (n : Nat) : Nat :=
  Nat.count (fun k => shown (cmenu k) = true) n

section Items

variable (cmenu : Nat → Option Nat)

theorem shownBefore_succ (n : Nat) :
    shownBefore cmenu (n + 1) = if shown (cmenu n) then shownBefore cmenu n + 1
      else shownBefore cmenu n := by
  unfold shownBefore
  rw [Nat.count_succ]
  by_cases hshown : shown (cmenu n) = true
  · rw [if_pos hshown, if_pos hshown]
  · rw [if_neg hshown, if_neg hshown, Nat.add_zero]

/-- The loop counts up to the item it is given. -/
theorem getSelectedFrom_eq (index ind n : Nat) (hind : ind ≤ index) (hn : index ≤ ind + n) :
    getSelectedFrom cmenu index ind (shownBefore cmenu ind) n = shownBefore cmenu index := by
  induction n generalizing ind with
  | zero =>
      rw [getSelectedFrom, Nat.le_antisymm hind hn]
  | succ n ih =>
      rw [getSelectedFrom]
      by_cases heq : index = ind
      · rw [if_pos heq, heq]
      · rw [if_neg heq, ← shownBefore_succ]
        exact ih (ind + 1) (by omega) (by omega)

/-- The loop finds the item with so many before it. -/
theorem getIndexFrom_spec (selected index n : Nat) (hlo : shownBefore cmenu index ≤ selected)
    (hhi : selected < shownBefore cmenu (index + n)) :
    getIndexFrom cmenu selected index (shownBefore cmenu index) n ≤ index + n ∧
      shownBefore cmenu (getIndexFrom cmenu selected index (shownBefore cmenu index) n) =
        selected := by
  induction n generalizing index with
  | zero => exact absurd (hlo.trans_lt hhi) (Nat.lt_irrefl _)
  | succ n ih =>
      have hsucc := shownBefore_succ cmenu index
      have hmore : index + 1 + n = index + (n + 1) := by omega
      rw [getIndexFrom]
      by_cases hshown : shown (cmenu index) = true
      · -- The item counts, and it may be the one looked for.
        rw [if_pos hshown] at hsucc ⊢
        by_cases hfound : selected = shownBefore cmenu index
        · rw [if_pos hfound]
          exact ⟨by omega, hfound.symm⟩
        · rw [if_neg hfound, ← hsucc, ← hmore]
          exact ih (index + 1) (by omega) (by rw [hmore]; exact hhi)
      · -- A hidden item is passed over.
        rw [if_neg hshown] at hsucc ⊢
        rw [← hsucc, ← hmore]
        exact ih (index + 1) (by omega) (by rw [hmore]; exact hhi)

/-- An item that is shown is found again. -/
theorem getSelected_getIndex (selected : Nat) (h : selected < shownBefore cmenu menuMax) :
    getSelected cmenu (getIndex cmenu selected) = selected := by
  have hzero : shownBefore cmenu 0 = 0 := Nat.count_zero _
  -- The loop that finds the place, and the one that counts up to it.
  have hspec := getIndexFrom_spec cmenu selected 0 menuMax (by omega)
    (by rw [Nat.zero_add]; exact h)
  rw [hzero] at hspec
  have hcount := getSelectedFrom_eq cmenu (getIndex cmenu selected) 0 menuMax (Nat.zero_le _)
    hspec.1
  rw [hzero] at hcount
  exact hcount.trans hspec.2

end Items

/-- `menu_stack`. The type is zero for a menu and one for a function. -/
structure StackEntry where
  index : Nat
  type : Nat
  item : Nat
  menuBackup : Nat
deriving Repr, DecidableEq

/-- Where the menu stands, and the stack. -/
structure Navigator where
  menu : Nat
  menuSelected : Nat
  func : Nat
  state : St
  stack : Nat → StackEntry
  stackCounter : Nat

/-- What may happen. `go` is anything that leaves the stack alone. -/
inductive NavMove
  | push
  | pushType (type : Nat)
  | back
  | go (menu menuSelected func : Nat) (state : St)
deriving Repr, DecidableEq

/-- A push of either kind. -/
def NavMove.Pushes : NavMove → Prop
  | .push => True
  | .pushType _ => True
  | _ => False

namespace Navigator

variable (tables : Nat → Nat → Option Nat)

/-- `MENU::menu_push`. -/
def menuPush (s : Navigator) (itemAddr selection type : Nat) : Navigator :=
  if s.stackCounter < menuStackSize then
    let e := { s.stack s.stackCounter with type := type, item := itemAddr }
    let e :=
      if type = 0 then { e with index := getIndex (tables itemAddr) selection }
      else { e with index := getIndex (tables s.menu) s.menuSelected, menuBackup := s.menu }
    { s with
      stack := Function.update s.stack s.stackCounter e
      stackCounter := s.stackCounter + 1 }
  else s

/-- `MENU::push` with a type. -/
def pushType (s : Navigator) (type : Nat) : Navigator :=
  if type = 1 then s.menuPush tables s.func 0 1 else s.menuPush tables s.menu s.menuSelected 0

/-- `MENU::push`. -/
def push (s : Navigator) : Navigator :=
  if s.state = .func then s.menuPush tables s.func 0 1
  else s.menuPush tables s.menu s.menuSelected 0

/-- `MENU::back`. -/
def back (s : Navigator) : Navigator :=
  if 0 < s.stackCounter then
    let e := s.stack (s.stackCounter - 1)
    let s := { s with stackCounter := s.stackCounter - 1 }
    if e.type = 1 then
      { s with
        func := e.item
        menuSelected := getSelected (tables e.menuBackup) e.index
        menu := e.menuBackup
        state := .spawn }
    else
      { s with
        menuSelected := getSelected (tables e.item) e.index
        menu := e.item
        state := .menu }
  else s

/-- What happens. -/
def step (s : Navigator) : NavMove → Option Navigator
  | .push => some (s.push tables)
  | .pushType type => some (s.pushType tables type)
  | .back => some (s.back tables)
  | .go menu menuSelected func state => some { s with
      menu := menu
      menuSelected := menuSelected
      func := func
      state := state }

/-- A push is made while there is room on the stack. -/
def Room (s : Navigator) (m : NavMove) : Prop := m.Pushes → s.stackCounter < menuStackSize

/-- It is one of the items that are shown that is selected. -/
def Selected (s : Navigator) : Prop := s.menuSelected < shownBefore (tables s.menu) menuMax

instance (s : Navigator) : Decidable (Selected tables s) := inferInstanceAs (Decidable (_ < _))

/-- The stack, the latest first. -/
def saved (s : Navigator) : List StackEntry := ((List.range s.stackCounter).map s.stack).reverse

/-- It is a function that a push puts on the stack. -/
def PushesFunction (s : Navigator) : NavMove → Prop
  | .push => s.state = .func
  | .pushType type => type = 1
  | _ => False

variable {tables} {s t : Navigator}

theorem saved_length (s : Navigator) : s.saved.length = s.stackCounter := by
  rw [saved, List.length_reverse, List.length_map, List.length_range]

/-- One more entry is on the stack. -/
theorem saved_update (s : Navigator) (e : StackEntry) :
    ({ s with
      stack := Function.update s.stack s.stackCounter e
      stackCounter := s.stackCounter + 1 } : Navigator).saved = e :: s.saved := by
  -- What is below the top is not written.
  have hbelow : (List.range s.stackCounter).map (Function.update s.stack s.stackCounter e) =
      (List.range s.stackCounter).map s.stack := by
    refine List.map_congr_left fun i hi => ?_
    exact Function.update_of_ne (List.mem_range.mp hi).ne _ _
  simp only [saved]
  rw [List.range_succ, List.map_append, hbelow, List.reverse_append, List.map_singleton,
    Function.update_self]
  rfl

/-- An entry says where the menu stands: the menu and its item, and the function if it is
    one that was put there. -/
structure Marks (tables : Nat → Nat → Option Nat) (s : Navigator) (function : Prop)
    (e : StackEntry) : Prop where
  index : e.index = getIndex (tables s.menu) s.menuSelected
  menu : ¬ function → e.type = 0 ∧ e.item = s.menu
  function : function → e.type = 1 ∧ e.item = s.func ∧ e.menuBackup = s.menu

theorem menuPush_function {function : Prop} (hfunction : function)
    (hroom : s.stackCounter < menuStackSize) :
    ∃ e, (s.menuPush tables s.func 0 1).saved = e :: s.saved ∧ Marks tables s function e := by
  unfold menuPush
  rw [if_pos hroom]
  exact ⟨_, saved_update s _, rfl, fun h => absurd hfunction h, fun _ => ⟨rfl, rfl, rfl⟩⟩

theorem menuPush_menu {function : Prop} (hmenu : ¬ function)
    (hroom : s.stackCounter < menuStackSize) :
    ∃ e, (s.menuPush tables s.menu s.menuSelected 0).saved = e :: s.saved ∧
      Marks tables s function e := by
  unfold menuPush
  rw [if_pos hroom]
  exact ⟨_, saved_update s _, rfl, fun _ => ⟨rfl, rfl⟩, fun h => absurd h hmenu⟩

/-- A push puts on the stack where the menu stands. -/
theorem push_saved {m : NavMove} (hpush : m.Pushes) (hok : Room s m)
    (hstep : s.step tables m = some t) :
    ∃ e, t.saved = e :: s.saved ∧ Marks tables s (s.PushesFunction m) e := by
  have hroom := hok hpush
  cases m with
  | push =>
      cases hstep
      unfold push
      by_cases hfunc : s.state = .func
      · rw [if_pos hfunc]
        exact menuPush_function hfunc hroom
      · rw [if_neg hfunc]
        exact menuPush_menu hfunc hroom
  | pushType type =>
      cases hstep
      unfold pushType
      by_cases htype : type = 1
      · rw [if_pos htype]
        exact menuPush_function htype hroom
      · rw [if_neg htype]
        exact menuPush_menu htype hroom
  | back => exact hpush.elim
  | go menu menuSelected func state => exact hpush.elim

/-- The latest entry is the one at the top. -/
theorem saved_cons {e : StackEntry} {fs : List StackEntry} (h : s.saved = e :: fs) :
    0 < s.stackCounter ∧ s.stack (s.stackCounter - 1) = e ∧
      ((List.range (s.stackCounter - 1)).map s.stack).reverse = fs := by
  have hlength := s.saved_length
  rw [h, List.length_cons] at hlength
  have hsucc : s.stackCounter = s.stackCounter - 1 + 1 := by omega
  rw [saved, hsucc, List.range_succ, List.map_append, List.reverse_append, List.map_singleton] at h
  have hcons := List.cons.inj h
  exact ⟨by omega, hcons.1, hcons.2⟩

/-- Going back takes the latest off. -/
theorem back_saved {e : StackEntry} {fs : List StackEntry} (h : s.saved = e :: fs) :
    (s.back tables).saved = fs := by
  rcases saved_cons h with ⟨hpos, htop, hrest⟩
  unfold back
  rw [if_pos hpos]
  simp only
  split
  · exact hrest
  · exact hrest

/-- And it comes to where it says. -/
theorem back_marks {e : StackEntry} {fs : List StackEntry} {s₀ : Navigator} {function : Prop}
    (h : s.saved = e :: fs) (hmarks : Marks tables s₀ function e)
    (hselected : Selected tables s₀) :
    (s.back tables).menu = s₀.menu ∧ (s.back tables).menuSelected = s₀.menuSelected ∧
      (function → (s.back tables).func = s₀.func ∧ (s.back tables).state = .spawn) ∧
      (¬ function → (s.back tables).state = .menu) := by
  have hfound := getSelected_getIndex (tables s₀.menu) s₀.menuSelected hselected
  rcases saved_cons h with ⟨hpos, htop, -⟩
  unfold back
  rw [if_pos hpos, htop]
  -- The place is looked up in the menu it was worked out for.
  by_cases hfunction : function
  · rcases hmarks.function hfunction with ⟨htype, hitem, hbackup⟩
    rw [if_pos htype, hmarks.index, hitem, hbackup, hfound]
    exact ⟨rfl, rfl, fun _ => ⟨rfl, rfl⟩, fun h => absurd hfunction h⟩
  · rcases hmarks.menu hfunction with ⟨htype, hitem⟩
    rw [if_neg (by omega), hmarks.index, hitem, hfound]
    exact ⟨rfl, rfl, fun h => absurd h hfunction, fun _ => rfl⟩

end Navigator

/-- An entry without its place. -/
def StackEntry.left (e : StackEntry) : Left :=
  if e.type = 1 then .function e.item e.menuBackup else .menu e.item

namespace Navigator

variable {tables : Nat → Nat → Option Nat} {s : Navigator}

/-- The menu as it is modelled without the items. -/
def outline (s : Navigator) (m : MenuState) : MenuState :=
  { m with
    state := s.state
    menu := s.menu
    func := s.func
    stack := s.saved.map StackEntry.left }

theorem outline_stack_length (s : Navigator) (m : MenuState) :
    (s.outline m).stack.length = s.stackCounter := by
  simp only [outline, List.length_map, saved_length]

/-- What is put on the stack is what that model puts on its. -/
theorem outline_menuPush (s : Navigator) (m : MenuState) (itemAddr selection type : Nat) :
    (s.menuPush tables itemAddr selection type).outline m =
      (s.outline m).menuPush
        (if type = 1 then .function itemAddr s.menu else .menu itemAddr) := by
  unfold MenuState.menuPush menuPush
  rw [outline_stack_length]
  by_cases hroom : s.stackCounter < menuStackSize
  · rw [if_pos hroom, if_pos hroom]
    simp only [outline, saved_update, List.map_cons]
    by_cases hmenu : type = 0
    · subst hmenu
      rfl
    · rw [if_neg hmenu]
      rfl
  · rw [if_neg hroom, if_neg hroom]

/-- A push with a type is the one of that model. -/
theorem outline_pushAs (s : Navigator) (m : MenuState) (function : Bool) :
    (s.pushType tables (if function then 1 else 0)).outline m =
      (s.outline m).pushAs function := by
  cases function with
  | true => exact outline_menuPush s m s.func 0 1
  | false => exact outline_menuPush s m s.menu s.menuSelected 0

/-- And so is a push without. -/
theorem outline_push (s : Navigator) (m : MenuState) :
    (s.push tables).outline m = (s.outline m).push := by
  have hstate : (s.outline m).state = s.state := rfl
  unfold push MenuState.push
  rw [hstate]
  by_cases hfunc : s.state = .func
  · rw [if_pos hfunc, decide_eq_true hfunc]
    exact outline_pushAs s m true
  · rw [if_neg hfunc, decide_eq_false hfunc]
    exact outline_pushAs s m false

/-- Going back, too. -/
theorem outline_back (s : Navigator) (m : MenuState) :
    (s.back tables).outline m = (s.outline m).back := by
  cases hsaved : s.saved with
  | nil =>
      have hnone : s.stackCounter = 0 := by
        rw [← s.saved_length, hsaved]
        rfl
      unfold back MenuState.back
      rw [if_neg (by omega)]
      simp only [outline, hsaved, List.map_nil]
  | cons e fs =>
      rcases saved_cons hsaved with ⟨hpos, htop, -⟩
      have hrest : (s.back tables).saved = fs := back_saved hsaved
      unfold outline
      rw [hrest]
      unfold back MenuState.back
      rw [if_pos hpos, htop, hsaved, List.map_cons]
      unfold StackEntry.left
      by_cases htype : e.type = 1
      · rw [if_pos htype]
        simp only [htype, if_true]
      · rw [if_neg htype]
        simp only [htype, if_false]

end Navigator

open Navigator in
/-- An item that is shown is found again by its place, and going back comes to where the
    matching push was. -/
theorem navigation_returns :
    (∀ (cmenu : Nat → Option Nat) (selected : Nat), selected < shownBefore cmenu menuMax →
      getSelected cmenu (getIndex cmenu selected) = selected) ∧
    ∀ (tables : Nat → Nat → Option Nat) (s t : Navigator) (m : NavMove) (ms : List NavMove),
      m.Pushes → Selected tables s → Balanced NavMove.Pushes (fun m => m = .back) ms →
      Path (step tables) Room s (m :: (ms ++ [.back])) t →
      t.menu = s.menu ∧ t.menuSelected = s.menuSelected ∧ t.saved = s.saved ∧
        (s.PushesFunction m → t.func = s.func ∧ t.state = .spawn) ∧
        (¬ s.PushesFunction m → t.state = .menu) := by
  refine ⟨getSelected_getIndex, fun tables s t m ms hpush hselected hbalanced hpath => ?_⟩
  cases hpath with
  | cons _ _ hok hstep hrest =>
      rcases hrest.append_inv with ⟨u, hinner, hlast⟩
      rcases push_saved hpush hok hstep with ⟨e, hsaved, hmarks⟩
      -- The entry is still the latest where the back key is pressed.
      have hkept := hbalanced.keeps saved
        (fun s m t hopens hok hstep => by
          rcases push_saved hopens hok hstep with ⟨e, hsaved, -⟩
          exact ⟨e, hsaved⟩)
        (fun s m t e fs hcloses hstep hsaved => by
          subst hcloses
          cases hstep
          exact back_saved hsaved)
        (fun s m t hopens hcloses hstep => by
          cases m with
          | push => exact absurd trivial hopens
          | pushType type => exact absurd trivial hopens
          | back => exact absurd rfl hcloses
          | go menu menuSelected func state =>
              cases hstep
              rfl)
        hinner
      have htop := hkept.trans hsaved
      cases hlast with
      | cons _ _ _ hback hnil =>
          cases hnil
          cases hback
          rcases back_marks htop hmarks hselected with ⟨hmenu, hitem, hfunction, hplain⟩
          exact ⟨hmenu, hitem, back_saved htop, hfunction, hplain⟩

/-- A table whose second item is hidden, wherever it is. -/
def secondHidden (_ i : Nat) : Option Nat := if i = 1 then some 0 else none

/-- The second of the items that are shown is selected. -/
def atSecond : Navigator where
  menu := 10
  menuSelected := 1
  func := 0
  state := .cont
  stack _ := ⟨0, 0, 0, 0⟩
  stackCounter := 0

/-- A submenu is opened, and a function is called from it that opens another. -/
def twoDeep : List NavMove := [.go 20 0 7 .func, .push, .go 30 2 7 .menu, .back]

/-- Both are gone back from. -/
theorem navigation_returns_second : ∃ t,
    Path (Navigator.step secondHidden) Navigator.Room atSecond (.push :: (twoDeep ++ [.back])) t ∧
      t.menu = 10 ∧ t.menuSelected = 1 := by
  have hinner : Balanced NavMove.Pushes (fun m => m = .back) twoDeep := by
    refine .plain (NavMove.go 20 0 7 .func) _ id NavMove.noConfusion ?_
    refine .nest NavMove.push [NavMove.go 30 2 7 .menu] NavMove.back [] trivial ?_ rfl .nil
    exact .plain _ _ id NavMove.noConfusion .nil
  have hpath : ∃ t, Path (Navigator.step secondHidden) Navigator.Room atSecond
      (.push :: (twoDeep ++ [.back])) t := by
    refine ⟨_, .cons _ _ (fun _ => by decide) rfl (.cons _ _ (fun h => h.elim) rfl
      (.cons _ _ (fun _ => by decide) rfl (.cons _ _ (fun h => h.elim) rfl
        (.cons _ _ (fun h => h.elim) rfl (.cons _ _ (fun h => h.elim) rfl (.nil _))))))⟩
  rcases hpath with ⟨t, hpath⟩
  have hreturns := navigation_returns.2 secondHidden atSecond t .push twoDeep trivial (by decide)
    hinner hpath
  exact ⟨t, hpath, hreturns.1, hreturns.2.1⟩

end Menu

end TimelapsePlus
