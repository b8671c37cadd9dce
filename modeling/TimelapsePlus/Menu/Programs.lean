import Mathlib.Data.Fintype.Basic
import Mathlib.Data.List.FinRange
import Mathlib.Logic.Function.Basic
import TimelapsePlus.Menu.Alerts

/-!
# Saving and Loading Programs

There are four slots for programs in the EEPROM, and a fifth for the program in use.
The first is for the default. A slot is empty if its name begins with 255, as it does
after a program has been deleted.

Save As asks `nextId` for the first empty slot past the default, and there is none if
the answer is negative. The answer is kept in a `char`, which is unsigned in this build
and never negative: no lack of space is noticed, and the program is saved to slot 255,
which is outside the array. Such a write has no result here.

The list of the programs is built with two counters that are always the same. It ends
below `MAX_STORED` like the search for an empty slot, but it is the slot before that
is looked at, so that the last one is never listed.

## Main definitions

* `Program`, `Timer`: A program, and the slots.
* `Timer.save`, `Timer.load`, `Timer.nextId`: `shutter::save`, `load` and `nextId`.
* `editText`, `saveAs`: `MENU::editText` and `shutter_saveAs`.
* `session`: The menu calls Save As with one key after the other.
* `listing`, `shutterLoad`: The list, and `shutter_load`.
* `SavesApart`: Save As writes to an empty slot or says that there is none.
* `Offers`: The list has the slots that are occupied.

## Theorems

* `session_cases`: How a session ends.
* `savesApart_iff`, `offers_iff`: When each of them is right.
* `keepsPrograms_iff`: Both are while the last slot is empty.
* `full_destroys`: With all slots occupied neither is.
-/

namespace TimelapsePlus

namespace Menu

namespace Programs

def maxStored : Nat := 4

/-- A program: its name, and the rest of it. -/
structure Program (ρ : Type) where
  name : Fin 12 → UInt8
  rest : ρ

/-- The programs that are stored, the one in use after the others, and the program in
    memory with the slot it is from. -/
structure Timer (ρ : Type) where
  stored : Fin (maxStored + 1) → Program ρ
  current : Program ρ
  currentId : UInt8

variable {ρ : Type}

/-- An empty slot, by its name. -/
def Program.Empty (p : Program ρ) : Prop := p.name 0 = 255

instance (p : Program ρ) : Decidable p.Empty := inferInstanceAs (Decidable (p.name 0 = 255))

namespace Timer

/-- `shutter::save`. -/
def save (t : Timer ρ) (id : UInt8) : Option (Timer ρ) :=
  if h : id.toNat < maxStored + 1 then
    some { t with stored := Function.update t.stored ⟨id.toNat, h⟩ t.current, currentId := id }
  else none

/-- `shutter::load`. -/
def load (t : Timer ρ) (id : UInt8) : Option (Timer ρ) :=
  if h : id.toNat < maxStored + 1 then
    some { t with current := t.stored ⟨id.toNat, h⟩, currentId := id }
  else none

/-- `shutter::nextId`. -/
def nextId (t : Timer ρ) : Int8 :=
  match [1, 2, 3].find? fun i => decide (t.stored i).Empty with
  | some i => Int8.ofNat i.val
  | none => -1

end Timer

section SaveAs

/-- A character that is no letter and no digit. -/
def noText (c : UInt8) : Bool := decide ((c < 65 ∨ 90 < c) ∧ (c < 48 ∨ 57 < c))

/-- The character at the cursor is turned up, or down. -/
def turnUp (c : UInt8) : UInt8 :=
  if (65 < c ∨ 48 < c) ∧ (c ≤ 57 ∨ c ≤ 90) then c - 1
  else if c = 65 then 32
  else if c = 32 then 57
  else 90

def turnDown (c : UInt8) : UInt8 :=
  if (c < 90 ∨ c < 57) ∧ (48 ≤ c ∨ 65 ≤ c) then c + 1
  else if c = 90 then 48
  else if c = 32 then 65
  else 48

/-- `MENU::editText`: the text, the cursor, and what is returned. -/
def editText (key : Key) (text : Fin 12 → UInt8) (i : Fin 11) (first : Bool) :
    (Fin 12 → UInt8) × Fin 11 × Fn :=
  let i := if first = true then 0 else i
  let (text, i, first) :=
    match key with
    | .left => (text, if 0 < i then i - 1 else 10, true)
    | .right => (text, if i < 10 then i + 1 else 0, true)
    | .up => (Function.update text i.castSucc (turnUp (text i.castSucc)), i, true)
    | .down => (Function.update text i.castSucc (turnDown (text i.castSucc)), i, true)
    | _ => (text, i, first)
  -- What is drawn is written back as it is drawn.
  let text := if first = true then
      fun c => if c.val < 11 ∧ noText (text c) = true then 32 else text c
    else text
  match key with
  | .fl => (text, i, .cancel)
  | .fr => (text, i, .save)
  | _ => (text, i, .goOn)

/-- `strcpy` of a name. -/
def strcpy (dst src : Fin 12 → UInt8) : Fin 12 → UInt8 :=
  fun c => if ∀ d < c, src d ≠ 0 then src c else dst c

inductive Message
  | noSpace
  | saved
  deriving DecidableEq

/-- What Save As keeps from one call to the next: the name, the slot to save to, and the
    cursor of the editor. -/
structure SaveAs (ρ : Type) where
  timer : Timer ρ
  name : Fin 12 → UInt8
  newId : UInt8
  i : Fin 11

/-- What a call of Save As comes to: what is kept, what it returns, and its message. -/
structure Result (ρ : Type) where
  state : SaveAs ρ
  ret : Fn
  message : Option Message

/-- `shutter_saveAs`, once it is settled which slot is saved to. -/
def SaveAs.edit (s : SaveAs ρ) (key : Key) (first : Bool) : Option (Result ρ) :=
  let (name, i, ret) := editText key s.name s.i first
  match ret with
  | .save =>
      let name := Function.update name 11 0
      let current := { s.timer.current with name := strcpy s.timer.current.name name }
      ({ s.timer with current := current }.save s.newId).map fun t =>
        ⟨⟨t, fun _ => 0, s.newId, i⟩, .save, some .saved⟩
  | .cancel => some ⟨{ s with name := fun _ => 0, i := i }, .cancel, none⟩
  | ret => some ⟨{ s with name := name, i := i }, ret, none⟩

/-- `shutter_saveAs`. -/
def SaveAs.call (s : SaveAs ρ) (key : Key) (first : Bool) : Option (Result ρ) :=
  if first = true then
    let newId := s.timer.nextId.toUInt8
    if (newId.toNat : Int) < 0 then some ⟨{ s with newId := newId }, .cancel, some .noSpace⟩
    else { s with newId := newId }.edit key true
  else s.edit key false

/-- Calls until one is the last, or the keys are. -/
def SaveAs.calls (s : SaveAs ρ) : List Key → Option (Result ρ)
  | [] => some ⟨s, .goOn, none⟩
  | key :: keys =>
    match s.call key false with
    | some ⟨s, .goOn, _⟩ => s.calls keys
    | r => r

/-- Save As is opened, and called with one key after the other. -/
def session (s : SaveAs ρ) (key : Key) (keys : List Key) : Option (Result ρ) :=
  match s.call key true with
  | some ⟨s, .goOn, _⟩ => s.calls keys
  | r => r

end SaveAs

section Load

/-- What the list keeps from one call to the next. -/
structure Loading where
  menuSize : Nat
  menuSelected : Nat
  itemSelected : UInt8

/-- A line of the list: its slot, and the text, if it is drawn. -/
structure Line where
  slot : Fin (maxStored + 1)
  text : Option (List UInt8)

/-- The text of a name: up to the zero, with blanks for what is no text. -/
def nameText (p : Program ρ) : List UInt8 :=
  (((List.finRange 12).map p.name).takeWhile fun c => decide (c ≠ 0)).map fun c =>
    if noText c = true then 32 else c

/-- A line of the list, for where it is scrolled to, if the slot has one. The lines are
    counted from one. -/
def line (t : Timer ρ) (menuScroll : Nat) (slot : Fin (maxStored + 1)) : Option Line :=
  let p := t.stored slot
  if p.name 0 = 0 ∨ p.name 0 = 255 then none
  else some ⟨slot,
    if menuScroll ≤ slot.val + 1 ∧ slot.val + 1 ≤ menuScroll + 5 then some (nameText p) else none⟩

/-- The list. The loop ends below `MAX_STORED`, and the slot is the one before. -/
def listing (t : Timer ρ) (menuScroll : Nat) : List Line :=
  [1, 2, 3].filterMap fun i => line t menuScroll (i - 1)

/-- What a call of the list comes to: what is kept, the lines if it is drawn, and what it
    returns. -/
structure Loaded (ρ : Type) where
  timer : Timer ρ
  state : Loading
  lines : Option (List Line)
  ret : Fn

/-- `shutter_load`. Where the list is scrolled to is not set but in the first call and past
    the third line, and is whatever it is else. -/
def shutterLoad (t : Timer ρ) (l : Loading) (key : Key) (first : Bool) (menuScroll : Nat) :
    Option (Loaded ρ) :=
  let up := key = .up ∧ 0 < l.menuSelected
  let down := key = .down ∧ l.menuSelected + 1 < l.menuSize
  let menuSelected :=
    if up then l.menuSelected - 1 else if down then l.menuSelected + 1 else l.menuSelected
  let drawn : Loading × Option (List Line) :=
    if first = true ∨ up ∨ down then
      let menuScroll := if 2 < menuSelected then menuSelected - 2
        else if first = true then 0 else menuScroll
      let lines := listing t menuScroll
      let itemSelected := match lines[menuSelected]? with
        | some ⟨slot, some _⟩ => UInt8.ofNat slot.val
        | _ => l.itemSelected
      let menuSelected := if lines.length < menuSelected + 1 ∧ 0 < menuSelected
        then menuSelected - 1 else menuSelected
      (⟨lines.length, menuSelected, itemSelected⟩, some lines)
    else ({ l with menuSelected := menuSelected }, none)
  match key with
  | .fl => some ⟨t, drawn.1, drawn.2, if 0 < drawn.1.itemSelected then .jump else .goOn⟩
  | .left => some ⟨t, drawn.1, drawn.2, .cancel⟩
  | .fr | .right => (t.load drawn.1.itemSelected).map fun t => ⟨t, drawn.1, drawn.2, .save⟩
  | _ => some ⟨t, drawn.1, drawn.2, .goOn⟩

end Load

section Wanted

/-- The slots that are occupied. -/
def occupied (t : Timer ρ) : List (Fin (maxStored + 1)) :=
  [0, 1, 2, 3].filter fun i => decide ¬ (t.stored i).Empty

/-- What a session of Save As may come to: what it writes to was an empty slot, and if there
    is none it says so and writes nothing. -/
structure Apart (t : Timer ρ) (r : Result ρ) : Prop where
  writes : ∃ i, (i.val < maxStored ∧ (t.stored i).Empty ∨ r.state.timer.stored i = t.stored i) ∧
    ∀ j, j ≠ i → r.state.timer.stored j = t.stored j
  full : (∀ i, i.val < maxStored → ¬ (t.stored i).Empty) →
    r.message = some .noSpace ∧ r.state.timer.stored = t.stored

/-- Every session of Save As comes to something, and to that. -/
def SavesApart (t : Timer ρ) : Prop :=
  ∀ name newId i key keys, ∃ r, session ⟨t, name, newId, i⟩ key keys = some r ∧ Apart t r

/-- The list, as it is drawn when it is opened, has the slots that are occupied. -/
def Offers (t : Timer ρ) : Prop :=
  ∀ l key menuScroll, ∀ r ∈ shutterLoad t l key true menuScroll,
    ∃ lines, r.lines = some lines ∧ lines.map Line.slot = occupied t

end Wanted

section Saving

variable {s : SaveAs ρ} {t : Timer ρ}

/-- A slot of the array is saved to, and no other. -/
theorem save_of_lt {id : UInt8} (hid : id.toNat < maxStored + 1) :
    ∃ t', t.save id = some t' ∧ ∀ j, j.val ≠ id.toNat → t'.stored j = t.stored j := by
  refine ⟨_, dif_pos hid, fun j hj => ?_⟩
  exact Function.update_of_ne (fun heq => hj (congrArg Fin.val heq)) _ _

/-- A call that has a slot comes to something, and leaves the others as they are. Until the
    last call nothing is saved. -/
theorem edit_cases (hid : s.newId.toNat < maxStored + 1) (key : Key) (first : Bool) :
    ∃ r, s.edit key first = some r ∧
      (∀ j, j.val ≠ s.newId.toNat → r.state.timer.stored j = s.timer.stored j) ∧
      (r.ret = .goOn → r.state.timer = s.timer ∧ r.state.newId = s.newId) := by
  unfold SaveAs.edit
  generalize editText key s.name s.i first = e
  rcases e with ⟨name, i, ret⟩
  cases ret with
  | save =>
      -- The name is cut to its length, and the program is saved to the slot.
      rcases save_of_lt (t := { s.timer with
        current := { s.timer.current with
          name := strcpy s.timer.current.name (Function.update name 11 0) } }) hid with ⟨t', ht, hj⟩
      refine ⟨⟨⟨t', fun _ => 0, s.newId, i⟩, .save, some .saved⟩, ?_, hj, fun h => by cases h⟩
      simp only [ht, Option.map_some]
  | cancel => exact ⟨_, rfl, fun _ _ => rfl, fun h => by cases h⟩
  | goOn => exact ⟨_, rfl, fun _ _ => rfl, fun _ => ⟨rfl, rfl⟩⟩
  | jump => exact ⟨_, rfl, fun _ _ => rfl, fun h => by cases h⟩

theorem calls_cases (hid : s.newId.toNat < maxStored + 1) (keys : List Key) :
    ∃ r, s.calls keys = some r ∧
      ∀ j, j.val ≠ s.newId.toNat → r.state.timer.stored j = s.timer.stored j := by
  induction keys generalizing s with
  | nil => exact ⟨_, rfl, fun _ _ => rfl⟩
  | cons key keys ih =>
      rcases edit_cases hid key false with ⟨⟨s', ret, message⟩, hedit, hj, hgo⟩
      have hcall : s.call key false = some ⟨s', ret, message⟩ := hedit
      unfold SaveAs.calls
      rw [hcall]
      cases ret with
      | goOn =>
          -- The next call has the same slots and the same number.
          rcases hgo rfl with ⟨htimer, hnew⟩
          simp only at htimer hnew
          rcases ih (s := s') (by rwa [hnew]) with ⟨r, hr, hj'⟩
          rw [htimer, hnew] at hj'
          exact ⟨r, hr, hj'⟩
      | cancel => exact ⟨_, rfl, hj⟩
      | save => exact ⟨_, rfl, hj⟩
      | jump => exact ⟨_, rfl, hj⟩

/-- The slots past the first, as they are answered and kept. -/
theorem kept_slot : ∀ i : Fin (maxStored + 1), i ∈ [1, 2, 3] →
    (Int8.ofNat i.val).toUInt8.toNat = i.val ∧ i.val < maxStored := by
  decide

/-- What `nextId` answers, as it is kept: an empty slot past the first, or 255. -/
theorem nextId_cases (t : Timer ρ) :
    (∃ i ∈ [1, 2, 3], t.nextId.toUInt8.toNat = i.val ∧ i.val < maxStored ∧
        (t.stored i).Empty) ∨
      t.nextId.toUInt8 = 255 ∧ ∀ i, i ∈ [1, 2, 3] → ¬ (t.stored i).Empty := by
  unfold Timer.nextId
  cases hfind : [1, 2, 3].find? fun i => decide (t.stored i).Empty with
  | none =>
      refine Or.inr ⟨rfl, fun i hi => ?_⟩
      have hno := List.find?_eq_none.mp hfind i hi
      rwa [decide_eq_true_eq] at hno
  | some i =>
      have hempty := List.find?_some hfind
      rw [decide_eq_true_eq] at hempty
      have hmem := List.mem_of_find?_eq_some hfind
      have hslot := kept_slot i hmem
      exact Or.inl ⟨i, hmem, hslot.1, hslot.2, hempty⟩

/-- The first call never finds that there is no space. -/
theorem call_first (key : Key) :
    s.call key true = { s with newId := s.timer.nextId.toUInt8 }.edit key true := by
  unfold SaveAs.call
  rw [if_pos rfl]
  exact if_neg (Int.not_lt.mpr (Int.natCast_nonneg _))

/-- A session is the first call, and those that follow. -/
theorem session_eq (key : Key) (keys : List Key) :
    session s key keys =
      match { s with newId := s.timer.nextId.toUInt8 }.edit key true with
      | some ⟨s', .goOn, _⟩ => s'.calls keys
      | r => r := by
  unfold session
  rw [call_first]

/-- With a slot to save to, a session comes to something, and leaves the others as they are. -/
theorem session_cases (hid : s.timer.nextId.toUInt8.toNat < maxStored + 1) (key : Key)
    (keys : List Key) :
    ∃ r, session s key keys = some r ∧
      ∀ j, j.val ≠ s.timer.nextId.toUInt8.toNat → r.state.timer.stored j = s.timer.stored j := by
  rcases edit_cases (s := { s with newId := s.timer.nextId.toUInt8 }) hid key true with
    ⟨⟨s', ret, message⟩, hedit, hj, hgo⟩
  rw [session_eq, hedit]
  cases ret with
  | goOn =>
      rcases hgo rfl with ⟨htimer, hnew⟩
      simp only at htimer hnew
      rcases calls_cases (s := s') (by rwa [hnew]) keys with ⟨r, hr, hj'⟩
      rw [htimer, hnew] at hj'
      exact ⟨r, hr, hj'⟩
  | cancel => exact ⟨_, rfl, hj⟩
  | save => exact ⟨_, rfl, hj⟩
  | jump => exact ⟨_, rfl, hj⟩

/-- Without one, a name that is saved goes to slot 255. -/
theorem session_outside (h : s.timer.nextId.toUInt8 = 255) : session s .none [.fr] = none := by
  rw [session_eq, h]
  rfl

/-- When Save As writes to an empty slot or says that there is none. -/
theorem savesApart_iff (t : Timer ρ) : SavesApart t ↔ ∃ i ∈ [1, 2, 3], (t.stored i).Empty := by
  constructor
  · intro h
    rcases nextId_cases t with ⟨i, hmem, -, -, hempty⟩ | ⟨h255, -⟩
    · exact ⟨i, hmem, hempty⟩
    · -- The name is saved at once, and there is no slot for it.
      rcases h (fun _ => 0) 0 0 .none [.fr] with ⟨r, hr, -⟩
      rw [session_outside h255] at hr
      cases hr
  · rintro ⟨i, hmem, hempty⟩ name newId c key keys
    rcases nextId_cases t with ⟨j, -, hj, hlt, hempty'⟩ | ⟨-, hnone⟩
    · have hid : t.nextId.toUInt8.toNat < maxStored + 1 := by omega
      rcases session_cases (s := ⟨t, name, newId, c⟩) hid key keys with ⟨r, hr, hothers⟩
      refine ⟨r, hr, ⟨j, Or.inl ⟨hlt, hempty'⟩, fun k hk => hothers k ?_⟩, fun hfull => ?_⟩
      · exact fun heq => hk (Fin.ext (heq.trans hj))
      · exact absurd hempty' (hfull j hlt)
    · exact absurd hempty (hnone i hmem)

end Saving

section Listing

variable (t : Timer ρ)

/-- The slots of the list are those before the last whose name begins with neither of the
    two. -/
theorem listing_slots (menuScroll : Nat) :
    (listing t menuScroll).map Line.slot =
      [0, 1, 2].filter fun i => decide ¬ ((t.stored i).name 0 = 0 ∨ (t.stored i).Empty) := by
  have hslots : ([1, 2, 3] : List (Fin (maxStored + 1))).map (· - 1) = [0, 1, 2] := rfl
  have hlines : listing t menuScroll =
      (([1, 2, 3] : List (Fin (maxStored + 1))).map (· - 1)).filterMap (line t menuScroll) := by
    rw [List.filterMap_map]
    rfl
  rw [hlines, hslots]
  -- By induction on the slots that are looked at.
  generalize ([0, 1, 2] : List (Fin (maxStored + 1))) = slots
  induction slots with
  | nil => rfl
  | cons i slots ih =>
      by_cases hskip : (t.stored i).name 0 = 0 ∨ (t.stored i).Empty
      · have hline : line t menuScroll i = none := if_pos hskip
        rw [List.filterMap_cons_none hline, ih, List.filter_cons_of_neg]
        rw [decide_eq_true_eq]
        exact not_not.mpr hskip
      · have hline : line t menuScroll i = some ⟨i, _⟩ := if_neg hskip
        rw [List.filterMap_cons_some hline, List.map_cons, ih, List.filter_cons_of_pos]
        rw [decide_eq_true_eq]
        exact hskip

/-- What is drawn when the list is opened is the list, wherever it is scrolled to. -/
theorem lines_of_first {l : Loading} {key : Key} {menuScroll : Nat} {r : Loaded ρ}
    (hr : r ∈ shutterLoad t l key true menuScroll) :
    ∃ scroll, r.lines = some (listing t scroll) := by
  unfold shutterLoad at hr
  simp only [true_or, if_true] at hr
  cases key with
  | fr =>
      rcases Option.map_eq_some_iff.mp hr with ⟨t', -, rfl⟩
      exact ⟨_, rfl⟩
  | right =>
      rcases Option.map_eq_some_iff.mp hr with ⟨t', -, rfl⟩
      exact ⟨_, rfl⟩
  | none =>
      rw [← Option.some.inj hr]
      exact ⟨_, rfl⟩
  | fl =>
      rw [← Option.some.inj hr]
      exact ⟨_, rfl⟩
  | left =>
      rw [← Option.some.inj hr]
      exact ⟨_, rfl⟩
  | up =>
      rw [← Option.some.inj hr]
      exact ⟨_, rfl⟩
  | down =>
      rw [← Option.some.inj hr]
      exact ⟨_, rfl⟩

/-- When the list has the slots that are occupied. -/
theorem offers_iff :
    Offers t ↔ (t.stored 3).Empty ∧ ∀ i ∈ [0, 1, 2], (t.stored i).name 0 ≠ 0 := by
  have hoffers : Offers t ↔ (listing t 0).map Line.slot = occupied t := by
    constructor
    · intro h
      rcases h ⟨0, 0, 0⟩ .none 0 _ rfl with ⟨lines, hlines, hslots⟩
      have hfirst : _ ∈ shutterLoad t ⟨0, 0, 0⟩ .none true 0 := rfl
      rcases lines_of_first t hfirst with ⟨scroll, hscroll⟩
      rw [hscroll, Option.some.injEq] at hlines
      rw [← hlines, listing_slots] at hslots
      rw [listing_slots, hslots]
    · intro h l key menuScroll r hr
      rcases lines_of_first t hr with ⟨scroll, hscroll⟩
      exact ⟨_, hscroll, (listing_slots t scroll).trans ((listing_slots t 0).symm.trans h)⟩
  have hsplit : occupied t = ([0, 1, 2].filter fun i => decide ¬ (t.stored i).Empty) ++
      ([3].filter fun i => decide ¬ (t.stored i).Empty) := List.filter_append [0, 1, 2] [3]
  rw [hoffers, listing_slots]
  constructor
  · intro h
    -- A slot that is occupied is among those that are listed.
    have hlisted : ∀ i ∈ [0, 1, 2, 3], ¬ (t.stored i).Empty →
        i ∈ [0, 1, 2] ∧ (t.stored i).name 0 ≠ 0 := by
      intro i hi hfull
      have hmem : i ∈ occupied t := List.mem_filter.mpr ⟨hi, decide_eq_true hfull⟩
      rw [← h, List.mem_filter, decide_eq_true_eq] at hmem
      exact ⟨hmem.1, fun h0 => hmem.2 (Or.inl h0)⟩
    refine ⟨?_, fun i hi h0 => ?_⟩
    · by_contra hfull
      exact absurd (hlisted 3 (by decide) hfull).1 (by decide)
    · refine (hlisted i (List.mem_append_left [3] hi) fun hempty => ?_).2 h0
      unfold Program.Empty at hempty
      rw [h0] at hempty
      exact absurd hempty (by decide)
  · rintro ⟨hlast, hnames⟩
    have hnone : ([3].filter fun i => decide ¬ (t.stored i).Empty) = [] := by
      refine List.filter_eq_nil_iff.mpr fun i hi => ?_
      rw [List.mem_singleton.mp hi, decide_eq_true_eq]
      exact not_not.mpr hlast
    rw [hsplit, hnone, List.append_nil]
    refine List.filter_congr fun i hi => decide_eq_decide.mpr (not_congr ?_)
    exact or_iff_right (hnames i hi)

end Listing

/-- Save As and the list are right about the slots while the last is empty, if no name
    begins with a zero. -/
theorem keepsPrograms_iff (t : Timer ρ) :
    SavesApart t ∧ Offers t ↔
      (t.stored 3).Empty ∧ ∀ i ∈ [0, 1, 2], (t.stored i).name 0 ≠ 0 := by
  rw [savesApart_iff, offers_iff]
  exact and_iff_right_of_imp fun h => ⟨3, by decide, h.1⟩

/-- All slots are occupied. -/
def full : Timer Unit := ⟨fun _ => ⟨fun _ => 65, ()⟩, ⟨fun _ => 65, ()⟩, 0⟩

/-- Save As is opened then, and the name is saved: the write is outside the slots. And the
    last slot is not listed. -/
theorem full_destroys :
    session ⟨full, fun _ => 0, 0, 0⟩ .none [.fr] = none ∧
      (listing full 0).map Line.slot = [0, 1, 2] ∧ occupied full = [0, 1, 2, 3] ∧
      ¬ SavesApart full ∧ ¬ Offers full := by
  have hfull : ∀ i, ¬ (full.stored i).Empty := by decide
  refine ⟨session_outside rfl, rfl, rfl, fun h => ?_, fun h => ?_⟩
  · rcases (savesApart_iff full).mp h with ⟨i, -, hempty⟩
    exact hfull i hempty
  · exact hfull 3 ((offers_iff full).mp h).1

end Programs

end Menu

end TimelapsePlus
