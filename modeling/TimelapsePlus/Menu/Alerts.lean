import Mathlib.Data.List.Basic
import Mathlib.Data.Nat.Init

/-!
# Alerts

The menu is a state machine: `MENU::task` does what its state says, and the
state is set by what it finds, by the functions that it calls, and by anyone who
asks for something. An alert takes the state over. It keeps the one it finds,
and `task` goes back to it once the last alert has been dismissed.

Nothing else looks whether there is an alert. A function that is spawned, a menu
that is opened or gone back to, and an editor that is done set the state as they
always do, and an alert is then pending and not on the screen. It stays so until
another alert comes, and the intervalometer, which waits in its precheck for the
alerts to go, waits with it.

The functions that the menu calls are not looked into: one that has been called
may ask for anything at all before it returns, and so may whoever runs beside
it. Where the selection stands in a menu, and what is drawn, are left out; the
item clicked comes with the turn.

## Main definitions

* `MenuState`: The menu.
* `Request`, `MenuState.ask`: What anyone may ask of the menu.
* `MenuState.task`, `MenuState.ret`: A turn of the menu, up to where it calls a
  function, and from where the function returns.
* `MenuState.Shown`: A pending alert is on the screen.
* `MenuState.Attended`: What is asked of a run.
* `MenuState.Careful`: The state is not taken from an alert.

## Theorems

* `task_pending`, `task_cases`: What a turn makes of the alerts.
* `step_shown_iff`: A step hides a pending alert unless it is careful.
* `step_starts`, `step_alertReturnState`, `step_ends`: The state that is kept for
  the last alert, from the first on.
* `dismiss_all`: A turn an alert takes them all away.
* `after_shown`, `after_returns`: The same, of runs.
* `run_attended_iff`: The runs whose alerts are attended to.
* `alert_hidden`: A run is started from the remote while there is an alert.
-/

namespace TimelapsePlus

namespace Menu

/-- The states of the menu. -/
inductive St
  | cont
  | menu
  | edit
  | eepr
  | func
  | list
  | text
  | spawn
  | dlist
  | submenu
  | alert
  | alertNew
  | keyframe
deriving Repr, DecidableEq

inductive Key
  | none
  | fl
  | fr
  | left
  | right
  | up
  | down
deriving Repr, DecidableEq

/-- What an editor or a function returns. -/
inductive Fn
  | goOn
  | cancel
  | save
  | jump
deriving Repr, DecidableEq

/-- What is done with an item when it is clicked. -/
inductive ItemType
  | submenu
  | function
  | edit
  | keyframe
  | list
  | dynamic
  | other
deriving Repr, DecidableEq

/-- An item of a menu, with the addresses it holds. -/
structure Item where
  type : ItemType
  function : Nat
  shortFunction : Option Nat
deriving Repr, DecidableEq

/-- A menu that has been left, or a function with the menu it was called from. -/
inductive Left
  | menu (item : Nat)
  | function (item menuBackup : Nat)
deriving Repr, DecidableEq

/-- What a turn has called: the function of `ST_FUNC`, an editor, the short
    function after it, or the one of a submenu about to be opened. -/
inductive Call
  | func (f : Nat) (key : Key) (first : Bool)
  | editor (state : St) (key : Key) (first : Bool)
  | short
  | opening (menu : Nat)
deriving Repr, DecidableEq

/-- The menu. The alerts are the latest first, and one that has been cleared is
    `none`; the calls are the innermost first. -/
structure MenuState where
  state : St
  menu : Nat
  func : Nat
  funcShort : Option Nat
  handlerFunction : Option Nat
  stack : List Left
  refresh : Bool
  first : Bool
  alerts : List (Option Nat)
  alertReturnState : St
  inside : List Call
deriving Repr, DecidableEq

/-- What anyone may ask of the menu. -/
inductive Request
  | alert (text : Nat)
  | clearAlert (text : Nat)
  | spawn (function : Nat)
  | submenu (menu : Nat)
  | back
  | push
  | pushAs (function : Bool)
  | clearStack
  | refresh
  | init (menu : Nat) (handler : Option Nat)
deriving Repr, DecidableEq

/-- A turn: the key pressed, the item that is selected, the function the menu's
    last item names, and whether a message has been up for long enough. -/
structure Turn where
  key : Key
  selected : Option Item
  handler : Option Nat
  messageOver : Bool
deriving Repr, DecidableEq

/-- What happens next: a turn begins, the innermost call returns, or something is
    asked of the menu. -/
inductive Input
  | task (t : Turn)
  | ret (r : Fn) (messageOver : Bool)
  | ask (r : Request)
deriving Repr, DecidableEq

def maxAlerts : Nat := 5

def menuStackSize : Nat := 5

/-- The editors after which a short function is called. -/
def St.hasShort : St → Bool
  | .edit | .text | .list | .dlist => true
  | _ => false

/-- The requests that are about the alerts. -/
def Request.ofAlerts : Request → Bool
  | .alert _ | .clearAlert _ => true
  | _ => false

namespace MenuState

def alertIndex (s : MenuState) : Nat := s.alerts.length

def waitingAlert (s : MenuState) : Bool := decide (0 < s.alertIndex)

def alert (s : MenuState) (text : Nat) : MenuState :=
  if s.alertIndex < maxAlerts then
    { s with
      alertReturnState := if s.alertIndex = 0 then s.state else s.alertReturnState
      alerts := some text :: s.alerts
      state := .alertNew }
  else s

def clearAlert (s : MenuState) (text : Nat) : MenuState :=
  { s with alerts := s.alerts.map fun a => if a = some text then none else a }

def spawn (s : MenuState) (function : Nat) : MenuState :=
  { s with func := function, state := .spawn }

def submenu (s : MenuState) (menu : Nat) : MenuState :=
  { s with menu := menu, state := .submenu }

def back (s : MenuState) : MenuState :=
  match s.stack with
  | [] => s
  | .function item menuBackup :: rest =>
    { s with func := item, menu := menuBackup, stack := rest, state := .spawn }
  | .menu item :: rest => { s with menu := item, stack := rest, state := .menu }

def menuPush (s : MenuState) (l : Left) : MenuState :=
  if s.stack.length < menuStackSize then { s with stack := l :: s.stack } else s

/-- `MENU::push` with a type. -/
def pushAs (s : MenuState) (function : Bool) : MenuState :=
  s.menuPush (if function then .function s.func s.menu else .menu s.menu)

def push (s : MenuState) : MenuState := s.pushAs (decide (s.state = .func))

def init (s : MenuState) (menu : Nat) (handler : Option Nat) : MenuState :=
  { s with menu := menu, state := .cont, handlerFunction := handler }

/-- What is asked of the menu is done at once. -/
def ask (s : MenuState) : Request → MenuState
  | .alert text => s.alert text
  | .clearAlert text => s.clearAlert text
  | .spawn function => s.spawn function
  | .submenu menu => s.submenu menu
  | .back => s.back
  | .push => s.push
  | .pushAs function => s.pushAs function
  | .clearStack => { s with stack := [], refresh := true }
  | .refresh => { s with refresh := true }
  | .init menu handler => s.init menu handler

/-- The end of a turn: a message that has been up for long enough asks for the
    menu to be drawn again. -/
def finish (s : MenuState) (messageOver : Bool) : MenuState := { s with refresh := messageOver }

def click (s : MenuState) (i : Item) (messageOver : Bool) : MenuState :=
  match i.type with
  | .submenu =>
    let s := { s.push with funcShort := i.shortFunction }
    if i.shortFunction.isSome then { s with inside := .opening i.function :: s.inside }
    else { s with menu := i.function, state := .menu }.finish messageOver
  | .function => { s with func := i.function, state := .func }.finish messageOver
  | .edit => { s with funcShort := i.shortFunction, state := .edit }.finish messageOver
  | .keyframe => { s with state := .keyframe }.finish messageOver
  | .list => { s with funcShort := i.shortFunction, state := .list }.finish messageOver
  | .dynamic => { s with funcShort := i.shortFunction, state := .dlist }.finish messageOver
  | .other => s.finish messageOver

def alertTask (key : Key) : Fn := if key = .fr then .cancel else .goOn

/-- `ST_ALERT`: the latest alert is up, and is dismissed by the key or because it
    has been cleared. -/
def showAlert (s : MenuState) (t : Turn) : MenuState :=
  let ret := match s.alerts with
    | some _ :: _ => alertTask t.key
    | _ => .cancel
  if ret = .goOn then { s with first := false }.finish t.messageOver
  else
    { s with
      alerts := s.alerts.tail
      first := true
      state := if s.alerts.tail = [] then s.alertReturnState else s.state }.finish t.messageOver

/-- A key for the menu's handler. -/
def handle (s : MenuState) (key : Key) : MenuState :=
  match s.handlerFunction with
  | some f =>
    if s.state = .cont ∧ (key = .fl ∨ key = .fr) then { s with func := f, state := .func } else s
  | none => s

/-- What the state says is done. -/
def dispatch (s : MenuState) (t : Turn) : MenuState :=
  match s.state with
  | .cont =>
    let s := if s.refresh then { s with state := .menu } else s
    match t.key, t.selected with
    | .right, some i => s.click i t.messageOver
    | .left, _ => s.back.finish t.messageOver
    | _, _ => s.finish t.messageOver
  | .menu => ({ s with first := true }.init s.menu t.handler).finish t.messageOver
  | .edit | .eepr | .list | .text | .dlist | .keyframe =>
    { s with inside := .editor s.state t.key s.first :: s.inside }
  | .func => { s with inside := .func s.func t.key s.first :: s.inside }
  | .spawn => { s with first := true, state := .func }.finish t.messageOver
  | .submenu => { s with first := true, state := .menu }.finish t.messageOver
  | .alertNew => { s with first := true, state := .alert }.showAlert t
  | .alert => s.showAlert t

/-- A turn of the menu, up to where it calls a function. -/
def task (s : MenuState) (t : Turn) : MenuState :=
  let s := s.handle t.key
  let s := if s.refresh then { s with first := true } else s
  s.dispatch t

/-- An editor returns, and no short function is to be called. -/
def Ends (s : MenuState) (state : St) (r : Fn) : Prop :=
  r ≠ .goOn ∧ ¬ (r = .save ∧ state.hasShort = true ∧ s.funcShort.isSome = true)

instance (s : MenuState) (state : St) (r : Fn) : Decidable (s.Ends state r) :=
  inferInstanceAs (Decidable (_ ∧ _))

/-- The innermost call returns, and the turn that made it goes on. -/
def ret (s : MenuState) (r : Fn) (messageOver : Bool) : MenuState :=
  match s.inside with
  | [] => s
  | .func _ _ _ :: rest =>
    let s := { s with inside := rest, first := decide (r ≠ Fn.goOn) }
    if r ≠ .goOn ∧ s.state = .func then { s with state := .menu }.finish messageOver
    else s.finish messageOver
  | .editor state _ _ :: rest =>
    let s := { s with inside := rest, first := false }
    if r = .goOn then s.finish messageOver
    else if s.Ends state r then { s with state := .menu }.finish messageOver
    else { s with inside := .short :: rest }
  | .short :: rest => { s with inside := rest, state := .menu }.finish messageOver
  | .opening menu :: rest =>
    { s with inside := rest, menu := menu, state := .menu }.finish messageOver

/-- One step. -/
def step (s : MenuState) : Input → MenuState
  | .task t => s.task t
  | .ret r messageOver => s.ret r messageOver
  | .ask r => s.ask r

/-- The menu after so many of some inputs. -/
def after (s : MenuState) (is : List Input) (n : Nat) : MenuState := (is.take n).foldl step s

/-- A pending alert is on the screen, or comes there with the next turn. -/
def Shown (s : MenuState) : Prop := s.alerts ≠ [] → s.state = .alert ∨ s.state = .alertNew

/-- What is asked of a run: a pending alert is always shown, can be dismissed with
    the key, and with the last one the menu goes back to where it was. -/
structure Attended (s : MenuState) (is : List Input) : Prop where
  shown : ∀ n, (s.after is n).Shown
  dismissed : ∀ n, ∀ turns : List Turn, (∀ t ∈ turns, t.key = .fr) →
    turns.length = (s.after is n).alertIndex →
    (turns.foldl task (s.after is n)).waitingAlert = false
  returns : ∀ m n, m + 1 < n → (s.after is m).alerts = [] →
    (∀ k, m < k → k < n → (s.after is k).alerts ≠ []) → (s.after is n).alerts = [] →
    (s.after is n).state = (s.after is m).state

/-- The state is not taken from an alert: nothing is spawned, opened or gone back
    to, and no editor and no short function returns, while one is pending. -/
def Careful (s : MenuState) : Input → Prop
  | .ask (.spawn _) | .ask (.submenu _) | .ask (.init _ _) => s.alerts = []
  | .ask .back => s.stack = [] ∨ s.alerts = []
  | .ret r _ => match s.inside with
    | .editor state _ _ :: _ => s.Ends state r → s.alerts = []
    | .short :: _ | .opening _ :: _ => s.alerts = []
    | _ => True
  | _ => True

section Pending

/-- The alerts, with what the last of them goes back to. -/
def pending (s : MenuState) : List (Option Nat) × St := (s.alerts, s.alertReturnState)

theorem pending_eq {s t : MenuState} (h : t.pending = s.pending) :
    t.alerts = s.alerts ∧ t.alertReturnState = s.alertReturnState :=
  ⟨congrArg Prod.fst h, congrArg Prod.snd h⟩

variable (s : MenuState)

@[simp] theorem finish_state (b : Bool) : (s.finish b).state = s.state := rfl

@[simp] theorem finish_pending (b : Bool) : (s.finish b).pending = s.pending := rfl

@[simp] theorem pushAs_pending (f : Bool) : (s.pushAs f).pending = s.pending := by
  unfold pushAs menuPush
  split <;> rfl

@[simp] theorem back_pending : s.back.pending = s.pending := by
  unfold back
  split <;> rfl

@[simp] theorem click_pending (i : Item) (b : Bool) : (s.click i b).pending = s.pending := by
  unfold click
  cases i.type with
  | submenu =>
      simp only
      split
      · exact pushAs_pending s _
      · exact pushAs_pending s _
  | _ => rfl

@[simp] theorem handle_pending (key : Key) : (s.handle key).pending = s.pending := by
  unfold handle
  split
  · split <;> rfl
  · rfl

/-- A call that returns leaves the alerts alone. -/
theorem ret_pending (r : Fn) (b : Bool) : (s.ret r b).pending = s.pending := by
  unfold ret
  cases s.inside with
  | nil => rfl
  | cons c rest =>
      cases c with
      | func f key first =>
          simp only
          split <;> rfl
      | editor state key first =>
          simp only
          split
          · rfl
          · split <;> rfl
      | short => rfl
      | opening menu => rfl

/-- A turn in another state leaves the alerts alone. -/
theorem dispatch_pending (t : Turn) (h : s.state ≠ .alert ∧ s.state ≠ .alertNew) :
    (s.dispatch t).pending = s.pending := by
  cases hstate : s.state with
  | cont =>
      -- The menu itself: its state may change before the key is looked at.
      have hsame : (if s.refresh then { s with state := .menu } else s).pending = s.pending := by
        split <;> rfl
      simp only [dispatch, hstate]
      split
      · exact (click_pending _ _ _).trans hsame
      · exact (back_pending _).trans hsame
      · exact hsame
  | alert => exact absurd hstate h.1
  | alertNew => exact absurd hstate h.2
  | _ =>
      simp only [dispatch, hstate]
      rfl

end Pending

section Task

variable {s : MenuState}

/-- What a turn begins with, before it looks at the state. -/
theorem task_eq (t : Turn) :
    ∃ u : MenuState, s.task t = u.dispatch t ∧ u.pending = s.pending ∧
      (s.state ≠ .cont → u.state = s.state) ∧
      (s.state = .cont → u.state = .cont ∨ u.state = .func) := by
  have hhandle : (s.state ≠ .cont → (s.handle t.key).state = s.state) ∧
      (s.state = .cont → (s.handle t.key).state = .cont ∨ (s.handle t.key).state = .func) := by
    unfold handle
    split
    · split
      · rename_i hcont
        exact ⟨fun hne => absurd hcont.1 hne, fun _ => Or.inr rfl⟩
      · exact ⟨fun _ => rfl, Or.inl⟩
    · exact ⟨fun _ => rfl, Or.inl⟩
  by_cases hrefresh : (s.handle t.key).refresh = true
  · refine ⟨{ s.handle t.key with first := true }, ?_, handle_pending s t.key, hhandle⟩
    unfold task
    simp only [if_pos hrefresh]
  · refine ⟨s.handle t.key, ?_, handle_pending s t.key, hhandle⟩
    unfold task
    simp only [if_neg hrefresh]

/-- A turn in another state leaves the alerts alone. -/
theorem task_pending (t : Turn) (h : s.state ≠ .alert ∧ s.state ≠ .alertNew) :
    (s.task t).pending = s.pending := by
  rcases task_eq (s := s) t with ⟨u, htask, hsame, hother, hcont⟩
  rw [htask, ← hsame]
  refine dispatch_pending u t ?_
  by_cases hstate : s.state = .cont
  · rcases hcont hstate with hu | hu
    · rw [hu]
      exact ⟨nofun, nofun⟩
    · rw [hu]
      exact ⟨nofun, nofun⟩
  · rw [hother hstate]
    exact h

/-- What a turn makes of the alert that is up: it stays, or it goes. -/
theorem showAlert_cases (t : Turn) :
    ((s.showAlert t).pending = s.pending ∧ s.alerts ≠ [] ∧ t.key ≠ .fr ∧
      (s.showAlert t).state = s.state) ∨
    ((s.showAlert t).pending = (s.alerts.tail, s.alertReturnState) ∧
      (s.showAlert t).state = if s.alerts.tail = [] then s.alertReturnState else s.state) := by
  cases hup : s.alerts with
  | nil =>
      refine Or.inr ?_
      simp only [showAlert, hup, reduceCtorEq, if_false]
      exact ⟨rfl, rfl⟩
  | cons a rest =>
      cases a with
      | none =>
          refine Or.inr ?_
          simp only [showAlert, hup, reduceCtorEq, if_false]
          exact ⟨rfl, rfl⟩
      | some text =>
          by_cases hkey : t.key = .fr
          · refine Or.inr ?_
            simp only [showAlert, hup, alertTask, if_pos hkey, reduceCtorEq, if_false]
            exact ⟨rfl, rfl⟩
          · refine Or.inl ?_
            simp only [showAlert, hup, alertTask, if_neg hkey, if_true]
            exact ⟨Prod.ext hup.symm rfl, List.cons_ne_nil _ _, hkey, rfl⟩

/-- A turn while an alert is up. -/
theorem task_cases (t : Turn) (h : s.state = .alert ∨ s.state = .alertNew) :
    ((s.task t).pending = s.pending ∧ s.alerts ≠ [] ∧ t.key ≠ .fr ∧ (s.task t).state = .alert) ∨
    ((s.task t).pending = (s.alerts.tail, s.alertReturnState) ∧
      (s.task t).state = if s.alerts.tail = [] then s.alertReturnState else .alert) := by
  rcases task_eq (s := s) t with ⟨u, htask, hsame, hother, -⟩
  have hne : s.state ≠ .cont := by
    rcases h with hs | hs <;> rw [hs] <;> exact nofun
  have hu := hother hne
  -- A new alert is up from its first turn on.
  have hshow : ∃ v : MenuState, u.dispatch t = v.showAlert t ∧ v.pending = s.pending ∧
      v.state = .alert := by
    rcases h with hs | hs
    · refine ⟨u, ?_, hsame, hu.trans hs⟩
      simp only [dispatch, hu.trans hs]
    · refine ⟨{ u with first := true, state := .alert }, ?_, hsame, rfl⟩
      simp only [dispatch, hu.trans hs]
  rcases hshow with ⟨v, hdispatch, hpending, hstate⟩
  have hv := pending_eq hpending
  have hcases := showAlert_cases (s := v) t
  rw [hv.1, hv.2, hstate, hpending, ← hdispatch, ← htask] at hcases
  exact hcases

end Task

section Step

variable {s : MenuState}

/-- What is asked of the menu leaves the alerts alone, unless it is about them. -/
theorem ask_pending (r : Request) (h : r.ofAlerts = false) :
    (s.ask r).pending = s.pending := by
  cases r with
  | alert | clearAlert => exact absurd h nofun
  | back => exact back_pending s
  | push => exact pushAs_pending s _
  | pushAs function => exact pushAs_pending s function
  | spawn | submenu | clearStack | refresh | init => rfl

theorem clearAlert_alerts (text : Nat) : (s.clearAlert text).alerts = [] ↔ s.alerts = [] :=
  List.map_eq_nil_iff

theorem shown_of_state (h : s.state = .alert ∨ s.state = .alertNew) : s.Shown := fun _ => h

/-- Any other state is right if there is no alert. -/
theorem shown_iff (h : s.state ≠ .alert ∧ s.state ≠ .alertNew) : s.Shown ↔ s.alerts = [] := by
  refine ⟨fun hshown => ?_, fun hnone hne => absurd hnone hne⟩
  by_contra hne
  exact (hshown hne).elim h.1 h.2

/-- A turn shows what there is to show. -/
theorem task_shown (t : Turn) (hs : s.Shown) : (s.task t).Shown := by
  by_cases hstate : s.state = .alert ∨ s.state = .alertNew
  · rcases task_cases t hstate with ⟨-, -, -, hup⟩ | ⟨hpending, hnext⟩
    · exact shown_of_state (Or.inl hup)
    · intro hne
      have htail : (s.task t).alerts = s.alerts.tail := congrArg Prod.fst hpending
      rw [htail] at hne
      rw [if_neg hne] at hnext
      exact Or.inl hnext
  · rw [not_or] at hstate
    -- Nothing is pending before, and so nothing after.
    have hnone := (shown_iff hstate).mp hs
    intro hne
    exact absurd ((pending_eq (task_pending t hstate)).1.trans hnone) hne

/-- What is asked for hides an alert unless it leaves the state to it. -/
theorem ask_shown_iff (r : Request) (hs : s.Shown) :
    (s.ask r).Shown ↔ s.Careful (.ask r) := by
  cases r with
  | alert text =>
      refine ⟨fun _ => trivial, fun _ => ?_⟩
      simp only [ask, alert]
      split
      · exact shown_of_state (Or.inr rfl)
      · exact hs
  | clearAlert text =>
      refine ⟨fun _ => trivial, fun _ hne => hs fun hnone => hne ?_⟩
      exact (clearAlert_alerts text).mpr hnone
  | spawn function => exact shown_iff ⟨nofun, nofun⟩
  | submenu menu => exact shown_iff ⟨nofun, nofun⟩
  | init menu handler => exact shown_iff ⟨nofun, nofun⟩
  | back =>
      cases hstack : s.stack with
      | nil =>
          simp only [ask, back, Careful, hstack, true_or, iff_true]
          exact hs
      | cons l rest =>
          simp only [ask, Careful, hstack, reduceCtorEq, false_or]
          rw [← (pending_eq (back_pending s)).1]
          refine shown_iff ?_
          simp only [back, hstack]
          cases l with
          | menu item => exact ⟨nofun, nofun⟩
          | function item menuBackup => exact ⟨nofun, nofun⟩
  | push =>
      refine ⟨fun _ => trivial, fun _ => ?_⟩
      simp only [ask, push, pushAs, menuPush]
      split
      · exact hs
      · exact hs
  | pushAs function =>
      refine ⟨fun _ => trivial, fun _ => ?_⟩
      simp only [ask, pushAs, menuPush]
      split
      · exact hs
      · exact hs
  | clearStack => exact ⟨fun _ => trivial, fun _ => hs⟩
  | refresh => exact ⟨fun _ => trivial, fun _ => hs⟩

/-- A call that returns hides an alert if it was an editor or a short function. -/
theorem ret_shown_iff (r : Fn) (b : Bool) (hs : s.Shown) :
    (s.ret r b).Shown ↔ s.Careful (.ret r b) := by
  cases hinside : s.inside with
  | nil =>
      simp only [ret, Careful, hinside, iff_true]
      exact hs
  | cons c rest =>
      cases c with
      | func f key first =>
          simp only [ret, Careful, hinside, iff_true]
          split
          · rename_i hfunc
            -- The function is what the menu still shows, so there is no alert.
            have hnone : s.alerts = [] := by
              refine (shown_iff ?_).mp hs
              rw [hfunc.2]
              exact ⟨nofun, nofun⟩
            exact fun hne => absurd hnone hne
          · exact hs
      | editor state key first =>
          simp only [ret, Careful, hinside]
          by_cases hgo : r = .goOn
          · have hends : ¬ s.Ends state r := fun hends => hends.1 hgo
            simp only [if_pos hgo, hends, false_implies, iff_true]
            exact hs
          · by_cases hends : s.Ends state r
            · have hends' : Ends { s with inside := rest, first := false } state r := hends
              simp only [if_neg hgo, if_pos hends', hends, true_implies]
              exact shown_iff ⟨nofun, nofun⟩
            · have hends' : ¬ Ends { s with inside := rest, first := false } state r := hends
              simp only [if_neg hgo, if_neg hends', hends, false_implies, iff_true]
              exact hs
      | short =>
          simp only [ret, Careful, hinside]
          exact shown_iff ⟨nofun, nofun⟩
      | opening menu =>
          simp only [ret, Careful, hinside]
          exact shown_iff ⟨nofun, nofun⟩

/-- A step hides a pending alert unless it is careful. -/
theorem step_shown_iff (i : Input) (hs : s.Shown) : (s.step i).Shown ↔ s.Careful i := by
  cases i with
  | task t => exact ⟨fun _ => trivial, fun _ => task_shown t hs⟩
  | ret r b => exact ret_shown_iff r b hs
  | ask r => exact ask_shown_iff r hs

/-- The first alert keeps the state it finds. -/
theorem step_starts (i : Input) (h : s.alerts = []) (hnext : (s.step i).alerts ≠ []) :
    (s.step i).alertReturnState = s.state := by
  -- Nothing but an alert brings one.
  have hkept : (s.step i).pending ≠ s.pending := fun hsame =>
    hnext ((pending_eq hsame).1.trans h)
  cases i with
  | task t =>
      by_cases hstate : s.state = .alert ∨ s.state = .alertNew
      · rcases task_cases t hstate with ⟨hsame, -⟩ | ⟨hpending, -⟩
        · exact absurd hsame hkept
        · have htail : (s.task t).alerts = s.alerts.tail := congrArg Prod.fst hpending
          rw [h] at htail
          exact absurd htail hnext
      · exact absurd (task_pending t (not_or.mp hstate)) hkept
  | ret r b => exact absurd (ret_pending s r b) hkept
  | ask r =>
      cases r with
      | alert text =>
          have hzero : s.alertIndex = 0 := List.length_eq_zero_iff.mpr h
          have hroom : s.alertIndex < maxAlerts := hzero ▸ Nat.succ_pos 4
          simp only [step, ask, alert, if_pos hroom, if_pos hzero]
      | clearAlert text => exact absurd ((clearAlert_alerts text).mpr h) hnext
      | _ => exact absurd (ask_pending _ rfl) hkept

/-- What the alerts go back to is kept as long as there are any. -/
theorem step_alertReturnState (i : Input) (h : s.alerts ≠ []) :
    (s.step i).alertReturnState = s.alertReturnState := by
  cases i with
  | task t =>
      by_cases hstate : s.state = .alert ∨ s.state = .alertNew
      · rcases task_cases t hstate with ⟨hsame, -⟩ | ⟨hpending, -⟩
        · exact (pending_eq hsame).2
        · exact congrArg Prod.snd hpending
      · exact (pending_eq (task_pending t (not_or.mp hstate))).2
  | ret r b => exact (pending_eq (ret_pending s r b)).2
  | ask r =>
      cases r with
      | alert text =>
          have hindex : s.alertIndex ≠ 0 := fun hzero => h (List.length_eq_zero_iff.mp hzero)
          simp only [step, ask, alert, if_neg hindex]
          split <;> rfl
      | clearAlert text => rfl
      | _ => exact (pending_eq (ask_pending _ rfl)).2

/-- With the last alert the menu goes back to the state that was kept. -/
theorem step_ends (i : Input) (h : s.alerts ≠ []) (hnext : (s.step i).alerts = []) :
    (s.step i).state = s.alertReturnState := by
  have hkept : (s.step i).pending ≠ s.pending := fun hsame =>
    h ((pending_eq hsame).1.symm.trans hnext)
  cases i with
  | task t =>
      by_cases hstate : s.state = .alert ∨ s.state = .alertNew
      · rcases task_cases t hstate with ⟨hsame, -⟩ | ⟨hpending, hback⟩
        · exact absurd hsame hkept
        · have htail : (s.task t).alerts = s.alerts.tail := congrArg Prod.fst hpending
          rw [if_pos (htail.symm.trans hnext)] at hback
          exact hback
      · exact absurd (task_pending t (not_or.mp hstate)) hkept
  | ret r b => exact absurd (ret_pending s r b) hkept
  | ask r =>
      cases r with
      | alert text =>
          simp only [step, ask, alert] at hnext
          split at hnext
          · exact absurd hnext (List.cons_ne_nil _ _)
          · exact absurd hnext h
      | clearAlert text => exact absurd ((clearAlert_alerts text).mp hnext) h
      | _ => exact absurd (ask_pending _ rfl) hkept

/-- A turn with the key takes the latest alert away. -/
theorem task_dismisses (t : Turn) (hs : s.Shown) (hkey : t.key = .fr) (h : s.alerts ≠ []) :
    (s.task t).alerts = s.alerts.tail := by
  rcases task_cases t (hs h) with ⟨-, -, hother, -⟩ | ⟨hpending, -⟩
  · exact absurd hkey hother
  · exact congrArg Prod.fst hpending

end Step

section Runs

variable {s : MenuState}

/-- As many turns with the key as there are alerts take them all away. -/
theorem dismiss_all (turns : List Turn) (hs : s.Shown) (hkeys : ∀ t ∈ turns, t.key = .fr)
    (hlength : turns.length = s.alertIndex) : (turns.foldl task s).waitingAlert = false := by
  induction turns generalizing s with
  | nil =>
      have hzero : s.alertIndex = 0 := hlength.symm
      simp only [List.foldl_nil, waitingAlert, hzero, Nat.lt_irrefl, decide_false]
  | cons t turns ih =>
      have hne : s.alerts ≠ [] := by
        intro hnil
        rw [alertIndex, hnil] at hlength
        exact absurd hlength (Nat.succ_ne_zero _)
      have htail := task_dismisses t hs (hkeys t List.mem_cons_self) hne
      refine ih (task_shown t hs) (fun u hu => hkeys u (List.mem_cons_of_mem t hu)) ?_
      rw [alertIndex, htail, List.length_tail]
      rw [List.length_cons, alertIndex] at hlength
      omega

theorem after_succ (is : List Input) (n : Nat) :
    s.after is (n + 1) = match is[n]? with
      | some i => (s.after is n).step i
      | none => s.after is n := by
  unfold after
  rw [List.take_add_one, List.foldl_append]
  cases is[n]? with
  | none => rfl
  | some i => rfl

/-- In a careful run a pending alert is always shown. -/
theorem after_shown (is : List Input) (hs : s.Shown)
    (hcareful : ∀ n i, is[n]? = some i → (s.after is n).Careful i) (n : Nat) :
    (s.after is n).Shown := by
  induction n with
  | zero => exact hs
  | succ n ih =>
      rw [after_succ]
      cases hnext : is[n]? with
      | none => exact ih
      | some i => exact (step_shown_iff i ih).mpr (hcareful n i hnext)

/-- In any run the last alert goes back to where the first has come. -/
theorem after_returns (is : List Input) {m n : Nat} (hlt : m + 1 < n)
    (hfirst : (s.after is m).alerts = [])
    (hbetween : ∀ k, m < k → k < n → (s.after is k).alerts ≠ [])
    (hlast : (s.after is n).alerts = []) : (s.after is n).state = (s.after is m).state := by
  -- What is gone back to is the state before the first, all the time in between.
  have hkept : ∀ k, m < k → k < n → (s.after is k).alertReturnState = (s.after is m).state := by
    intro k hk
    induction k, hk using Nat.le_induction with
    | base =>
        intro hn
        have hpending := hbetween (m + 1) (Nat.lt_succ_self m) hn
        rw [after_succ] at hpending ⊢
        cases hi : is[m]? with
        | none =>
            rw [hi] at hpending
            exact absurd hfirst hpending
        | some i =>
            rw [hi] at hpending
            exact step_starts i hfirst hpending
    | succ k hk ih =>
        intro hn
        have hpending := hbetween k hk (Nat.lt_of_succ_lt hn)
        have hsame := ih (Nat.lt_of_succ_lt hn)
        rw [after_succ]
        cases is[k]? with
        | none => exact hsame
        | some i => exact (step_alertReturnState i hpending).trans hsame
  obtain ⟨k, rfl⟩ : ∃ k, n = k + 1 := ⟨n - 1, by omega⟩
  have hpending := hbetween k (by omega) (Nat.lt_succ_self k)
  rw [after_succ] at hlast ⊢
  cases hi : is[k]? with
  | none =>
      rw [hi] at hlast
      exact absurd hlast hpending
  | some i =>
      rw [hi] at hlast
      exact (step_ends i hpending hlast).trans (hkept k (by omega) (Nat.lt_succ_self k))

end Runs

/-- The menu once the main menu has been drawn, with the function its last item
    names. -/
def boot (menu : Nat) (handler : Option Nat) : MenuState :=
  ⟨.cont, menu, 0, none, handler, [], false, true, [], .cont, []⟩

/-- The alerts of a run are attended to, if and only if each of its steps is careful. -/
theorem run_attended_iff (menu : Nat) (handler : Option Nat) (is : List Input) :
    (boot menu handler).Attended is ↔
      ∀ n i, is[n]? = some i → ((boot menu handler).after is n).Careful i := by
  constructor
  · intro h n i hi
    -- A step between two states that show their alert is careful.
    have hnext := h.shown (n + 1)
    rw [after_succ, hi] at hnext
    exact (step_shown_iff i (h.shown n)).mp hnext
  · intro hcareful
    have hshown := after_shown is (fun hne => absurd rfl hne) hcareful
    refine ⟨hshown, fun n turns hkeys hlength => ?_, fun m n hlt hfirst hbetween hlast => ?_⟩
    · exact dismiss_all turns (hshown n) hkeys hlength
    · exact after_returns is hlt hfirst hbetween hlast

/-- The intervalometer raises an alert in its precheck, and in the same turn of the
    main loop the remote asks for a start, which spawns the status screen. -/
theorem alert_hidden : ¬ (boot 0 none).Attended [.ask (.alert 1), .ask (.spawn 2)] := by
  intro h
  have hpending : ((boot 0 none).after [.ask (.alert 1), .ask (.spawn 2)] 2).alerts ≠ [] := by
    decide
  have hstate : ((boot 0 none).after [.ask (.alert 1), .ask (.spawn 2)] 2).state = .spawn := rfl
  have hshown := h.shown 2 hpending
  rw [hstate] at hshown
  exact hshown.elim nofun nofun

end MenuState

end Menu

end TimelapsePlus
