import Mathlib.Data.Fintype.Basic
import Mathlib.Logic.Function.Basic
import TimelapsePlus.Lib.Hysteresis
import TimelapsePlus.Lib.Run

/-!
# Debouncing the Keys

The keys are polled by an interrupt. Every key has a counter that goes up when it is
found pressed and down when it is not. A key is reported when its counter comes above
`DEBOUNCE_ON`, and not again until it has fallen below `DEBOUNCE_OFF`. At
`DEBOUNCE_REPEAT_DELAY` the counter stops, and some keys are then reported once more
and counted from a lower value. A release takes what is above `DEBOUNCE_MAX` off the
counter at once.

The key that turns the device off is counted further when its counter has stopped. On
battery the poll does not return from that. Plugged in, it does, and the menu has been
run meanwhile, which may ask for keys or flush all of them.

Kept beside the keys is what was done to each of them. Nothing reads it. A key is a
counter with hysteresis of its own, and what is said of it is said of this history.

## Main definitions

* `Key`, `Button`: A key, and all of them.
* `Act`, `Key.act`: What is done to a key.
* `Entry`: What was done to a key, with its counter after it, and if it was reported.
* `Button.poll`, `Button.get`, `Button.pressed`, `Button.isHeld`, `Button.flushBuffer`:
  The functions of the source.
* `Button.step`: A poll, or a call from the menu.
* `hold`, `netPressed`: The entries since a key was last released, and the polls it was
  pressed since it was at rest, less the others.
* `Debounced`: What is wanted of a key.

## Theorems

* `Follows.act`: What a history says of a key is kept by everything done to it.
* `follows_of_step`: So is it of all keys by every step.
* `debounced`: The keys are debounced, in every run.
-/

namespace TimelapsePlus

open Hysteresis

namespace Button

/-- The numbers of the keys, in the order they are polled in. -/
def flKey : Nat := 1
def leftKey : Nat := 3
def rightKey : Nat := 4
def upKey : Nat := 5
def downKey : Nat := 6

def debounceMax : UInt8 := 15
def debounceRepeatDelay : UInt8 := 250
def debounceRepeatSpeed : UInt8 := 160
def debounceOn : UInt8 := 10
def debounceOff : UInt8 := 3
def powerOffTime : UInt16 := 2000

/-- A key: its counter, whether it is pressed, and whether it is still to be got. -/
structure Key where
  count : UInt8
  status : Bool
  flag : Bool

/-- What is done to a key: it is found pressed, as one that repeats or not, or released, or it
    is flushed, or got. -/
inductive Act
  | press (repeats : Bool)
  | release
  | flush
  | get
  deriving DecidableEq

/-- What was done to a key, its counter after it, and whether it was reported. -/
structure Entry where
  act : Act
  count : UInt8
  reported : Bool

/-- A key that is found pressed, and if it is reported. -/
def Key.press (repeats : Bool) (k : Key) : Key × Bool :=
  if k.count < debounceRepeatDelay then
    let count := k.count + 1
    if debounceOn < count ∧ k.status = false then (⟨count, true, true⟩, true)
    else (⟨count, k.status, k.flag⟩, false)
  else if repeats = true then (⟨debounceRepeatDelay - debounceRepeatSpeed, true, true⟩, true)
  else (k, false)

/-- A key that is found released. -/
def Key.release (k : Key) : Key :=
  if 0 < k.count then
    let count := (if debounceMax < k.count then debounceMax else k.count) - 1
    ⟨count, if count < debounceOff then false else k.status, k.flag⟩
  else k

/-- Everything that is done to a key, and if it is reported. -/
def Key.act (k : Key) : Act → Key × Bool
  | .press repeats => k.press repeats
  | .release => (k.release, false)
  | .flush => (⟨0, false, false⟩, false)
  | .get => (⟨k.count, k.status, false⟩, false)

end Button

/-- The keys, and what was done to each, the last of it first. -/
structure Button where
  keys : Fin 6 → Button.Key
  offCount : UInt16
  verticalRepeat : Bool
  history : Fin 6 → List Button.Entry

namespace Button

/-- The keys as they are constructed. -/
def init : Button where
  keys _ := ⟨0, false, false⟩
  offCount := 0
  verticalRepeat := false
  history _ := []

/-- Something is done to one of the keys. -/
def act (b : Button) (i : Fin 6) (a : Act) : Button :=
  let r := (b.keys i).act a
  { b with
    keys := Function.update b.keys i r.1
    history := Function.update b.history i (⟨a, r.1.count, r.2⟩ :: b.history i) }

/-- `Button::flushBuffer`. -/
def flushBuffer (b : Button) : Button := (List.finRange 6).foldl (fun b i => b.act i .flush) b

/-- What comes first in a call that looks at the keys: they are flushed after a sleep. -/
def wake (slept : Bool) (b : Button) : Button := if slept = true then b.flushBuffer else b

/-- `Button::get`. -/
def get (slept : Bool) (b : Button) : Button × Nat :=
  let b := b.wake slept
  match (List.finRange 6).find? fun i => (b.keys i).flag with
  | some i => (b.act i .get, i.val + 1)
  | none => (b, 0)

/-- `Button::pressed`. -/
def pressed (slept : Bool) (b : Button) : Button × Nat :=
  let b := b.wake slept
  match (List.finRange 6).find? fun i => (b.keys i).flag with
  | some i => (b, i.val + 1)
  | none => (b, 0)

/-- `Button::isHeld`. -/
def isHeld (slept : Bool) (i : Fin 6) (b : Button) : Button × Bool :=
  let b := b.wake slept
  (b, (b.keys i).status)

/-- What the menu does with the keys. -/
inductive Call
  | get (slept : Bool)
  | pressed (slept : Bool)
  | isHeld (slept : Bool) (i : Fin 6)
  | flushBuffer
  | verticalRepeat (on : Bool)

def call (b : Button) : Call → Button
  | .get slept => (b.get slept).1
  | .pressed slept => (b.pressed slept).1
  | .isHeld slept i => (b.isHeld slept i).1
  | .flushBuffer => b.flushBuffer
  | .verticalRepeat on => { b with verticalRepeat := on }

/-- What a poll finds: which keys are down, and, if it comes to turning the device off, what
    the menu does, unless it is off then. -/
structure Sample where
  down : Fin 6 → Bool
  off : Option (List Call)

/-- A key is reported again while it is held. -/
def repeats (b : Button) (i : Fin 6) : Bool :=
  decide (i.val + 1 = upKey ∨ i.val + 1 = downKey ∨
    b.verticalRepeat = true ∧ (i.val + 1 = leftKey ∨ i.val + 1 = rightKey))

/-- One key in the loop of `poll`. -/
def pollKey (s : Sample) (b : Button) (i : Fin 6) : Option Button :=
  if s.down i = true then
    let pressed := b.act i (.press (b.repeats i))
    if (b.keys i).count < debounceRepeatDelay then some pressed
    else if b.repeats i = true then some pressed
    else if i.val + 1 = flKey then
      let counted := { pressed with offCount := pressed.offCount + 1 }
      if powerOffTime < counted.offCount then s.off.map fun calls => calls.foldl call counted
      else some counted
    else some pressed
  else some ((if i.val + 1 = flKey then { b with offCount := 0 } else b).act i .release)

/-- `Button::poll`. -/
def poll (s : Sample) (b : Button) : Option Button := (List.finRange 6).foldlM (pollKey s) b

/-- A poll, or a call from the menu between two of them. -/
inductive Label
  | poll (s : Sample)
  | call (c : Call)

def step (b : Button) : Label → Option Button
  | .poll s => b.poll s
  | .call c => some (b.call c)

section History

/-- The counter of an entry, and what the entry adds to it. -/
def Entry.counter (e : Entry) : Nat := e.count.toNat

def Act.gain : Act → Int
  | .press _ => 1
  | .release => -1
  | _ => 0

/-- The entries since a key was last below the release level. -/
def hold (h : List Entry) : List Entry := since Entry.counter debounceOff.toNat h

/-- The polls a key was found pressed since its counter was zero, less those it was not. -/
def netPressed (h : List Entry) : Int := net Entry.counter (fun e => e.act.gain) h

/-- What is wanted of a key: the counter in its range; a report only after more than the
    debounce count of net pressed polls; and of an entry that does not repeat one report in
    the hold if the counter has been above that count, and else none. -/
structure Debounced (h : List Entry) : Prop where
  range : level Entry.counter h ≤ 250
  reported : ∀ e older, h = e :: older → e.reported = true →
    (debounceOn.toNat : Int) < netPressed h
  once : (∀ e ∈ hold h, e.act ≠ .press true) →
    (hold h).countP Entry.reported =
      if ∃ e ∈ hold h, debounceOn.toNat < e.counter then 1 else 0

/-- The same of a key after everything that was done to it. -/
def AlwaysDebounced (h : List Entry) : Prop := ∀ t, t <:+ h → Debounced t

end History

/-- What a history says of its key. -/
structure Follows (k : Key) (h : List Entry) : Prop where
  count : k.count.toNat = level Entry.counter h
  status : k.status = true ↔ Latched Entry.counter debounceOff.toNat debounceOn.toNat h
  net : (level Entry.counter h : Int) ≤ netPressed h
  debounced : AlwaysDebounced h

section Follows

theorem debounced_nil : Debounced [] where
  range := Nat.zero_le _
  reported e older hsplit := absurd hsplit.symm (List.cons_ne_nil e older)
  once _ := by
    rw [if_neg]
    · rfl
    · rintro ⟨e, he, -⟩
      exact absurd he List.not_mem_nil

theorem follows_nil : Follows ⟨0, false, false⟩ [] where
  count := rfl
  status := iff_of_false Bool.false_ne_true not_latched_nil
  net := Int.le_refl 0
  debounced t ht := by
    rw [List.suffix_nil.mp ht]
    exact debounced_nil

variable {k : Key} {h : List Entry}

/-- No key is counted further than the repeat delay. -/
theorem Follows.range (hk : Follows k h) : k.count.toNat ≤ 250 := by
  rw [hk.count]
  exact (hk.debounced h (List.suffix_refl h)).range

/-- A key that is counted above the debounce count is taken to be pressed. -/
theorem Follows.status_of_lt (hk : Follows k h) (hlt : 10 < k.count.toNat) : k.status = true := by
  rw [hk.count] at hlt
  exact hk.status.mpr (latched_of_lt (by decide : 3 ≤ 10 + 1) hlt)

/-- And one that is taken to be pressed is not counted below the release level. -/
theorem Follows.le_of_status (hk : Follows k h) (hstatus : k.status = true) :
    3 ≤ k.count.toNat := by
  rw [hk.count]
  exact (hk.status.mp hstatus).low_le

/-- What one more entry has to say, so that the history follows the key: the counter is in
    its range and goes up by no more than the entry adds, the key is taken to be pressed as
    the levels say, and it is reported above the debounce count only, and without a repeat
    where it was not taken to be pressed before. -/
structure Next (k k' : Key) (a : Act) (reported : Bool) : Prop where
  range : k'.count.toNat ≤ 250
  status : k'.status = true ↔ 3 ≤ k'.count.toNat ∧ (10 < k'.count.toNat ∨ k.status = true)
  gain : k'.count.toNat = 0 ∨ (k'.count.toNat : Int) ≤ k.count.toNat + a.gain
  report : reported = true → 10 < k'.count.toNat
  once : a ≠ .press true → (reported = true ↔ 10 < k'.count.toNat ∧ ¬ k.status = true)

/-- Such an entry is followed. -/
theorem Follows.next {k' : Key} {a : Act} {reported : Bool} (hk : Follows k h)
    (hnext : Next k k' a reported) : Follows k' (⟨a, k'.count, reported⟩ :: h) := by
  generalize he : (⟨a, k'.count, reported⟩ : Entry) = e
  have hcount : e.counter = k'.count.toNat := by
    rw [← he]
    rfl
  have hnet : (level Entry.counter (e :: h) : Int) ≤ netPressed (e :: h) := by
    refine level_le_net hk.net ?_
    rw [← hk.count, hcount, ← he]
    exact hnext.gain
  have hdebounced : Debounced (e :: h) := by
    refine ⟨?_, ?_, ?_⟩
    · rw [level, hcount]
      exact hnext.range
    · intro e' older hsplit hreported
      rw [← (List.cons.inj hsplit).1, ← he] at hreported
      have hhigh := hnext.report hreported
      rw [← hcount] at hhigh
      exact lt_of_lt_of_le (Int.ofNat_lt.mpr hhigh) hnet
    · intro honce
      by_cases hlow : debounceOff.toNat ≤ e.counter
      · -- The hold goes on with this entry, and none before it was a repeat.
        unfold hold at honce
        rw [since_cons_of_le hlow, List.forall_mem_cons] at honce
        have hbefore := (hk.debounced h (List.suffix_refl h)).once honce.2
        have hmark : e.reported = true ↔ 10 < e.counter ∧ ¬ k.status = true := by
          rw [← he] at honce ⊢
          exact hnext.once honce.1
        rw [hk.status] at hmark
        exact countP_mark hbefore hmark
      · unfold hold
        rw [since_cons_of_lt (Nat.not_le.mp hlow), if_neg]
        · rfl
        · rintro ⟨x, hx, -⟩
          exact absurd hx List.not_mem_nil
  refine ⟨?_, ?_, hnet, ?_⟩
  · exact hcount.symm
  · rw [latched_cons, ← hk.status, hcount]
    exact hnext.status
  · intro t ht
    rcases List.suffix_cons_iff.mp ht with rfl | ht
    · exact hdebounced
    · exact hk.debounced t ht

/-- A key that is found pressed. -/
theorem next_press (hk : Follows k h) (repeats : Bool) :
    Next k (k.press repeats).1 (.press repeats) (k.press repeats).2 := by
  have hrange := hk.range
  have hlow := hk.le_of_status
  unfold Key.press
  by_cases hcount : k.count < debounceRepeatDelay
  · have hlt : k.count.toNat < 250 := UInt8.lt_iff_toNat_lt.mp hcount
    have hadd : (k.count + 1).toNat = k.count.toNat + 1 := by
      have hsum := UInt8.toNat_add k.count 1
      simp only [UInt8.reduceToNat] at hsum
      omega
    rw [if_pos hcount]
    by_cases hon : debounceOn < k.count + 1 ∧ k.status = false
    · -- It is counted far enough for the first time, and reported.
      have hhigh : 10 < (k.count + 1).toNat := UInt8.lt_iff_toNat_lt.mp hon.1
      rw [if_pos hon]
      exact {
        range := by
          change (k.count + 1).toNat ≤ 250
          omega
        status := iff_of_true rfl ⟨Nat.le_trans (by decide) hhigh, Or.inl hhigh⟩
        gain := Or.inr (by rw [hadd]; exact Int.le_refl _)
        report := fun _ => hhigh
        once := fun _ => iff_of_true rfl ⟨hhigh, Bool.eq_false_iff.mp hon.2⟩ }
    · have hnot : ¬ (10 < (k.count + 1).toNat ∧ ¬ k.status = true) := by
        rw [Bool.not_eq_true]
        exact fun h' => hon ⟨UInt8.lt_iff_toNat_lt.mpr h'.1, h'.2⟩
      rw [if_neg hon]
      exact {
        range := by
          change (k.count + 1).toNat ≤ 250
          omega
        status := by
          change k.status = true ↔ 3 ≤ (k.count + 1).toNat ∧ _
          change _ ↔ _ ∧ (10 < (k.count + 1).toNat ∨ _)
          rw [hadd] at hnot ⊢
          by_cases hstatus : k.status = true
          · have := hlow hstatus
            exact iff_of_true hstatus ⟨by omega, Or.inr hstatus⟩
          · refine iff_of_false hstatus fun h' => hnot ⟨h'.2.resolve_right hstatus, hstatus⟩
        gain := Or.inr (by rw [hadd]; exact Int.le_refl _)
        report := fun h' => absurd h' Bool.false_ne_true
        once := fun _ => iff_of_false Bool.false_ne_true hnot }
  · -- The counter has stopped. A key that does not repeat stays as it is.
    have hge : 250 ≤ k.count.toNat := Nat.not_lt.mp fun h' => hcount (UInt8.lt_iff_toNat_lt.mpr h')
    have hstatus := hk.status_of_lt (by omega)
    rw [if_neg hcount]
    by_cases hrepeats : repeats = true
    · -- It is reported once more, and counted from a lower value.
      rw [if_pos hrepeats]
      exact {
        range := by decide
        status := iff_of_true rfl ⟨(by decide : 3 ≤ 90), Or.inl (by decide : 10 < 90)⟩
        gain := Or.inr (by
          change (90 : Int) ≤ k.count.toNat + 1
          omega)
        report := fun _ => by decide
        once := fun h' => absurd (congrArg Act.press hrepeats) h' }
    · rw [if_neg hrepeats]
      have hcounter : 3 ≤ k.count.toNat ∧ 10 < k.count.toNat := by omega
      exact {
        range := hrange
        status := iff_of_true hstatus ⟨hcounter.1, Or.inl hcounter.2⟩
        gain := Or.inr (by
          change (k.count.toNat : Int) ≤ k.count.toNat + 1
          omega)
        report := fun h' => absurd h' Bool.false_ne_true
        once := fun _ => iff_of_false Bool.false_ne_true fun h' => h'.2 hstatus }

/-- A key that is found released. -/
theorem next_release (hk : Follows k h) :
    Next k k.release .release false := by
  have hrange := hk.range
  have hhigh := hk.status_of_lt
  unfold Key.release
  by_cases hcount : 0 < k.count
  · have hpos : 0 < k.count.toNat := UInt8.lt_iff_toNat_lt.mp hcount
    rw [if_pos hcount]
    -- What is above the maximum is taken off first.
    generalize hmost : (if debounceMax < k.count then debounceMax else k.count) = most
    have hle : 0 < most.toNat ∧ most.toNat ≤ k.count.toNat := by
      rw [← hmost]
      split
      · next hmax => exact ⟨by decide, (UInt8.lt_iff_toNat_lt.mp hmax).le⟩
      · exact ⟨hpos, le_rfl⟩
    have hsub : (most - 1).toNat = most.toNat - 1 :=
      UInt8.toNat_sub_of_le most 1 (UInt8.le_iff_toNat_le.mpr hle.1)
    exact {
      range := by
        change (most - 1).toNat ≤ 250
        omega
      status := by
        change (if most - 1 < debounceOff then false else k.status) = true ↔
          3 ≤ (most - 1).toNat ∧ (10 < (most - 1).toNat ∨ k.status = true)
        by_cases hlow : most - 1 < debounceOff
        · have hlt : (most - 1).toNat < 3 := UInt8.lt_iff_toNat_lt.mp hlow
          rw [if_pos hlow]
          exact iff_of_false Bool.false_ne_true fun h' => by omega
        · have hge : 3 ≤ (most - 1).toNat :=
            Nat.not_lt.mp fun h' => hlow (UInt8.lt_iff_toNat_lt.mpr h')
          rw [if_neg hlow, and_iff_right hge]
          exact ⟨Or.inr, fun h' => h'.elim (fun h' => hhigh (by omega)) id⟩
      gain := Or.inr (by
        change ((most - 1).toNat : Int) ≤ k.count.toNat + -1
        omega)
      report := fun h' => absurd h' Bool.false_ne_true
      once := fun _ => iff_of_false Bool.false_ne_true fun h' => by
        have hlt : 10 < (most - 1).toNat := h'.1
        exact h'.2 (hhigh (by omega)) }
  · -- A key at rest is left alone.
    have hzero : k.count.toNat = 0 :=
      Nat.eq_zero_of_not_pos fun h' => hcount (UInt8.lt_iff_toNat_lt.mpr h')
    rw [if_neg hcount]
    exact {
      range := hrange
      status := by
        refine iff_of_false (fun h' => ?_) fun h' => ?_
        · have := hk.le_of_status h'
          omega
        · have hle : 3 ≤ k.count.toNat := h'.1
          omega
      gain := Or.inl hzero
      report := fun h' => absurd h' Bool.false_ne_true
      once := fun _ => iff_of_false Bool.false_ne_true fun h' => by
        have hlt : 10 < k.count.toNat := h'.1
        omega }

/-- What a history says of its key is kept by everything done to it. -/
theorem Follows.act (hk : Follows k h) (a : Act) :
    Follows (k.act a).1 (⟨a, (k.act a).1.count, (k.act a).2⟩ :: h) := by
  refine hk.next ?_
  cases a with
  | press repeats => exact next_press hk repeats
  | release => exact next_release hk
  | flush =>
      exact {
        range := Nat.zero_le _
        status := iff_of_false Bool.false_ne_true fun h' => Nat.not_succ_le_zero 2 h'.1
        gain := Or.inl rfl
        report := fun h' => absurd h' Bool.false_ne_true
        once := fun _ => iff_of_false Bool.false_ne_true fun h' => Nat.not_succ_le_zero 10 h'.1 }
  | get =>
      exact {
        range := hk.range
        status := ⟨fun h' => ⟨hk.le_of_status h', Or.inr h'⟩, fun h' =>
          h'.2.elim hk.status_of_lt id⟩
        gain := Or.inr (Int.le_of_eq (Int.add_zero _).symm)
        report := fun h' => absurd h' Bool.false_ne_true
        once := fun _ => iff_of_false Bool.false_ne_true fun h' => h'.2 (hk.status_of_lt h'.1) }

end Follows

section Runs

/-- The histories say what they have to of all keys. -/
def Good (b : Button) : Prop := ∀ i, Follows (b.keys i) (b.history i)

variable {b : Button}

theorem good_init : Good init := fun _ => follows_nil

theorem Good.act (hb : Good b) (i : Fin 6) (a : Act) : Good (b.act i a) := by
  intro j
  simp only [Button.act]
  -- The other keys have neither a new entry nor another counter.
  by_cases hj : j = i
  · rw [hj, Function.update_self, Function.update_self]
    exact (hb i).act a
  · rw [Function.update_of_ne hj, Function.update_of_ne hj]
    exact hb j

theorem Good.flushBuffer (hb : Good b) : Good b.flushBuffer :=
  List.foldlRecOn _ _ hb fun _ hb' i _ => hb'.act i .flush

theorem Good.wake (hb : Good b) (slept : Bool) : Good (b.wake slept) := by
  unfold Button.wake
  split
  · exact hb.flushBuffer
  · exact hb

theorem Good.call (hb : Good b) (c : Call) : Good (b.call c) := by
  cases c with
  | get slept =>
      unfold Button.call Button.get
      simp only
      split
      · exact (hb.wake slept).act _ .get
      · exact hb.wake slept
  | pressed slept =>
      unfold Button.call Button.pressed
      simp only
      split
      · exact hb.wake slept
      · exact hb.wake slept
  | isHeld slept i => exact hb.wake slept
  | flushBuffer => exact hb.flushBuffer
  | verticalRepeat on => exact hb

theorem Good.calls (hb : Good b) (calls : List Call) : Good (calls.foldl Button.call b) :=
  List.foldlRecOn _ _ hb fun _ hb' c _ => hb'.call c

/-- Polling a key does one thing to it, and may run the menu. -/
theorem good_pollKey {s : Sample} {i : Fin 6} (hb : Good b) : ∀ b' ∈ pollKey s b i, Good b' := by
  intro b' hb'
  unfold pollKey at hb'
  simp only at hb'
  split at hb'
  · have hpress := hb.act i (.press (b.repeats i))
    split at hb'
    · rw [← Option.some.inj hb']
      exact hpress
    · split at hb'
      · rw [← Option.some.inj hb']
        exact hpress
      · split at hb'
        · split at hb'
          · rcases Option.map_eq_some_iff.mp hb' with ⟨calls, -, rfl⟩
            refine Good.calls ?_ calls
            exact hpress
          · rw [← Option.some.inj hb']
            exact hpress
        · rw [← Option.some.inj hb']
          exact hpress
  · rw [← Option.some.inj hb']
    refine Good.act ?_ i .release
    split
    · exact hb
    · exact hb

theorem good_foldlM {s : Sample} (is : List (Fin 6)) (hb : Good b) :
    ∀ b' ∈ is.foldlM (pollKey s) b, Good b' := by
  induction is generalizing b with
  | nil =>
      intro b' hb'
      rw [← Option.some.inj hb']
      exact hb
  | cons i is ih =>
      intro b' hb'
      rw [List.foldlM_cons] at hb'
      rcases Option.bind_eq_some_iff.mp hb' with ⟨b₁, hfirst, hrest⟩
      exact ih (good_pollKey hb b₁ hfirst) b' hrest

/-- What the histories say is kept by every step. -/
theorem follows_of_step {b' : Button} (l : Label) (hb : Good b) (hstep : b.step l = some b') :
    Good b' := by
  cases l with
  | poll s => exact good_foldlM _ hb b' hstep
  | call c =>
      rw [← Option.some.inj hstep]
      exact hb.call c

/-- The keys are debounced in every run, and each has the counter of its history. -/
theorem debounced (h : Run step (fun _ _ => True) init b) (i : Fin 6) :
    (b.keys i).count.toNat = level Entry.counter (b.history i) ∧
      AlwaysDebounced (b.history i) := by
  have hgood : Good b := h.invariant Good (fun _ l _ hb _ hstep => follows_of_step l hb hstep)
    good_init
  exact ⟨(hgood i).count, (hgood i).debounced⟩

/-- The key to the right is found pressed in eleven polls. -/
def heldRight : List Label := List.replicate 11 (.poll ⟨fun i => decide (i = 3), none⟩)

theorem debounced_right : ∃ b, steps step init heldRight = some b ∧ (b.get false).2 = rightKey ∧
    AlwaysDebounced (b.history 3) := by
  have hget : (steps step init heldRight).map (fun b => (b.get false).2) = some rightKey := by
    decide +kernel
  rcases Option.map_eq_some_iff.mp hget with ⟨b, hb, hright⟩
  exact ⟨b, hb, hright, (debounced (run_of_steps heldRight hb) 3).2⟩

end Runs

end Button

end TimelapsePlus
