import TimelapsePlus.Lib.Radix
import TimelapsePlus.Lib.Run
import TimelapsePlus.Lib.Word
import TimelapsePlus.Menu.Alerts

/-!
# The Number Editor

`editNumber` takes a number apart into five digits when it is entered, shows them, lets
the keys turn one of them at a time, and puts the number together again when it is saved.
How is said by a letter: a time with tenths, in seconds or in minutes, a number with one
decimal, the offset of a bulb with its sign, a number of 32 bits, or any other a number of
16 bits.

A digit goes up to what its place allows, so that what is put in by the keys is always
right. What is there already need not be. A format holds fewer numbers than the variable
does, and one that is too large is shown and saved without its upper part, or saved with
digits that are not shown, or taken apart into more than five digits. And a number from
sixty thousand on has a six that the keys can leave there while they turn up the others.

The digits are drawn before the key is looked at. Between two keys the editor is called
without one, and draws them again.

## Main definitions

* `NumberMode`: The letters.
* `decode`, `encode`: Taking a number apart, and putting it together.
* `NumberEditor`: The editor's variables and what it shows.
* `enter`, `call`, `save`: `MENU::editNumber`.
* `number`: The number that is shown.
* `EditsShown`: What is shown is what is saved.
* `radices`: What the places of a format go up to.

## Theorems

* `plainDigits_eq`: What the loop over the digits writes, and where it ends too late.
* `decode_digits`: A number that the format holds is taken apart into its digits.
* `encode_value`, `number_drawn`: The digits are put together, and shown.
* `call_sound`, `steps_sound`: What a call keeps, and a run of calls.
* `editsShown_iff`: The numbers of a format are those it is right about.
-/

namespace TimelapsePlus

namespace Menu

open Word

/-- The formats, by their letters. `U` stands for all the letters that have no case of
    their own. -/
inductive NumberMode
  | F
  | G
  | T
  | H
  | B
  | L
  | U
deriving Repr, DecidableEq

/-- The editor's variables: the digits, the one that is turned, and how many there are;
    what is shown at the five places, from the right, and the sign; and
    `conf.camera.negBulbOffset`. -/
structure NumberEditor where
  d : List Nat
  i : Nat
  l : Nat
  screen : List (Option Nat)
  minus : Bool
  negBulbOffset : Bool
deriving Repr, DecidableEq

namespace EditNumber

/-- The digits of a number, the least first, while it is not zero, with so many entries
    left. -/
def plainDigits (d : List Nat) (l m : Nat) : Nat → Option (List Nat)
  | 0 => if m = 0 then some d else none
  | n + 1 =>
    if m = 0 then some d
    else plainDigits (d.set l (m % 10)) (l + 1) ((m - m % 10) / 10) n

/-- Taking a number apart. -/
def decode (mode : NumberMode) (m : Nat) : Option (List Nat) :=
  match mode with
  | .F =>
    -- Seconds, and then minutes.
    let c := m % 600
    let m := (m - c) / 600
    let d0 := c % 10
    let c := (c - d0) / 10
    let d1 := c % 10
    let d2 := (c - d1) / 10
    let c := m % 60
    let d3 := c % 10
    some [d0, d1, d2, d3, (c - d3) / 10]
  | .T =>
    -- Seconds, minutes, and hours.
    let c := m % 60
    let m := (m - c) / 60
    let d0 := c % 10
    let d1 := (c - d0) / 10
    let c := m % 60
    let m := (m - c) / 60
    let d2 := c % 10
    let d3 := (c - d2) / 10
    let c := m % 60
    some [d0, d1, d2, d3, c % 10]
  | .H =>
    -- Minutes, and hours.
    let c := m % 60
    let m := (m - c) / 60
    let d0 := c % 10
    let d1 := (c - d0) / 10
    let c := m % 100
    let d2 := c % 10
    some [d0, d1, d2, (c - d2) / 10, 0]
  | _ => plainDigits [0, 0, 0, 0, 0] 0 m 5

/-- `m += z` of an `int` to a `uint32_t`. The `int` may overflow, and wraps. -/
def addInt (m z : Nat) : Nat := ((m + i16 z) % 4294967296).toNat

/-- `m *= 10; m += d;` -/
def addDigit (m d : Nat) : Nat := u32 (u32 (m * 10) + d)

/-- Putting a number together. -/
def encode (mode : NumberMode) (d : List Nat) : Option Nat :=
  match d with
  | [d0, d1, d2, d3, d4] =>
    match mode with
    | .F => some (addInt (addInt 0 ((d4 * 10 + d3) * 600)) (d2 * 100 + d1 * 10 + d0))
    | .T => some (addInt (addInt (addInt 0 (d4 * 3600)) ((d3 * 10 + d2) * 60)) (d1 * 10 + d0))
    | .H => some (addInt (addInt 0 ((d3 * 10 + d2) * 60)) (d1 * 10 + d0))
    | .B => some (addDigit (addDigit d2 d1) d0)
    | _ => some (addDigit (addDigit (addDigit (addDigit d4 d3) d2) d1) d0)
  | _ => none

/-- The editor is entered. -/
def enter (mode : NumberMode) (m : Nat) (negBulbOffset : Bool) : Option NumberEditor :=
  (decode mode m).map fun d =>
    { d := d
      i := 0
      l := if mode = .G then 3 else 5
      screen := List.replicate 5 none
      minus := false
      negBulbOffset := negBulbOffset }

/-- The digits as they are shown. The fourth place of an offset is for its sign. -/
def drawn (mode : NumberMode) (d : List Nat) (l : Nat) : List (Option Nat) :=
  (List.range 5).map fun x => if x < l ∧ ¬ (mode = .B ∧ x = 3) then d[x]? else none

/-- The digits are shown, and two of the formats find that they have four. -/
def draw (mode : NumberMode) (e : NumberEditor) : Option NumberEditor :=
  if e.l ≤ e.d.length then
    some { e with
      screen := drawn mode e.d e.l
      minus := decide (mode = .B) && e.negBulbOffset
      l := if mode = .H ∨ mode = .B then 4 else e.l }
  else none

/-- What the digit at a place goes up to. -/
def cap (mode : NumberMode) (i : Nat) : Nat :=
  match mode with
  | .F => if i = 2 ∨ i = 4 then 5 else 9
  | .T => if i % 2 ≠ 0 then 5 else 9
  | .H => if i = 1 then 5 else 9
  | .B => if i = 3 then 0 else 9
  | .L => 9
  | _ => if i = 4 then 5 else 9

/-- The digit that is being edited is turned, and with it the sign if it stands for it. -/
def turn (mode : NumberMode) (e : NumberEditor) (f : Nat → Nat) : Option NumberEditor :=
  (e.d[e.i]?).map fun x => { e with
    d := e.d.set e.i (f x)
    negBulbOffset := if mode = .B ∧ e.i = 3 then !e.negBulbOffset else e.negBulbOffset }

/-- The key is looked at. -/
def key (mode : NumberMode) (e : NumberEditor) : Key → Option NumberEditor
  | .right => some { e with i := if 0 < e.i then e.i - 1 else e.l - 1 }
  | .left => some { e with i := if e.i < e.l - 1 then e.i + 1 else 0 }
  | .down => turn mode e fun x => if 0 < x then x - 1 else cap mode e.i
  | .up => turn mode e fun x => if x < cap mode e.i then x + 1 else 0
  | _ => some e

/-- A call of `editNumber` that neither saves nor cancels. -/
def call (mode : NumberMode) (e : NumberEditor) (k : Key) : Option NumberEditor :=
  match draw mode e with
  | some e => key mode e k
  | none => none

/-- What is stored by SAVE. -/
def save (mode : NumberMode) (e : NumberEditor) : Option Nat :=
  (encode mode e.d).map fun m => if mode = .L then m else u16 m

/-- What a digit is worth at each place: a tenth of a second, a second, a minute, or one. -/
def weights : NumberMode → List Nat
  | .F => [1, 10, 100, 600, 6000]
  | .T => [1, 10, 60, 600, 3600]
  | .H => [1, 10, 60, 600, 6000]
  | _ => [1, 10, 100, 1000, 10000]

/-- The number that is shown. -/
def number (mode : NumberMode) (screen : List (Option Nat)) : Nat :=
  (List.zipWith (fun w s => w * Option.getD s 0) (weights mode) screen).sum

/-- Whatever keys come, there is no access outside of the digits, what is stored is the
    number that is shown, with its sign, and if no digit has been turned it is the number
    there was. -/
def EditsShown (mode : NumberMode) (m : Nat) (negBulbOffset : Bool) : Prop :=
  (∃ e, enter mode m negBulbOffset = some e ∧ save mode e = some m) ∧
    ∀ keys : List Key, (∀ k ∈ keys, k ≠ .fl ∧ k ≠ .fr) → ∃ e₀ e r,
      enter mode m negBulbOffset = some e₀ ∧ steps (call mode) e₀ (keys ++ [.none]) = some e ∧
      save mode e = some r ∧ r = number mode e.screen ∧
      (mode = .B → e.minus = e.negBulbOffset) ∧
      ((∀ k ∈ keys, k ≠ .up ∧ k ≠ .down) → r = m ∧ e.negBulbOffset = negBulbOffset)

/-- What the places of a format count to. Those that cannot be edited stay at zero. -/
def radices : NumberMode → List Nat
  | .F => [10, 10, 6, 10, 6]
  | .T => [10, 6, 10, 6, 10]
  | .H => [10, 6, 10, 10, 1]
  | .B => [10, 10, 10, 1, 1]
  | .G => [10, 10, 10, 1, 1]
  | .L => [10, 10, 10, 10, 10]
  | .U => [10, 10, 10, 10, 6]

/-- How many places can be edited. -/
def width : NumberMode → Nat
  | .G => 3
  | .H => 4
  | .B => 4
  | _ => 5

/-- The loop writes as many digits as it has entries for, or comes past the last. -/
theorem plainDigits_eq (pre : List Nat) (m n : Nat) :
    plainDigits (pre ++ List.replicate n 0) pre.length m n =
      if m < 10 ^ n then some (pre ++ Radix.digits (List.replicate n 10) m) else none := by
  induction n generalizing pre m with
  | zero =>
      rw [plainDigits]
      by_cases hzero : m = 0
      · rw [if_pos hzero, if_pos (by omega)]
        rfl
      · rw [if_neg hzero, if_neg (by omega)]
  | succ n ih =>
      rw [plainDigits]
      by_cases hzero : m = 0
      · rw [if_pos hzero, if_pos (by rw [hzero]; exact Nat.pow_pos (by decide)), hzero,
          Radix.digits_zero, List.length_replicate]
      · -- The next entry gets the digit, and the rest of the number the entries after it.
        have hset : (pre ++ List.replicate (n + 1) 0).set pre.length (m % 10) =
            (pre ++ [m % 10]) ++ List.replicate n 0 := by
          rw [List.replicate_succ, List.set_append_right _ _ (le_refl _), Nat.sub_self,
            List.append_assoc]
          rfl
        have hlength : pre.length + 1 = (pre ++ [m % 10]).length := by
          rw [List.length_append]
          rfl
        have hrest : (m - m % 10) / 10 = m / 10 := by omega
        have hpow : m / 10 < 10 ^ n ↔ m < 10 ^ (n + 1) := by
          rw [Nat.div_lt_iff_lt_mul (by decide), Nat.pow_succ]
        rw [if_neg hzero, hset, hlength, hrest, ih]
        by_cases hless : m < 10 ^ (n + 1)
        · rw [if_pos hless, if_pos (hpow.mpr hless), List.append_assoc, List.replicate_succ,
            Radix.digits]
          rfl
        · rw [if_neg hless, if_neg (fun h => hless (hpow.mp h))]

/-- A number of five digits, in a format of its own or in none. -/
theorem decode_plain {mode : NumberMode} (hF : mode ≠ .F) (hT : mode ≠ .T) (hH : mode ≠ .H)
    (m : Nat) : decode mode m =
      if m < 100000 then some (Radix.digits [10, 10, 10, 10, 10] m) else none := by
  have hloop := plainDigits_eq [] m 5
  cases mode with
  | F => exact absurd rfl hF
  | T => exact absurd rfl hT
  | H => exact absurd rfl hH
  | G => exact hloop
  | B => exact hloop
  | L => exact hloop
  | U => exact hloop

/-- A time is taken apart into its digits, and what they cannot hold is lost. -/
theorem decode_time {mode : NumberMode} (hmode : mode = .F ∨ mode = .T ∨ mode = .H) (m : Nat) :
    decode mode m = some (Radix.digits (radices mode) m) := by
  rcases hmode with rfl | rfl | rfl
  · simp only [decode, radices, Radix.digits, ← Nat.div_eq_sub_mod_div, Option.some.injEq,
      List.cons.injEq, and_true]
    omega
  · simp only [decode, radices, Radix.digits, ← Nat.div_eq_sub_mod_div, Option.some.injEq,
      List.cons.injEq, and_true]
    omega
  · simp only [decode, radices, Radix.digits, ← Nat.div_eq_sub_mod_div, Option.some.injEq,
      List.cons.injEq, and_true]
    omega

/-- A number that the format holds is taken apart into its digits. -/
theorem decode_digits {mode : NumberMode} {m : Nat} (hm : m < (radices mode).prod) :
    decode mode m = some (Radix.digits (radices mode) m) := by
  cases mode with
  | F => exact decode_time (.inl rfl) m
  | T => exact decode_time (.inr (.inl rfl)) m
  | H => exact decode_time (.inr (.inr rfl)) m
  | G =>
      have hless : m < 1000 := hm
      rw [decode_plain (by decide) (by decide) (by decide), if_pos (by omega)]
      simp only [radices, Radix.digits, Option.some.injEq, List.cons.injEq, and_true, true_and]
      omega
  | B =>
      have hless : m < 1000 := hm
      rw [decode_plain (by decide) (by decide) (by decide), if_pos (by omega)]
      simp only [radices, Radix.digits, Option.some.injEq, List.cons.injEq, and_true, true_and]
      omega
  | L =>
      have hless : m < 100000 := hm
      rw [decode_plain (by decide) (by decide) (by decide), if_pos hless]
      rfl
  | U =>
      have hless : m < 60000 := hm
      rw [decode_plain (by decide) (by decide) (by decide), if_pos (by omega)]
      simp only [radices, Radix.digits, Option.some.injEq, List.cons.injEq, and_true, true_and]
      omega

/-- Sixteen bits of a sum do not tell how it was reduced. -/
theorem u16_addInt (m z : Nat) : u16 (addInt m z) = u16 (m + z) := by
  have hnonneg : 0 ≤ ((m : Int) + i16 z) % 4294967296 := Int.emod_nonneg _ (by decide)
  have hsum : (((m : Int) + i16 z) % 4294967296) % 65536 = (m + z) % 65536 := by
    have hword : i16 z % 65536 = z % 65536 := Int.bmod_emod
    rw [Int.emod_emod_of_dvd _ (by decide), Int.add_emod, hword, ← Int.add_emod]
  unfold u16 addInt
  omega

theorem u16_addInt_addInt (m y z : Nat) : u16 (addInt (addInt m y) z) = u16 (m + y + z) := by
  have hinner := u16_addInt m y
  have houter := u16_addInt (addInt m y) z
  unfold u16 at hinner houter ⊢
  omega

theorem addDigit_of_le {m d : Nat} (hm : m ≤ 10000) (hd : d < 10) : addDigit m d = m * 10 + d := by
  unfold addDigit
  rw [u32_of_lt (by omega : m * 10 < 4294967296), u32_of_lt (by omega)]

/-- Five digits, each with what it is below. -/
theorem five {ds : List Nat} {r0 r1 r2 r3 r4 : Nat}
    (h : List.Forall₂ (· < ·) ds [r0, r1, r2, r3, r4]) : ∃ d0 d1 d2 d3 d4,
      ds = [d0, d1, d2, d3, d4] ∧ d0 < r0 ∧ d1 < r1 ∧ d2 < r2 ∧ d3 < r3 ∧ d4 < r4 := by
  rcases h with _ | ⟨h0, _ | ⟨h1, _ | ⟨h2, _ | ⟨h3, _ | ⟨h4, _ | _⟩⟩⟩⟩⟩
  exact ⟨_, _, _, _, _, rfl, h0, h1, h2, h3, h4⟩

/-- Digits that a format can have are put together to the number they are for. -/
theorem encode_value {mode : NumberMode} {ds : List Nat}
    (h : List.Forall₂ (· < ·) ds (radices mode)) :
    (encode mode ds).map (fun m => if mode = .L then m else u16 m) =
      some (Radix.value (radices mode) ds) := by
  have hlt := Radix.value_lt h
  cases mode with
  | F =>
      -- From fifty-five minutes on they do not fit an `int`, and the last sum brings them right.
      rcases five h with ⟨d0, d1, d2, d3, d4, rfl, h0, h1, h2, h3, h4⟩
      simp only [encode, radices, Radix.value, Option.map_some, Option.some.injEq, reduceCtorEq,
        if_false, u16_addInt_addInt]
      exact (u16_of_lt (by omega)).trans (by omega)
  | T =>
      rcases five h with ⟨d0, d1, d2, d3, d4, rfl, h0, h1, h2, h3, h4⟩
      have hhours := u16_addInt 0 (d4 * 3600)
      simp only [encode, radices, Radix.value, Option.map_some, Option.some.injEq, reduceCtorEq,
        if_false, u16_addInt_addInt]
      unfold u16 at hhours ⊢
      omega
  | H =>
      rcases five h with ⟨d0, d1, d2, d3, d4, rfl, h0, h1, h2, h3, h4⟩
      simp only [encode, radices, Radix.value, Option.map_some, Option.some.injEq, reduceCtorEq,
        if_false, u16_addInt_addInt]
      exact (u16_of_lt (by omega)).trans (by omega)
  | B =>
      rcases five h with ⟨d0, d1, d2, d3, d4, rfl, h0, h1, h2, h3, h4⟩
      simp only [encode, radices, Radix.value, Option.map_some, Option.some.injEq, reduceCtorEq,
        if_false]
      rw [addDigit_of_le (by omega : d2 ≤ 10000) h1, addDigit_of_le (by omega) h0]
      exact (u16_of_lt (by omega)).trans (by omega)
  | G =>
      -- The two digits that are not shown are zero.
      rcases five h with ⟨d0, d1, d2, d3, d4, rfl, h0, h1, h2, h3, h4⟩
      simp only [encode, radices, Radix.value, Option.map_some, Option.some.injEq, reduceCtorEq,
        if_false]
      rw [addDigit_of_le (by omega : d4 ≤ 10000) (by omega), addDigit_of_le (by omega) h2,
        addDigit_of_le (by omega) h1, addDigit_of_le (by omega) h0]
      exact (u16_of_lt (by omega)).trans (by omega)
  | L =>
      rcases five h with ⟨d0, d1, d2, d3, d4, rfl, h0, h1, h2, h3, h4⟩
      simp only [encode, radices, Radix.value, Option.map_some, Option.some.injEq, if_true]
      rw [addDigit_of_le (by omega : d4 ≤ 10000) h3, addDigit_of_le (by omega) h2,
        addDigit_of_le (by omega) h1, addDigit_of_le (by omega) h0]
      omega
  | U =>
      rcases five h with ⟨d0, d1, d2, d3, d4, rfl, h0, h1, h2, h3, h4⟩
      simp only [encode, radices, Radix.value, Option.map_some, Option.some.injEq, reduceCtorEq,
        if_false]
      rw [addDigit_of_le (by omega : d4 ≤ 10000) h3, addDigit_of_le (by omega) h2,
        addDigit_of_le (by omega) h1, addDigit_of_le (by omega) h0]
      exact (u16_of_lt (by omega)).trans (by omega)

theorem radices_length (mode : NumberMode) : (radices mode).length = 5 := by
  cases mode <;> rfl

/-- A place that is not shown counts to one: it has nothing but a zero. -/
theorem hidden_radix {mode : NumberMode} {l x : Nat}
    (hl : l = width mode ∨ l = 5 ∧ (mode = .H ∨ mode = .B)) (hx : x < 5)
    (hhidden : ¬ (x < l ∧ ¬ (mode = .B ∧ x = 3))) : (radices mode)[x]? = some 1 := by
  rcases hl with rfl | ⟨rfl, hmode⟩
  · revert x
    cases mode <;> decide
  · -- All five are shown, but the sign stands at the place of a digit.
    have hsign : mode = .B ∧ x = 3 := by
      by_contra hdigit
      exact hhidden ⟨hx, hdigit⟩
    rw [hsign.1, hsign.2]
    rfl

/-- The digits are read off from what is drawn. -/
theorem drawn_digits {mode : NumberMode} {ds : List Nat} {l : Nat}
    (h : List.Forall₂ (· < ·) ds (radices mode))
    (hl : l = width mode ∨ l = 5 ∧ (mode = .H ∨ mode = .B)) :
    (drawn mode ds l).map (fun s => Option.getD s 0) = ds := by
  have hlength : ds.length = 5 := h.length_eq.trans (radices_length mode)
  unfold drawn
  rw [List.map_map]
  refine List.ext_getElem (by rw [List.length_map, List.length_range, hlength]) fun x _ hx => ?_
  rw [List.getElem_map, List.getElem_range, Function.comp_apply]
  by_cases hshown : x < l ∧ ¬ (mode = .B ∧ x = 3)
  · rw [if_pos hshown, List.getElem?_eq_getElem hx, Option.getD_some]
  · rcases Radix.below_get h (hidden_radix hl (hlength ▸ hx) hshown) with ⟨d, hd, hzero⟩
    rw [List.getElem?_eq_getElem hx, Option.some.injEq] at hd
    rw [if_neg hshown, hd, Option.getD_none]
    omega

/-- What the digits of a format are worth together. -/
theorem value_weights {mode : NumberMode} {ds : List Nat}
    (h : List.Forall₂ (· < ·) ds (radices mode)) :
    (List.zipWith (fun w d => w * d) (weights mode) ds).sum = Radix.value (radices mode) ds := by
  cases mode with
  | F =>
      rcases five h with ⟨d0, d1, d2, d3, d4, rfl, h0, h1, h2, h3, h4⟩
      simp only [weights, radices, Radix.value, List.zipWith, List.sum_cons, List.sum_nil]
      omega
  | T =>
      rcases five h with ⟨d0, d1, d2, d3, d4, rfl, h0, h1, h2, h3, h4⟩
      simp only [weights, radices, Radix.value, List.zipWith, List.sum_cons, List.sum_nil]
      omega
  | H =>
      rcases five h with ⟨d0, d1, d2, d3, d4, rfl, h0, h1, h2, h3, h4⟩
      simp only [weights, radices, Radix.value, List.zipWith, List.sum_cons, List.sum_nil]
      omega
  | B =>
      rcases five h with ⟨d0, d1, d2, d3, d4, rfl, h0, h1, h2, h3, h4⟩
      simp only [weights, radices, Radix.value, List.zipWith, List.sum_cons, List.sum_nil]
      omega
  | G =>
      rcases five h with ⟨d0, d1, d2, d3, d4, rfl, h0, h1, h2, h3, h4⟩
      simp only [weights, radices, Radix.value, List.zipWith, List.sum_cons, List.sum_nil]
      omega
  | L =>
      rcases five h with ⟨d0, d1, d2, d3, d4, rfl, h0, h1, h2, h3, h4⟩
      simp only [weights, radices, Radix.value, List.zipWith, List.sum_cons, List.sum_nil]
      omega
  | U =>
      rcases five h with ⟨d0, d1, d2, d3, d4, rfl, h0, h1, h2, h3, h4⟩
      simp only [weights, radices, Radix.value, List.zipWith, List.sum_cons, List.sum_nil]
      omega

/-- What is drawn of the digits of a format is the number they are for, also while there
    seem to be five of them. -/
theorem number_drawn {mode : NumberMode} {ds : List Nat} {l : Nat}
    (h : List.Forall₂ (· < ·) ds (radices mode))
    (hl : l = width mode ∨ l = 5 ∧ (mode = .H ∨ mode = .B)) :
    number mode (drawn mode ds l) = Radix.value (radices mode) ds := by
  rw [← value_weights h]
  conv_rhs => rw [← drawn_digits h hl]
  rw [List.zipWith_map_right]
  rfl

/-- What holds between two calls: the digits are such as the format has, and one that can
    be edited is. -/
structure Sound (mode : NumberMode) (e : NumberEditor) : Prop where
  below : List.Forall₂ (· < ·) e.d (radices mode)
  place : e.i < width mode
  wide : e.l = width mode ∨ e.l = 5 ∧ (mode = .H ∨ mode = .B)

theorem width_le (mode : NumberMode) : 3 ≤ width mode ∧ width mode ≤ 5 := by
  cases mode <;> decide

/-- What a place counts to is what the keys turn it up to. -/
theorem radices_get {mode : NumberMode} {i : Nat} (hi : i < width mode) :
    (radices mode)[i]? = some (cap mode i + 1) := by
  revert i
  cases mode <;> decide

/-- The digits are drawn. -/
theorem draw_sound {mode : NumberMode} {e : NumberEditor} (h : Sound mode e) :
    ∃ e', draw mode e = some e' ∧ Sound mode e' ∧ e'.l = width mode ∧ e'.d = e.d ∧
      e'.negBulbOffset = e.negBulbOffset ∧
      number mode e'.screen = Radix.value (radices mode) e.d ∧
      (mode = .B → e'.minus = e'.negBulbOffset) := by
  have hlength : e.d.length = 5 := h.below.length_eq.trans (radices_length mode)
  have hfit : e.l ≤ e.d.length := by
    have hwidth := (width_le mode).2
    rcases h.wide with hl | ⟨hl, -⟩
    · omega
    · omega
  -- The formats with four digits have them from here on.
  have hl : (if mode = .H ∨ mode = .B then 4 else e.l) = width mode := by
    by_cases hfour : mode = .H ∨ mode = .B
    · rw [if_pos hfour]
      rcases hfour with rfl | rfl
      · rfl
      · rfl
    · rw [if_neg hfour]
      rcases h.wide with hl | ⟨-, hmode⟩
      · exact hl
      · exact absurd hmode hfour
  refine ⟨_, if_pos hfit, ⟨h.below, h.place, .inl hl⟩, hl, rfl, rfl,
    number_drawn h.below h.wide, ?_⟩
  rintro rfl
  rfl

/-- A digit is turned to another that its place can have. -/
theorem turn_sound {mode : NumberMode} {e : NumberEditor} (h : Sound mode e)
    (f : Nat → Nat) (hf : ∀ x, x ≤ cap mode e.i → f x ≤ cap mode e.i) :
    ∃ e', turn mode e f = some e' ∧ Sound mode e' := by
  have hradix := radices_get h.place
  rcases Radix.below_get h.below hradix with ⟨x, hx, hlt⟩
  unfold turn
  rw [hx, Option.map_some]
  refine ⟨_, rfl, ⟨Radix.below_set h.below e.i (f x) ?_, h.place, h.wide⟩⟩
  intro r hr
  rw [hradix, Option.some.injEq] at hr
  have hturned := hf x (Nat.le_of_lt_succ hlt)
  omega

/-- The key is looked at once the digits have been drawn. -/
theorem key_sound {mode : NumberMode} {e : NumberEditor} (h : Sound mode e)
    (hl : e.l = width mode) (k : Key) : ∃ e', key mode e k = some e' ∧ Sound mode e' ∧
      (k ≠ .up → k ≠ .down → e'.d = e.d ∧ e'.negBulbOffset = e.negBulbOffset) := by
  have hwidth := (width_le mode).1
  have hplace := h.place
  cases k with
  | none => exact ⟨e, rfl, h, fun _ _ => ⟨rfl, rfl⟩⟩
  | fl => exact ⟨e, rfl, h, fun _ _ => ⟨rfl, rfl⟩⟩
  | fr => exact ⟨e, rfl, h, fun _ _ => ⟨rfl, rfl⟩⟩
  | left =>
      refine ⟨_, rfl, ⟨h.below, ?_, h.wide⟩, fun _ _ => ⟨rfl, rfl⟩⟩
      simp only
      split <;> omega
  | right =>
      refine ⟨_, rfl, ⟨h.below, ?_, h.wide⟩, fun _ _ => ⟨rfl, rfl⟩⟩
      simp only
      split <;> omega
  | up =>
      rcases turn_sound h (fun x => if x < cap mode e.i then x + 1 else 0)
        (fun x _ => by split <;> omega) with ⟨e', hturn, hsound⟩
      exact ⟨e', hturn, hsound, fun hup _ => absurd rfl hup⟩
  | down =>
      rcases turn_sound h (fun x => if 0 < x then x - 1 else cap mode e.i)
        (fun x _ => by split <;> omega) with ⟨e', hturn, hsound⟩
      exact ⟨e', hturn, hsound, fun _ hdown => absurd rfl hdown⟩

/-- A call of the editor. -/
theorem call_sound {mode : NumberMode} {e : NumberEditor} (h : Sound mode e) (k : Key) :
    ∃ e', call mode e k = some e' ∧ Sound mode e' ∧
      (k ≠ .up → k ≠ .down → e'.d = e.d ∧ e'.negBulbOffset = e.negBulbOffset) := by
  rcases draw_sound h with ⟨e₁, hdraw, hsound, hl, hd, hneg, -, -⟩
  rcases key_sound hsound hl k with ⟨e₂, hkey, hsound₂, hsame⟩
  refine ⟨e₂, ?_, hsound₂, fun hup hdown => ?_⟩
  · unfold call
    rw [hdraw]
    exact hkey
  · rcases hsame hup hdown with ⟨hd₂, hneg₂⟩
    exact ⟨hd₂.trans hd, hneg₂.trans hneg⟩

/-- Any number of calls. -/
theorem steps_sound {mode : NumberMode} {e : NumberEditor} (h : Sound mode e) (keys : List Key) :
    ∃ e', steps (call mode) e keys = some e' ∧ Sound mode e' ∧
      ((∀ k ∈ keys, k ≠ .up ∧ k ≠ .down) →
        e'.d = e.d ∧ e'.negBulbOffset = e.negBulbOffset) := by
  induction keys generalizing e with
  | nil => exact ⟨e, rfl, h, fun _ => ⟨rfl, rfl⟩⟩
  | cons k keys ih =>
      rcases call_sound h k with ⟨e₁, hcall, hsound, hsame⟩
      rcases ih hsound with ⟨e₂, hsteps, hsound₂, hsame₂⟩
      refine ⟨e₂, ?_, hsound₂, fun hkeys => ?_⟩
      · rw [steps_cons _ hcall]
        exact hsteps
      · have hk := hkeys k List.mem_cons_self
        rcases hsame hk.1 hk.2 with ⟨hd, hneg⟩
        rcases hsame₂ fun k' hk' => hkeys k' (List.mem_cons_of_mem k hk') with ⟨hd₂, hneg₂⟩
        exact ⟨hd₂.trans hd, hneg₂.trans hneg⟩

/-- A call without a key draws what there is. -/
theorem idle_sound {mode : NumberMode} {e : NumberEditor} (h : Sound mode e) :
    ∃ e', call mode e .none = some e' ∧ e'.d = e.d ∧ e'.negBulbOffset = e.negBulbOffset ∧
      number mode e'.screen = Radix.value (radices mode) e.d ∧
      (mode = .B → e'.minus = e'.negBulbOffset) := by
  rcases draw_sound h with ⟨e', hdraw, -, -, hd, hneg, hnumber, hminus⟩
  refine ⟨e', ?_, hd, hneg, hnumber, hminus⟩
  unfold call
  rw [hdraw]
  rfl

/-- A number that the format holds is entered as its digits. -/
theorem enter_sound {mode : NumberMode} {m : Nat} (hm : m < (radices mode).prod) (neg : Bool) :
    ∃ e, enter mode m neg = some e ∧ Sound mode e ∧ e.d = Radix.digits (radices mode) m ∧
      e.negBulbOffset = neg := by
  have hpos : ∀ r ∈ radices mode, 0 < r := by
    cases mode <;> decide
  have hl : (if mode = .G then 3 else 5) = width mode ∨
      (if mode = .G then 3 else 5) = 5 ∧ (mode = .H ∨ mode = .B) := by
    cases mode <;> decide
  have hplace : 0 < width mode := Nat.lt_of_lt_of_le (by decide) (width_le mode).1
  unfold enter
  rw [decode_digits hm, Option.map_some]
  exact ⟨_, rfl, ⟨Radix.digits_below hpos m, hplace, hl⟩, rfl, rfl⟩

/-- The digits of the format are right about the numbers it holds. -/
theorem editsShown_of_lt {mode : NumberMode} {m : Nat} (hm : m < (radices mode).prod)
    (neg : Bool) : EditsShown mode m neg := by
  have hvalue : Radix.value (radices mode) (Radix.digits (radices mode) m) = m := by
    rw [Radix.value_digits, Nat.mod_eq_of_lt hm]
  rcases enter_sound hm neg with ⟨e₀, henter, hsound₀, hd₀, hneg₀⟩
  refine ⟨⟨e₀, henter, ?_⟩, fun keys _ => ?_⟩
  · unfold save
    rw [encode_value hsound₀.below, hd₀, hvalue]
  · rcases steps_sound hsound₀ keys with ⟨e₁, hsteps, hsound₁, hsame⟩
    rcases idle_sound hsound₁ with ⟨e₂, hidle, hd₂, hneg₂, hnumber, hminus⟩
    refine ⟨e₀, e₂, Radix.value (radices mode) e₁.d, henter, ?_, ?_, hnumber.symm, hminus,
      fun hkeys => ?_⟩
    · rw [steps_append keys _ hsteps, steps_cons _ hidle]
      rfl
    · unfold save
      rw [hd₂]
      exact encode_value hsound₁.below
    · rcases hsame hkeys with ⟨hd, hneg⟩
      rw [hd, hd₀, hvalue]
      exact ⟨rfl, (hneg₂.trans hneg).trans hneg₀⟩

/-- What is entered has been taken apart. -/
theorem enter_eq {mode : NumberMode} {m : Nat} {neg : Bool} {e : NumberEditor}
    (h : enter mode m neg = some e) : decode mode m = some e.d ∧ e.i = 0 ∧
      e.l = (if mode = .G then 3 else 5) := by
  rcases Option.map_eq_some_iff.mp h with ⟨d, hd, rfl⟩
  exact ⟨hd, rfl, rfl⟩

/-- A number of more than five digits is not taken apart. -/
theorem five_of_enter {mode : NumberMode} (hF : mode ≠ .F) (hT : mode ≠ .T) (hH : mode ≠ .H)
    {m : Nat} {neg : Bool} {e : NumberEditor} (h : enter mode m neg = some e) :
    m < 100000 ∧ e.d = [m % 10, m / 10 % 10, m / 10 / 10 % 10, m / 10 / 10 / 10 % 10,
      m / 10 / 10 / 10 / 10 % 10] := by
  have hdecode := (enter_eq h).1
  rw [decode_plain hF hT hH] at hdecode
  split at hdecode
  case isTrue hless => exact ⟨hless, (Option.some.inj hdecode).symm⟩
  case isFalse => cases hdecode

/-- A time that the digits cannot hold is not stored again. -/
theorem time_lt {mode : NumberMode} (hmode : mode = .F ∨ mode = .T ∨ mode = .H) {m : Nat}
    {neg : Bool} (h : EditsShown mode m neg) : m < (radices mode).prod := by
  have hpos : (∀ r ∈ radices mode, 0 < r) ∧ 0 < (radices mode).prod := by
    cases mode <;> decide
  rcases h.1 with ⟨e, henter, hsave⟩
  have hd := (enter_eq henter).1
  rw [decode_time hmode, Option.some.injEq] at hd
  have hvalue := encode_value (Radix.digits_below hpos.1 m)
  unfold save at hsave
  rw [← hd, hvalue, Radix.value_digits, Option.some.injEq] at hsave
  rw [← hsave]
  exact Nat.mod_lt m hpos.2

/-- The fourth digit is turned up to nine, and the fifth left at six. -/
theorem up_fourth (n : Nat) {e : NumberEditor} {d0 d1 d2 x : Nat} (hi : e.i = 3) (hl : e.l = 5)
    (hd : e.d = [d0, d1, d2, x, 6]) (hn : x + n ≤ 9) :
    ∃ e', steps (call .U) e (List.replicate n .up) = some e' ∧ e'.i = 3 ∧ e'.l = 5 ∧
      e'.d = [d0, d1, d2, x + n, 6] := by
  induction n generalizing e x with
  | zero => exact ⟨e, rfl, hi, hl, hd⟩
  | succ n ih =>
      rcases e with ⟨d, i, l, screen, minus, neg⟩
      simp only at hi hl hd
      subst hi hl hd
      have hcall : call .U ⟨[d0, d1, d2, x, 6], 3, 5, screen, minus, neg⟩ .up =
          some ⟨[d0, d1, d2, if x < 9 then x + 1 else 0, 6], 3, 5,
            drawn .U [d0, d1, d2, x, 6] 5, false, neg⟩ := rfl
      rw [if_pos (by omega)] at hcall
      rcases ih (e := ⟨[d0, d1, d2, x + 1, 6], 3, 5, drawn .U [d0, d1, d2, x, 6] 5, false, neg⟩)
        rfl rfl rfl (by omega : x + 1 + n ≤ 9) with ⟨e', hsteps, hi, hl, hd⟩
      refine ⟨e', ?_, hi, hl, ?_⟩
      · rw [List.replicate_succ, steps_cons _ hcall]
        exact hsteps
      · rw [hd, Nat.add_right_comm, Nat.add_assoc]

/-- Three times left is the fourth digit. -/
theorem left_fourth {e : NumberEditor} {d0 d1 d2 d3 d4 : Nat} (hi : e.i = 0) (hl : e.l = 5)
    (hd : e.d = [d0, d1, d2, d3, d4]) : ∃ e', steps (call .U) e [.left, .left, .left] = some e' ∧
      e'.i = 3 ∧ e'.l = 5 ∧ e'.d = [d0, d1, d2, d3, d4] := by
  rcases e with ⟨d, i, l, screen, minus, neg⟩
  simp only at hi hl hd
  subst hi hl hd
  exact ⟨_, rfl, rfl, rfl, rfl⟩

/-- The number that is shown of any five digits. -/
theorem number_plain (d0 d1 d2 d3 d4 : Nat) : number .U (drawn .U [d0, d1, d2, d3, d4] 5) =
    d0 + 10 * d1 + 100 * d2 + 1000 * d3 + 10000 * d4 := by
  have hsum : number .U (drawn .U [d0, d1, d2, d3, d4] 5) =
      [1 * d0, 10 * d1, 100 * d2, 1000 * d3, 10000 * d4].sum := rfl
  simp only [hsum, List.sum_cons, List.sum_nil]
  omega

theorem number_decimal (d0 d1 d2 d3 d4 : Nat) : number .G (drawn .G [d0, d1, d2, d3, d4] 3) =
    d0 + 10 * d1 + 100 * d2 := by
  have hsum : number .G (drawn .G [d0, d1, d2, d3, d4] 3) =
      [1 * d0, 10 * d1, 100 * d2, 1000 * 0, 10000 * 0].sum := rfl
  simp only [hsum, List.sum_cons, List.sum_nil]
  omega

/-- From sixty thousand on the keys come to a number that is too large. -/
theorem plain_lt {m : Nat} {neg : Bool} (h : EditsShown .U m neg) : m < 60000 := by
  by_contra hlarge
  rcases h.1 with ⟨e, henter, hsave⟩
  have hword : m < 65536 := by
    rcases Option.map_eq_some_iff.mp hsave with ⟨x, -, hx⟩
    rw [← hx]
    exact u16_lt x
  rcases five_of_enter (by decide) (by decide) (by decide) henter with ⟨-, hd⟩
  rw [(by omega : m / 10 / 10 / 10 / 10 % 10 = 6)] at hd
  -- The keys go to the fourth digit and turn it up to nine.
  rcases left_fourth (enter_eq henter).2.1 (enter_eq henter).2.2 hd with ⟨e₁, hleft, hi, hl, hd₁⟩
  have hfourth : m / 10 / 10 / 10 % 10 ≤ 9 := by omega
  rcases up_fourth (9 - m / 10 / 10 / 10 % 10) hi hl hd₁ (by omega) with
    ⟨e₂, hup, hi₂, hl₂, hd₂⟩
  rw [Nat.add_sub_cancel' hfourth] at hd₂
  have hlefts : ∀ k ∈ [Key.left, .left, .left], k ≠ .fl ∧ k ≠ .fr := by decide
  have hkeys : ∀ k ∈ [Key.left, .left, .left] ++
      List.replicate (9 - m / 10 / 10 / 10 % 10) Key.up, k ≠ .fl ∧ k ≠ .fr := by
    intro k hk
    rcases List.mem_append.mp hk with hk | hk
    · exact hlefts k hk
    · rw [(List.mem_replicate.mp hk).2]
      decide
  rcases h.2 _ hkeys with ⟨e₀, e₃, r, henter₀, hsteps, hsave₃, hr, -, -⟩
  rw [henter, Option.some.injEq] at henter₀
  subst henter₀
  rw [List.append_assoc, steps_append _ _ hleft, steps_append _ _ hup] at hsteps
  -- The digits that are drawn are those turned up.
  have hdrawn : e₃.screen = drawn .U e₂.d 5 := by
    rcases e₂ with ⟨d, i, l, screen, minus, neg⟩
    simp only at hi₂ hl₂ hd₂
    subst hi₂ hl₂ hd₂
    cases hsteps
    rfl
  have hless : r < 65536 := by
    rcases Option.map_eq_some_iff.mp hsave₃ with ⟨x, -, hx⟩
    rw [← hx]
    exact u16_lt x
  rw [hdrawn, hd₂, number_plain] at hr
  omega

/-- An offset is stored with three digits. -/
theorem offset_lt {m : Nat} {neg : Bool} (h : EditsShown .B m neg) : m < 1000 := by
  rcases h.1 with ⟨e, henter, hsave⟩
  rcases five_of_enter (by decide) (by decide) (by decide) henter with ⟨-, hd⟩
  have hone : m / 10 % 10 < 10 ∧ m % 10 < 10 := by omega
  unfold save at hsave
  simp only [hd, encode, Option.map_some, Option.some.injEq, reduceCtorEq, if_false] at hsave
  rw [addDigit_of_le (by omega) hone.1, addDigit_of_le (by omega) hone.2] at hsave
  have hle := Nat.mod_le ((m / 10 / 10 % 10 * 10 + m / 10 % 10) * 10 + m % 10) 65536
  unfold u16 at hsave
  omega

/-- A number with one decimal is shown with three. -/
theorem decimal_lt {m : Nat} {neg : Bool} (h : EditsShown .G m neg) : m < 1000 := by
  rcases h.2 [] (fun k hk => absurd hk List.not_mem_nil) with
    ⟨e, e₁, r, henter, hsteps, -, hr, -, hsame⟩
  have hm := (hsame fun k hk => absurd hk List.not_mem_nil).1
  rcases enter_eq henter with ⟨-, hi, hl⟩
  rcases five_of_enter (by decide) (by decide) (by decide) henter with ⟨-, hd⟩
  have hdrawn : e₁.screen = drawn .G e.d 3 := by
    rcases e with ⟨d, i, l, screen, minus, neg⟩
    simp only at hi hl hd
    subst hi hl hd
    cases hsteps
    rfl
  rw [hdrawn, hd, number_decimal] at hr
  omega

/-- A format is right about just the numbers it holds. -/
theorem editsShown_iff (mode : NumberMode) (m : Nat) (neg : Bool) :
    EditsShown mode m neg ↔ m < (radices mode).prod := by
  refine ⟨fun h => ?_, fun h => editsShown_of_lt h neg⟩
  cases mode with
  | F => exact time_lt (.inl rfl) h
  | T => exact time_lt (.inr (.inl rfl)) h
  | H => exact time_lt (.inr (.inr rfl)) h
  | L =>
      rcases h.1 with ⟨e, henter, -⟩
      exact (five_of_enter (by decide) (by decide) (by decide) henter).1
  | U => exact plain_lt h
  | B => exact offset_lt h
  | G => exact decimal_lt h

/-- Of 65443 frames the fourth digit is turned up to nine: 69443 are shown, and 3907
    stored. A hundred hours are stored as none, and a number of six digits has no place
    for its last. -/
theorem frames_overflow :
    (∃ e₀ e, enter .U 65443 false = some e₀ ∧
      steps (call .U) e₀ [.left, .left, .left, .up, .up, .up, .up, .none] = some e ∧
      number .U e.screen = 69443 ∧ save .U e = some 3907) ∧
    (∃ e, enter .H 6000 false = some e ∧ save .H e = some 0) ∧
    enter .L 100000 false = none ∧ ¬ EditsShown .U 65443 false := by
  refine ⟨⟨_, _, rfl, rfl, rfl, rfl⟩, ⟨_, rfl, rfl⟩, rfl, fun h => ?_⟩
  exact absurd (plain_lt h) (by decide)

end EditNumber

end Menu

end TimelapsePlus
