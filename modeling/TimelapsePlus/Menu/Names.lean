import Mathlib.Data.List.GetD
import TimelapsePlus.Lib.CString
import TimelapsePlus.Menu.Programs

/-!
# The Names that Can Be Entered

The editor of names turns one of eleven characters at a time, up or down, among the blank,
the letters and the digits, and moves on to the next. What is there when it is entered, and
is none of these, is made a blank. So a name is what the keys make of it, and any that there
is can be made.

The name of the unit is cut behind its last letter or digit before it is stored, so the
blanks behind it are not part of it. A name of blanks alone has nothing to be cut behind, and
all of it is stored.

## Main definitions

* `Sign`: What a name is made of.
* `systemName`: `system_name`, up to where the name is stored.
* `Name`: A name that can be stored.
* `Signs`: A text of signs.

## Theorems

* `turned_sign`: The signs follow one another in a circle.
* `cut_cases`: Where a name is cut.
* `editText_signs`: Every key leaves signs.
* `exists_keys`: Any text of signs can be made of any other.
* `system_names`: The names that can be stored.
-/

namespace TimelapsePlus

namespace Menu

namespace Names

open Programs

/-- A blank, a letter or a digit. -/
def Sign (c : UInt8) : Prop := c = 32 ∨ noText c = false

/-- The loop that cuts a name behind its last letter or digit. -/
def cut (name : List UInt8) : Nat → List UInt8
  | 0 => name
  | i + 1 => if noText (name.getD i 0) = false then name.set (i + 1) 0 else cut name i

/-- `system_name`, from the second call on: the name that is stored, if one is. -/
def calls (text : Fin 12 → UInt8) (i : Fin 11) : List Key → Option (List UInt8)
  | [] => none
  | key :: keys =>
    match editText key text i false with
    | (text, _, .save) => some (cut (List.ofFn text) 11)
    | (_, _, .cancel) => none
    | (text, i, _) => calls text i keys

/-- `system_name`, with the name that the unit has, and the cursor as it was left. -/
def systemName (sysName : Fin 12 → UInt8) (i : Fin 11) (key : Key) (keys : List Key) :
    Option (List UInt8) :=
  match editText key sysName i true with
  | (text, _, .save) => some (cut (List.ofFn text) 11)
  | (_, _, .cancel) => none
  | (text, i, _) => calls text i keys

/-- A name of signs that does not end with a blank, or of eleven blanks. -/
def Name (name : List UInt8) : Prop :=
  (∀ c ∈ name, Sign c) ∧ (name = List.replicate 11 32 ∨
    name.length ≤ 11 ∧ ∃ c, name.getLast? = some c ∧ noText c = false)

section Signs

/-- The signs in the order in which the keys turn them: the blank, the letters, the digits. -/
def sign (k : Nat) : UInt8 :=
  if k = 0 then 32 else if k < 27 then UInt8.ofNat (64 + k) else UInt8.ofNat (21 + k)

/-- A character turned down, as it is written back: what is behind the digits is a blank. -/
def turned (c : UInt8) : UInt8 := if noText (turnDown c) = true then 32 else turnDown c

theorem exists_sign {c : UInt8} (h : Sign c) : ∃ k, k < 37 ∧ c = sign k := by
  rcases h with hblank | htext
  · exact ⟨0, by decide, hblank⟩
  · have hbyte := c.toNat_lt
    have hback : UInt8.ofNat c.toNat = c := UInt8.ofNat_toNat
    simp only [noText, decide_eq_false_iff_not, UInt8.lt_iff_toNat_lt, UInt8.reduceToNat]
      at htext
    by_cases hletter : 65 ≤ c.toNat
    · have hpos : c.toNat - 64 ≠ 0 := by omega
      refine ⟨c.toNat - 64, by omega, ?_⟩
      rw [sign, if_neg hpos, if_pos (by omega), Nat.add_sub_cancel' (by omega), hback]
    · have hpos : c.toNat - 21 ≠ 0 := by omega
      refine ⟨c.toNat - 21, by omega, ?_⟩
      rw [sign, if_neg hpos, if_neg (by omega), Nat.add_sub_cancel' (by omega), hback]

theorem sign_sign : ∀ k < 37, Sign (sign k) := by
  unfold Sign
  decide

/-- The signs follow one another in a circle. -/
theorem turned_sign : ∀ k < 37, turned (sign k) = sign ((k + 1) % 37) := by decide

theorem iterate_sign {k : Nat} (hk : k < 37) (n : Nat) :
    turned^[n] (sign k) = sign ((k + n) % 37) := by
  induction n with
  | zero => rw [Function.iterate_zero_apply, Nat.add_zero, Nat.mod_eq_of_lt hk]
  | succ n ih =>
      rw [Function.iterate_succ_apply', ih, turned_sign _ (Nat.mod_lt _ (by decide)),
        Nat.mod_add_mod, Nat.add_assoc]

/-- So one comes to any of them from any other. -/
theorem exists_iterate {c d : UInt8} (hc : Sign c) (hd : Sign d) : ∃ n, turned^[n] c = d := by
  rcases exists_sign hc with ⟨k, hk, rfl⟩
  rcases exists_sign hd with ⟨m, hm, rfl⟩
  refine ⟨m + 37 - k, ?_⟩
  rw [iterate_sign hk]
  congr 1
  omega

theorem turned_isSign {c : UInt8} (hc : Sign c) : Sign (turned c) := by
  rcases exists_sign hc with ⟨k, hk, rfl⟩
  rw [turned_sign k hk]
  exact sign_sign _ (Nat.mod_lt _ (by decide))

end Signs

section Cut

/-- A name is cut behind the last that is a letter or a digit, if there is one. -/
theorem cut_cases (name : List UInt8) (n : Nat) :
    (∃ i < n, noText (name.getD i 0) = false ∧
      (∀ j, i < j → j < n → noText (name.getD j 0) = true) ∧ cut name n = name.set (i + 1) 0) ∨
    (∀ j < n, noText (name.getD j 0) = true) ∧ cut name n = name := by
  induction n with
  | zero => exact Or.inr ⟨fun j hj => absurd hj (Nat.not_lt_zero j), rfl⟩
  | succ n ih =>
      unfold cut
      by_cases htext : noText (name.getD n 0) = false
      · rw [if_pos htext]
        exact Or.inl ⟨n, Nat.lt_succ_self n, htext, fun j hn hj => by omega, rfl⟩
      · rw [if_neg htext]
        have hblank : noText (name.getD n 0) = true := Bool.eq_true_of_not_eq_false htext
        rcases ih with ⟨i, hi, hlast, hbehind, hcut⟩ | ⟨hnone, hcut⟩
        · refine Or.inl ⟨i, Nat.lt_succ_of_lt hi, hlast, fun j hij hj => ?_, hcut⟩
          rcases Nat.lt_succ_iff_lt_or_eq.mp hj with hlt | rfl
          · exact hbehind j hij hlt
          · exact hblank
        · refine Or.inr ⟨fun j hj => ?_, hcut⟩
          rcases Nat.lt_succ_iff_lt_or_eq.mp hj with hlt | rfl
          · exact hnone j hlt
          · exact hblank

/-- The string in an array goes up to the first zero. -/
theorem text_eq_take {s : List UInt8} {k : Nat} (hzero : s.getD k 0 = 0)
    (hbefore : ∀ j < k, s.getD j 0 ≠ 0) : CString.text s = s.take k := by
  induction k generalizing s with
  | zero =>
      rw [CString.text_head, List.take_zero, if_pos]
      cases s with
      | nil => rfl
      | cons c s => exact hzero
  | succ k ih =>
      cases s with
      | nil => rfl
      | cons c s =>
          have hhead : c ≠ 0 := hbefore 0 (Nat.succ_pos k)
          rw [CString.text_cons, if_neg hhead, List.take_succ_cons,
            ih hzero fun j hj => hbefore (j + 1) (Nat.succ_lt_succ hj)]

end Cut

section Editor

/-- A text of signs, with a zero behind them. -/
def Signs (text : Fin 12 → UInt8) : Prop :=
  (∀ c : Fin 12, c.val < 11 → Sign (text c)) ∧ text (Fin.last 11) = 0

/-- What is no letter and no digit is made a blank. -/
def blanked (text : Fin 12 → UInt8) (c : Fin 12) : UInt8 :=
  if c.val < 11 ∧ noText (text c) = true then 32 else text c

theorem blanked_signs {text : Fin 12 → UInt8} (h : text (Fin.last 11) = 0) :
    Signs (blanked text) := by
  refine ⟨fun c hc => ?_, ?_⟩
  · unfold blanked
    split
    · exact Or.inl rfl
    · next hkept => exact Or.inr (Bool.eq_false_of_not_eq_true fun hblank => hkept ⟨hc, hblank⟩)
  · unfold blanked
    rw [if_neg fun hc => absurd hc.1 (by decide)]
    exact h

theorem blanked_of_signs {text : Fin 12 → UInt8} (h : Signs text) : blanked text = text := by
  funext c
  unfold blanked
  split
  · next hc =>
      rcases h.1 c hc.1 with hblank | htext
      · exact hblank.symm
      · exact absurd hc.2 (by rw [htext]; exact Bool.false_ne_true)
  · rfl

/-- The zero behind a text is never at the cursor. -/
theorem update_zero {text : Fin 12 → UInt8} (h : text (Fin.last 11) = 0) (i : Fin 11) (c : UInt8) :
    Function.update text i.castSucc c (Fin.last 11) = 0 := by
  rw [Function.update_of_ne (fun heq => ?_)]
  · exact h
  · have hval : 11 = i.val := congrArg Fin.val heq
    omega

theorem Signs.update {text : Fin 12 → UInt8} (h : Signs text) (i : Fin 11) {c : UInt8}
    (hc : Sign c) : Signs (Function.update text i.castSucc c) := by
  refine ⟨fun d hd => ?_, update_zero h.2 i c⟩
  by_cases heq : d = i.castSucc
  · rw [heq, Function.update_self]
    exact hc
  · rw [Function.update_of_ne heq]
    exact h.1 d hd

theorem blanked_update {text : Fin 12 → UInt8} (h : Signs text) (i : Fin 11) (c : UInt8) :
    blanked (Function.update text i.castSucc c) =
      Function.update text i.castSucc (if noText c = true then 32 else c) := by
  funext d
  by_cases heq : d = i.castSucc
  · rw [heq, Function.update_self]
    unfold blanked
    simp only [Function.update_self, Fin.val_castSucc, i.isLt, true_and]
  · rw [Function.update_of_ne heq]
    refine Eq.trans ?_ (congrFun (blanked_of_signs h) d)
    unfold blanked
    rw [Function.update_of_ne heq]

/-- Every key leaves signs, once the editor has been entered. -/
theorem editText_signs (key : Key) {text : Fin 12 → UInt8} (i : Fin 11) (first : Bool)
    (hzero : text (Fin.last 11) = 0) (h : first = false → Signs text) :
    Signs (editText key text i first).1 := by
  have hkept : Signs (if first = true then blanked text else text) := by
    cases first with
    | false => exact h rfl
    | true => exact blanked_signs hzero
  cases key with
  | none => exact hkept
  | fl => exact hkept
  | fr => exact hkept
  | left => exact blanked_signs hzero
  | right => exact blanked_signs hzero
  | up => exact blanked_signs (update_zero hzero _ _)
  | down => exact blanked_signs (update_zero hzero _ _)

/-- What is stored is cut from a text of signs. -/
theorem calls_stored {text : Fin 12 → UInt8} {i : Fin 11} {keys : List Key}
    {stored : List UInt8} (hsigns : Signs text) (h : calls text i keys = some stored) :
    ∃ typed, Signs typed ∧ stored = cut (List.ofFn typed) 11 := by
  induction keys generalizing text i with
  | nil => cases h
  | cons key keys ih =>
      have hnext := editText_signs key i false hsigns.2 fun _ => hsigns
      unfold calls at h
      generalize editText key text i false = e at h hnext
      rcases e with ⟨typed, j, ret⟩
      cases ret with
      | save => exact ⟨typed, hnext, (Option.some.inj h).symm⟩
      | cancel => cases h
      | goOn => exact ih hnext h
      | jump => exact ih hnext h

theorem systemName_stored {conf : Fin 12 → UInt8} {i : Fin 11} {key : Key} {keys : List Key}
    {stored : List UInt8} (hconf : conf (Fin.last 11) = 0)
    (h : systemName conf i key keys = some stored) :
    ∃ typed, Signs typed ∧ stored = cut (List.ofFn typed) 11 := by
  have hnext := editText_signs key i true hconf nofun
  unfold systemName at h
  generalize editText key conf i true = e at h hnext
  rcases e with ⟨typed, j, ret⟩
  cases ret with
  | save => exact ⟨typed, hnext, (Option.some.inj h).symm⟩
  | cancel => cases h
  | goOn => exact calls_stored hnext h
  | jump => exact calls_stored hnext h

end Editor

section Typing

/-- A character turned down so many times. -/
theorem calls_turned {text : Fin 12 → UInt8} (h : Signs text) (i : Fin 11) (n : Nat)
    (rest : List Key) :
    calls text i (List.replicate n .down ++ rest) =
      calls (Function.update text i.castSucc (turned^[n] (text i.castSucc))) i rest := by
  induction n generalizing text with
  | zero =>
      rw [Function.iterate_zero_apply, Function.update_eq_self]
      rfl
  | succ n ih =>
      have hturned := h.update i (turned_isSign (h.1 i.castSucc i.isLt))
      have hstep : editText .down text i false =
          (Function.update text i.castSucc (turned (text i.castSucc)), i, .goOn) :=
        congrArg (fun t => (t, i, Fn.goOn)) (blanked_update h i _)
      rw [List.replicate_succ, List.cons_append, calls, hstep]
      simp only
      rw [ih hturned, Function.update_self, Function.update_idem, Function.iterate_succ_apply]

/-- The cursor goes on. -/
theorem calls_right {text : Fin 12 → UInt8} (h : Signs text) {n : Nat} (hn : n < 10)
    (rest : List Key) :
    calls text ⟨n, by omega⟩ (.right :: rest) = calls text ⟨n + 1, by omega⟩ rest := by
  have hnext : (if (⟨n, by omega⟩ : Fin 11) < 10 then (⟨n, by omega⟩ : Fin 11) + 1 else 0) =
      ⟨n + 1, by omega⟩ := by
    have hlt : (⟨n, by omega⟩ : Fin 11) < 10 := hn
    rw [if_pos hlt]
    exact Fin.ext (Nat.mod_eq_of_lt (show n + 1 < 11 by omega))
  have hstep : editText .right text ⟨n, by omega⟩ false = (text, ⟨n + 1, by omega⟩, .goOn) := by
    rw [← hnext]
    exact congrArg (fun t => (t, _, Fn.goOn)) (blanked_of_signs h)
  rw [calls, hstep]

/-- What the text is when so many characters of another one have been made. -/
def typedTo (goal text : Fin 12 → UInt8) (n : Nat) (c : Fin 12) : UInt8 :=
  if c.val < n then goal c else text c

theorem typedTo_signs {goal text : Fin 12 → UInt8} (hgoal : Signs goal) (h : Signs text) {n : Nat}
    (hn : n ≤ 11) : Signs (typedTo goal text n) := by
  refine ⟨fun c hc => ?_, ?_⟩
  · unfold typedTo
    split
    · exact hgoal.1 c hc
    · exact h.1 c hc
  · exact (if_neg (Nat.not_lt.mpr hn)).trans h.2

theorem typedTo_succ (goal text : Fin 12 → UInt8) (i : Fin 11) :
    Function.update (typedTo goal text i.val) i.castSucc (goal i.castSucc) =
      typedTo goal text (i.val + 1) := by
  funext c
  by_cases heq : c = i.castSucc
  · rw [heq, Function.update_self]
    exact (if_pos (Nat.lt_succ_self i.val)).symm
  · have hne : c.val ≠ i.val := fun hval => heq (Fin.ext hval)
    rw [Function.update_of_ne heq]
    unfold typedTo
    by_cases hlt : c.val < i.val
    · rw [if_pos hlt, if_pos (Nat.lt_succ_of_lt hlt)]
    · rw [if_neg hlt, if_neg (by omega)]

/-- The character at the cursor is made into another one. -/
theorem exists_turned {goal text : Fin 12 → UInt8} (hgoal : Signs goal) (h : Signs text)
    (i : Fin 11) : ∃ keys, ∀ rest, calls (typedTo goal text i.val) i (keys ++ rest) =
      calls (typedTo goal text (i.val + 1)) i rest := by
  have hsigns := typedTo_signs hgoal h i.isLt.le
  rcases exists_iterate (hsigns.1 i.castSucc i.isLt) (hgoal.1 i.castSucc i.isLt) with ⟨n, hn⟩
  refine ⟨List.replicate n .down, fun rest => ?_⟩
  rw [calls_turned hsigns, hn, typedTo_succ]

theorem exists_typed {goal text : Fin 12 → UInt8} (hgoal : Signs goal) (h : Signs text) {n : Nat}
    (hn : n < 11) : ∃ keys, ∀ rest, calls text 0 (keys ++ rest) =
      calls (typedTo goal text n) ⟨n, hn⟩ rest := by
  induction n with
  | zero => exact ⟨[], fun rest => rfl⟩
  | succ n ih =>
      rcases ih (by omega) with ⟨keys, hkeys⟩
      rcases exists_turned hgoal h ⟨n, by omega⟩ with ⟨turns, hturns⟩
      refine ⟨keys ++ turns ++ [.right], fun rest => ?_⟩
      rw [List.append_assoc, List.append_assoc, hkeys, hturns, List.singleton_append]
      exact calls_right (typedTo_signs hgoal h hn.le) (by omega) rest

/-- Any text of signs can be made of any other. -/
theorem exists_keys {goal text : Fin 12 → UInt8} (hgoal : Signs goal) (h : Signs text) :
    ∃ keys, calls text 0 keys = some (cut (List.ofFn goal) 11) := by
  rcases exists_typed hgoal h (n := 10) (by decide) with ⟨keys, hkeys⟩
  rcases exists_turned hgoal h 10 with ⟨turns, hturns⟩
  have hwhole : typedTo goal text 11 = goal := by
    funext c
    unfold typedTo
    split
    · rfl
    · have hlast : c = Fin.last 11 := Fin.ext (show c.val = 11 by omega)
      rw [hlast, h.2, hgoal.2]
  refine ⟨keys ++ turns ++ [.fr], ?_⟩
  rw [List.append_assoc, hkeys]
  refine (hturns [.fr]).trans ?_
  rw [show ((10 : Fin 11).val + 1) = 11 from rfl, hwhole]
  rfl

end Typing

section Stored

/-- The characters of a text, and what is behind them. -/
theorem getD_ofFn (text : Fin 12 → UInt8) {j : Nat} (hj : j < 12) :
    (List.ofFn text).getD j 0 = text ⟨j, hj⟩ := by
  rw [List.getD_eq_getElem _ _ (by rw [List.length_ofFn]; exact hj), List.getElem_ofFn]

/-- A sign is no zero. -/
theorem Sign.ne_zero {c : UInt8} (h : Sign c) : c ≠ 0 := by
  rintro rfl
  rcases h with hblank | htext
  · exact absurd hblank (by decide)
  · exact absurd htext (by decide)

/-- A text is cut behind its last letter or digit, and what is left is the name. Without any
    it is eleven blanks. -/
theorem text_cut {text : Fin 12 → UInt8} (h : Signs text) :
    (∃ i : Fin 11, noText (text i.castSucc) = false ∧
      (∀ j : Fin 12, i.val < j.val → j.val < 11 → noText (text j) = true) ∧
      CString.text (cut (List.ofFn text) 11) = (List.ofFn text).take (i.val + 1)) ∨
    (∀ j : Fin 12, j.val < 11 → noText (text j) = true) ∧
      CString.text (cut (List.ofFn text) 11) = (List.ofFn text).take 11 := by
  have hsign : ∀ j < 11, (List.ofFn text).getD j 0 ≠ 0 := fun j hj => by
    rw [getD_ofFn text (by omega)]
    exact (h.1 _ hj).ne_zero
  rcases cut_cases (List.ofFn text) 11 with ⟨i, hi, hlast, hbehind, hcut⟩ | ⟨hnone, hcut⟩
  · refine Or.inl ⟨⟨i, hi⟩, ?_, fun j hij hj => ?_, ?_⟩
    · rw [getD_ofFn text (by omega)] at hlast
      exact hlast
    · have hblank := hbehind j.val hij hj
      rw [getD_ofFn text j.isLt] at hblank
      exact hblank
    · have hlength : i + 1 < (List.ofFn text).length := by
        rw [List.length_ofFn]
        omega
      rw [hcut, text_eq_take (k := i + 1)]
      · exact List.take_set_of_le (Nat.le_refl _)
      · rw [List.getD_eq_getElem _ _ (by rw [List.length_set]; exact hlength),
          List.getElem_set_self]
      · intro j hj
        rw [List.getD_eq_getElem _ _ (by rw [List.length_set]; omega),
          List.getElem_set_of_ne (by omega), ← List.getD_eq_getElem _ 0 (by omega)]
        exact hsign j (by omega)
  · refine Or.inr ⟨fun j hj => ?_, ?_⟩
    · have hblank := hnone j.val hj
      rw [getD_ofFn text j.isLt] at hblank
      exact hblank
    · rw [hcut]
      refine text_eq_take ?_ hsign
      rw [getD_ofFn text (by decide)]
      exact h.2

theorem exists_of_mem_take {text : Fin 12 → UInt8} {k : Nat} {c : UInt8}
    (hc : c ∈ (List.ofFn text).take k) : ∃ j : Fin 12, j.val < k ∧ text j = c := by
  rcases List.mem_take_iff_getElem.mp hc with ⟨j, hj, rfl⟩
  rw [List.length_ofFn] at hj
  exact ⟨⟨j, by omega⟩, show j < k by omega, (List.getElem_ofFn _).symm⟩

/-- What is cut from a text of signs is a name. -/
theorem name_of_signs {text : Fin 12 → UInt8} (h : Signs text) :
    Name (CString.text (cut (List.ofFn text) 11)) := by
  rcases text_cut h with ⟨i, hlast, -, htext⟩ | ⟨hnone, htext⟩
  · rw [htext]
    refine ⟨fun c hc => ?_, Or.inr ⟨?_, text i.castSucc, ?_, hlast⟩⟩
    · rcases exists_of_mem_take hc with ⟨j, hj, rfl⟩
      exact h.1 j (by omega)
    · rw [List.length_take]
      omega
    · have hi : i.val < (List.ofFn text).length := by
        rw [List.length_ofFn]
        omega
      rw [List.getLast?_take, if_neg (Nat.succ_ne_zero _), Nat.add_sub_cancel,
        List.getElem?_eq_getElem hi, List.getElem_ofFn, Option.some_or]
      rfl
  · rw [htext]
    have hblank : ∀ c ∈ (List.ofFn text).take 11, c = 32 := fun c hc => by
      rcases exists_of_mem_take hc with ⟨j, hj, rfl⟩
      rcases h.1 j hj with hsign | hsign
      · exact hsign
      · exact absurd (hnone j hj) (by rw [hsign]; exact Bool.false_ne_true)
    refine ⟨fun c hc => Or.inl (hblank c hc), Or.inl (List.eq_replicate_iff.mpr ⟨?_, hblank⟩)⟩
    rw [List.length_take, List.length_ofFn]
    rfl

/-- The text that a name is cut from. -/
def padded (name : List UInt8) (c : Fin 12) : UInt8 := if c.val < 11 then name.getD c.val 32 else 0

theorem padded_inside {name : List UInt8} {c : Fin 12} (hlt : c.val < 11)
    (hc : c.val < name.length) : padded name c = name[c.val] :=
  (if_pos hlt).trans (List.getD_eq_getElem _ _ hc)

theorem padded_behind {name : List UInt8} {c : Fin 12} (hlt : c.val < 11)
    (hc : name.length ≤ c.val) : padded name c = 32 :=
  (if_pos hlt).trans (List.getD_eq_default _ _ hc)

theorem padded_signs {name : List UInt8} (h : Name name) : Signs (padded name) := by
  refine ⟨fun c hc => ?_, rfl⟩
  rcases Nat.lt_or_ge c.val name.length with hinside | hbehind
  · rw [padded_inside hc hinside]
    exact h.1 _ (List.getElem_mem hinside)
  · rw [padded_behind hc hbehind]
    exact Or.inl rfl

/-- A name is what is left of it when it is stored. -/
theorem text_padded {name : List UInt8} (h : Name name) :
    CString.text (cut (List.ofFn (padded name)) 11) = name := by
  rcases h.2 with rfl | ⟨hle, c, hlast, htext⟩
  · rfl
  · rw [List.getLast?_eq_getElem?] at hlast
    rcases List.getElem?_eq_some_iff.mp hlast with ⟨hlength, hend⟩
    have hroom : name.length - 1 < 11 := by omega
    have hpadded : padded name ⟨name.length - 1, by omega⟩ = c :=
      (padded_inside hroom hlength).trans hend
    rcases text_cut (padded_signs h) with ⟨i, hi, hbehind, hcut⟩ | ⟨hnone, -⟩
    · -- The last letter or digit of the text is the one that the name ends with.
      have hi' : i.val + 1 = name.length := by
        rcases Nat.lt_trichotomy (i.val + 1) name.length with hlt | heq | hgt
        · have hmore : i.val < name.length - 1 := by omega
          have hblank := hbehind ⟨name.length - 1, by omega⟩ hmore hroom
          rw [hpadded, htext] at hblank
          exact absurd hblank Bool.false_ne_true
        · exact heq
        · have hmore : name.length ≤ i.val := by omega
          rw [padded_behind (c := i.castSucc) i.isLt hmore] at hi
          exact absurd hi (by decide)
      rw [hcut, hi']
      refine List.ext_getElem ?_ fun j hj hj' => ?_
      · rw [List.length_take, List.length_ofFn]
        omega
      · rw [List.getElem_take, List.getElem_ofFn]
        exact padded_inside (show j < 11 by omega) hj'
    · have hblank := hnone ⟨name.length - 1, by omega⟩ hroom
      rw [hpadded, htext] at hblank
      exact absurd hblank Bool.false_ne_true

/-- What is stored has the length of a text, and the zero behind it. -/
theorem cut_whole {text : Fin 12 → UInt8} (h : text (Fin.last 11) = 0) :
    (cut (List.ofFn text) 11).length = 12 ∧ (cut (List.ofFn text) 11).getD 11 0 = 0 := by
  have hzero : (List.ofFn text).getD 11 0 = 0 := (getD_ofFn text (by decide)).trans h
  rcases cut_cases (List.ofFn text) 11 with ⟨i, -, -, -, hcut⟩ | ⟨-, hcut⟩
  · rw [hcut]
    have hlength : ((List.ofFn text).set (i + 1) 0).length = 12 := by
      rw [List.length_set, List.length_ofFn]
    refine ⟨hlength, ?_⟩
    rw [List.getD_eq_getElem _ _ (by rw [hlength]; decide), List.getElem_set]
    split
    · rfl
    · rw [List.getElem_ofFn]
      exact h
  · rw [hcut]
    exact ⟨List.length_ofFn, hzero⟩

/-- Whatever name there was before, what is stored is a name with a zero behind it, and any
    name can be stored: those that do not end with a blank, and the one of eleven blanks. -/
theorem system_names {conf : Fin 12 → UInt8} (hconf : conf (Fin.last 11) = 0) (i : Fin 11) :
    (∀ key keys stored, systemName conf i key keys = some stored →
      stored.length = 12 ∧ stored.getD 11 0 = 0 ∧ Name (CString.text stored)) ∧
    ∀ name, Name name → ∃ key keys stored, systemName conf i key keys = some stored ∧
      CString.text stored = name := by
  constructor
  · intro key keys stored hstored
    rcases systemName_stored hconf hstored with ⟨typed, hsigns, rfl⟩
    rcases cut_whole hsigns.2 with ⟨hlength, hzero⟩
    exact ⟨hlength, hzero, name_of_signs hsigns⟩
  · intro name hname
    -- The first key does nothing but enter the editor, and the name is typed from there.
    rcases exists_keys (padded_signs hname) (blanked_signs hconf) with ⟨keys, hkeys⟩
    exact ⟨.none, keys, _, hkeys, text_padded hname⟩

/-- The name of a new unit, eleven blanks. -/
def newName (c : Fin 12) : UInt8 := if c.val < 11 then 32 else 0

/-- A new unit can be given a name with a blank in it. -/
theorem system_names_new : ∃ key keys stored, systemName newName 0 key keys = some stored ∧
    CString.text stored = [65, 32, 49] := by
  refine (@system_names newName rfl 0).2 [65, 32, 49] ⟨fun c hc => ?_, Or.inr ?_⟩
  · simp only [List.mem_cons, List.not_mem_nil, or_false] at hc
    rcases hc with rfl | rfl | rfl
    · exact Or.inr rfl
    · exact Or.inl rfl
    · exact Or.inr rfl
  · exact ⟨by decide, 49, rfl, rfl⟩

end Stored

end Names

end Menu

end TimelapsePlus
