import Mathlib.Algebra.BigOperators.Group.Finset.Basic
import Mathlib.Algebra.Order.BigOperators.Group.Finset
import Mathlib.Data.List.Range
import Mathlib.Tactic.Ring
import TimelapsePlus.Lib.CString

/-!
# The Answers of a Motor Controller

A query is sent to the motor controller, and its answer is read as a line of hex
digits: two at column 22 for the number of the data bytes, and then two for each of
these, the most significant byte first. The value says, among other things, whether a
motor is still running.

`hextouint8` decodes two digits and says whether both were digits, and it stops at the
first that is not. `sendQueryGeneral` heeds that for the length but not for the data,
where a pair without a digit counts as zero, and one whose second digit is bad as the
first alone. The line has to have 21 characters, but the first that is looked at is
the one at index 22. With 21 it is beyond the zero the line ends with.

The line is in the buffer of the driver, with what is left there of earlier lines
behind it. Kept beside the result are the indices at which the buffer is read; the
functions of the C library stop at the end of the line themselves.

## Main definitions

* `hexDigit`, `hextouint8`: A digit, and the function of the source for two.
* `dataBytes`, `queryValue`, `sendQueryGeneral`: The loop over the data, what is made of a
  line, and the function of the source.
* `hexBytes`, `bigEndian`, `expected`: What a line says.
* `Reply`, `Decodes`: A reply line; the function returns that, and reads no more than
  the line.
* `Blank`, `Decodable`: A pair comes to zero; the line is complete, or does so anyway.

## Theorems

* `hexBytes_of_whole`, `hexBytes_of_not`: The bytes of a line, by the pairs of the buffer.
* `toNat_dataBytes`: What the loop comes to.
* `decodes_iff`: When a line is decoded.
* `stray_digit`: A line with a stray character is decoded as sixteen.
-/

namespace TimelapsePlus

namespace Nmx

open CString

/-- The value of a hex digit. -/
def hexDigit (c : UInt8) : Option UInt8 :=
  if 48 ≤ c ∧ c ≤ 57 then some (c - 48)
  else if 65 ≤ c ∧ c ≤ 70 then some (c - 65 + 10)
  else none

/-- What becomes of a pair of digits: the result of the function, the byte it stores, and the
    indices it reads. -/
structure Pair where
  ok : Bool
  b : UInt8
  reads : List Nat

/-- `hextouint8(&b, &buf[i])`. -/
def hextouint8 (buf : List UInt8) (i : Nat) : Pair :=
  match hexDigit (buf.getD i 0) with
  | none => ⟨false, 0, [i]⟩
  | some d =>
    match hexDigit (buf.getD (i + 1) 0) with
    | none => ⟨false, d * 16, [i, i + 1]⟩
    | some e => ⟨true, d * 16 + e, [i, i + 1]⟩

/-- The loop over the data bytes, for the first of them. -/
def dataBytes (buf : List UInt8) (len n : Nat) : UInt32 × List Nat :=
  (List.range n).foldl
    (fun s i =>
      let pair := hextouint8 buf (24 + i * 2)
      (s.1 + (UInt32.ofNat pair.b.toNat <<< UInt32.ofNat (8 * (len - i - 1))), s.2 ++ pair.reads))
    (0, [])

/-- `"GATT_VAL"`. -/
def gattVal : List UInt8 := [71, 65, 84, 84, 95, 86, 65, 76]

/-- What is made of a line, and the indices at which it is read. -/
def queryValue (buf : List UInt8) : UInt32 × List Nat :=
  if strncmp 8 buf gattVal = 0 ∧ 21 ≤ strlen buf then
    let len := hextouint8 buf 22
    if len.ok = true ∧ len.b ≤ 4 then
      let r := dataBytes buf len.b.toNat len.b.toNat
      (r.1, len.reads ++ r.2)
    else (0, len.reads)
  else (0, [])

/-- What a query finds: the command is acknowledged, and the request for the answer is, and
    the buffer with the line that is waited for, if it comes. -/
structure Query where
  sent : Bool
  ok : Bool
  event : Option (List UInt8)

/-- `NMX::sendQueryGeneral`. -/
def sendQueryGeneral (q : Query) : UInt32 × List Nat :=
  if q.sent && q.ok then
    match q.event with
    | some buf => queryValue buf
    | none => (0, [])
  else (0, [])

/-- So many bytes in hex digits. -/
def hexBytes : Nat → List UInt8 → Option (List UInt8)
  | 0, _ => some []
  | n + 1, c :: d :: line => do
    let x ← hexDigit c
    let y ← hexDigit d
    let bs ← hexBytes n line
    some ((x * 16 + y) :: bs)
  | _ + 1, _ => none

/-- The number of some bytes, the most significant first. -/
def bigEndian (bs : List UInt8) : Nat := bs.foldl (fun v b => v * 256 + b.toNat) 0

/-- What a line says: the number of its data bytes, if it has a length of no more than four
    and all digits, and else zero. -/
def expected (line : List UInt8) : Nat :=
  match hexBytes 1 (line.drop 22) with
  | some [len] => if len ≤ 4 then ((hexBytes len.toNat (line.drop 24)).map bigEndian).getD 0 else 0
  | _ => 0

/-- A reply line in the buffer, with whatever is behind it. -/
structure Reply where
  buf : List UInt8
  gatt : strncmp 8 buf gattVal = 0

/-- A reply line is answered with what it says, and the buffer is not read behind it. -/
def Decodes (r : Reply) : Prop :=
  (sendQueryGeneral ⟨true, true, some r.buf⟩).1.toNat = expected (text r.buf) ∧
    ∀ i ∈ (sendQueryGeneral ⟨true, true, some r.buf⟩).2, i ≤ strlen r.buf

/-- Two digits at an index, both in the line. -/
def Whole (buf : List UInt8) (i : Nat) : Prop := (hextouint8 buf i).ok = true ∧ i + 2 ≤ strlen buf

/-- The first character of a pair is no digit, or it is a zero and the second is none, or a
    zero too. -/
def Blank (buf : List UInt8) (i : Nat) : Prop :=
  hexDigit (buf.getD i 0) = none ∨ hexDigit (buf.getD i 0) = some 0 ∧
    (hexDigit (buf.getD (i + 1) 0) = none ∨ hexDigit (buf.getD (i + 1) 0) = some 0)

/-- The line does not have 21 characters, and if it has a length of no more than four, then
    either all of the data digits are there, or every pair is blank, and none is behind the
    line. -/
def Decodable (buf : List UInt8) : Prop :=
  strlen buf ≠ 21 ∧
    (21 < strlen buf → (hextouint8 buf 22).ok = true → (hextouint8 buf 22).b ≤ 4 →
      (∀ i < (hextouint8 buf 22).b.toNat, Whole buf (24 + i * 2)) ∨
      ∀ i < (hextouint8 buf 22).b.toNat, Blank buf (24 + i * 2) ∧ 24 + i * 2 ≤ strlen buf)

section Pairs

variable {buf : List UInt8} {i : Nat}

/-- A zero is no digit. -/
theorem hexDigit_zero : hexDigit 0 = none := rfl

theorem hexDigit_strlen (buf : List UInt8) : hexDigit (buf.getD (strlen buf) 0) = none := by
  rw [getD_strlen]
  exact hexDigit_zero

/-- A pair that begins in the line, or at its end, is not read behind it. -/
theorem reads_le (hi : i ≤ strlen buf) : ∀ j ∈ (hextouint8 buf i).reads, j ≤ strlen buf := by
  unfold hextouint8
  cases hd : hexDigit (buf.getD i 0) with
  | none =>
      intro j hj
      rw [List.mem_singleton.mp hj]
      exact hi
  | some d =>
      -- The end of the line is no digit, so the pair begins before it.
      have hlt : i < strlen buf := by
        refine lt_of_le_of_ne hi fun heq => ?_
        rw [heq, hexDigit_strlen] at hd
        cases hd
      intro j hj
      have hcases : j = i ∨ j = i + 1 := by
        revert hj
        cases hexDigit (buf.getD (i + 1) 0) with
        | none =>
            exact fun hj => by simpa only [List.mem_cons, List.not_mem_nil, or_false] using hj
        | some e =>
            exact fun hj => by simpa only [List.mem_cons, List.not_mem_nil, or_false] using hj
      omega

/-- The first digit is always read. -/
theorem mem_reads (buf : List UInt8) (i : Nat) : i ∈ (hextouint8 buf i).reads := by
  unfold hextouint8
  split
  · exact List.mem_cons_self
  · split
    · exact List.mem_cons_self
    · exact List.mem_cons_self

/-- Two digits are one byte. -/
theorem ok_iff : (hextouint8 buf i).ok = true ↔
    ∃ d e, hexDigit (buf.getD i 0) = some d ∧ hexDigit (buf.getD (i + 1) 0) = some e ∧
      (hextouint8 buf i).b = d * 16 + e := by
  unfold hextouint8
  cases hd : hexDigit (buf.getD i 0) with
  | none => simp only [Bool.false_eq_true, reduceCtorEq, false_and, exists_const]
  | some d =>
      cases he : hexDigit (buf.getD (i + 1) 0) with
      | none => simp only [Bool.false_eq_true, reduceCtorEq, false_and, and_false, exists_const]
      | some e => exact iff_of_true rfl ⟨d, e, rfl, rfl, rfl⟩

/-- Two digits that begin in the line are both in it. -/
theorem whole_of_ok (hok : (hextouint8 buf i).ok = true) (hi : i ≤ strlen buf) : Whole buf i := by
  rcases ok_iff.mp hok with ⟨d, e, hd, he, -⟩
  refine ⟨hok, ?_⟩
  -- Neither of them is the end of the line.
  have hne : i ≠ strlen buf := by
    intro heq
    rw [heq, hexDigit_strlen] at hd
    cases hd
  have hne' : i + 1 ≠ strlen buf := by
    intro heq
    rw [heq, hexDigit_strlen] at he
    cases he
  omega

theorem hexDigit_lt {c d : UInt8} (h : hexDigit c = some d) : d.toNat < 16 := by
  unfold hexDigit at h
  split at h
  · next hnum =>
      have hsub := UInt8.toNat_sub_of_le c 48 hnum.1
      have hle := UInt8.le_iff_toNat_le.mp hnum.2
      simp only [UInt8.reduceToNat] at hsub hle
      rw [← Option.some.inj h]
      omega
  · split at h
    · next hletter =>
        have hsub := UInt8.toNat_sub_of_le c 65 hletter.1
        have hle := UInt8.le_iff_toNat_le.mp hletter.2
        simp only [UInt8.reduceToNat] at hsub hle
        rw [← Option.some.inj h, UInt8.toNat_add, hsub]
        simp only [UInt8.reduceToNat]
        omega
    · cases h

/-- The blank pairs are those that come to zero. -/
theorem b_eq_zero_iff : (hextouint8 buf i).b = 0 ↔ Blank buf i := by
  unfold hextouint8 Blank
  cases hd : hexDigit (buf.getD i 0) with
  | none => exact iff_of_true rfl (Or.inl rfl)
  | some d =>
      -- Both digits are below 16, so nothing of them is lost in the byte.
      have hlt := hexDigit_lt hd
      cases he : hexDigit (buf.getD (i + 1) 0) with
      | none =>
          simp only [reduceCtorEq, false_or, Option.some.injEq, true_or, and_true,
            ← UInt8.toNat_inj, UInt8.toNat_mul, UInt8.reduceToNat]
          omega
      | some e =>
          have hlt' := hexDigit_lt he
          simp only [reduceCtorEq, false_or, Option.some.injEq, ← UInt8.toNat_inj,
            UInt8.toNat_add, UInt8.toNat_mul, UInt8.reduceToNat]
          omega

/-- The rest of a line from an index on. -/
theorem drop_text (hi : i < strlen buf) :
    (text buf).drop i = buf.getD i 0 :: (text buf).drop (i + 1) := by
  rw [List.drop_eq_getElem_cons hi, (getElem_text hi).1]

/-- The bytes of a line are those of the pairs, if all of them are in the line. -/
theorem hexBytes_of_whole (n : Nat) (h : ∀ k < n, Whole buf (i + k * 2)) :
    hexBytes n ((text buf).drop i) =
      some ((List.range n).map fun k => (hextouint8 buf (i + k * 2)).b) := by
  induction n generalizing i with
  | zero => rfl
  | succ n ih =>
      have hfirst := h 0 (Nat.succ_pos n)
      rw [Nat.zero_mul, Nat.add_zero] at hfirst
      have hrest := ih (i := i + 2) fun k hk => by
        have hnext := h (k + 1) (Nat.succ_lt_succ hk)
        rwa [show i + (k + 1) * 2 = i + 2 + k * 2 by omega] at hnext
      have hlen := hfirst.2
      rcases ok_iff.mp hfirst.1 with ⟨d, e, hd, he, hb⟩
      rw [drop_text (by omega), drop_text (by omega), hexBytes, hd, he, hrest]
      simp only [Option.bind_eq_bind, Option.bind_some, List.range_succ_eq_map, List.map_cons,
        List.map_map, Nat.zero_mul, Nat.add_zero, hb, Option.some.injEq, List.cons.injEq, true_and]
      refine List.map_congr_left fun k _ => ?_
      simp only [Function.comp]
      rw [show i + (k + 1) * 2 = i + 2 + k * 2 by omega]

/-- If one of them is not, there are no such bytes. -/
theorem hexBytes_of_not (n : Nat) (h : ¬ ∀ k < n, Whole buf (i + k * 2)) :
    hexBytes n ((text buf).drop i) = none := by
  induction n generalizing i with
  | zero => exact absurd (fun k hk => absurd hk (Nat.not_lt_zero k)) h
  | succ n ih =>
      by_cases hlong : i + 1 < strlen buf
      · rw [drop_text (by omega), drop_text hlong, hexBytes]
        by_cases hfirst : Whole buf i
        · rw [ih (i := i + 2)]
          · simp only [Option.bind_eq_bind, Option.bind_none, Option.bind_fun_none]
          · intro hall
            refine h fun k hk => ?_
            cases k with
            | zero => rwa [Nat.zero_mul, Nat.add_zero]
            | succ k =>
                rw [show i + (k + 1) * 2 = i + 2 + k * 2 by omega]
                exact hall k (Nat.lt_of_succ_lt_succ hk)
        · -- One of the two digits is none.
          cases hd : hexDigit (buf.getD i 0) with
          | none => rfl
          | some d =>
              cases he : hexDigit (buf.getD (i + 1) 0) with
              | none => rfl
              | some e =>
                  refine absurd (whole_of_ok ?_ (by omega)) hfirst
                  unfold hextouint8
                  rw [hd]
                  simp only [he]
      · by_cases hone : i < strlen buf
        · rw [drop_text hone, List.drop_eq_nil_of_le (by unfold strlen at *; omega)]
          rfl
        · rw [List.drop_eq_nil_of_le (by unfold strlen at *; omega)]
          rfl

end Pairs

section Data

variable (buf : List UInt8)

theorem bigEndian_append (bs : List UInt8) (b : UInt8) :
    bigEndian (bs ++ [b]) = bigEndian bs * 256 + b.toNat := by
  unfold bigEndian
  rw [List.foldl_append, List.foldl_cons, List.foldl_nil]

theorem bigEndian_lt (bs : List UInt8) : bigEndian bs < 256 ^ bs.length := by
  induction bs using List.reverseRecOn with
  | nil => exact Nat.one_pos
  | append_singleton bs b ih =>
      have hb : b.toNat < 256 := b.toNat_lt
      rw [bigEndian_append, List.length_append, List.length_singleton, pow_succ]
      omega

theorem bigEndian_eq_zero {bs : List UInt8} : bigEndian bs = 0 ↔ ∀ b ∈ bs, b = 0 := by
  induction bs using List.reverseRecOn with
  | nil => exact iff_of_true rfl fun b hb => absurd hb List.not_mem_nil
  | append_singleton bs b ih =>
      rw [bigEndian_append, List.forall_mem_append, List.forall_mem_singleton, ← ih,
        ← UInt8.toNat_inj, UInt8.toNat_zero]
      omega

/-- The bytes of the first pairs of the data. -/
def pairs (n : Nat) : List UInt8 := (List.range n).map fun k => (hextouint8 buf (24 + k * 2)).b

theorem pairs_succ (n : Nat) :
    pairs buf (n + 1) = pairs buf n ++ [(hextouint8 buf (24 + n * 2)).b] := by
  unfold pairs
  rw [List.range_succ, List.map_append, List.map_singleton]

theorem dataBytes_succ (len n : Nat) :
    dataBytes buf len (n + 1) =
      ((dataBytes buf len n).1 + (UInt32.ofNat (hextouint8 buf (24 + n * 2)).b.toNat <<<
          UInt32.ofNat (8 * (len - n - 1))),
        (dataBytes buf len n).2 ++ (hextouint8 buf (24 + n * 2)).reads) := by
  unfold dataBytes
  rw [List.range_succ, List.foldl_append, List.foldl_cons, List.foldl_nil]

/-- A byte shifted to its place. -/
theorem toNat_shift (b : UInt8) {k : Nat} (hk : k < 4) :
    (UInt32.ofNat b.toNat <<< UInt32.ofNat (8 * k)).toNat = b.toNat * 256 ^ k := by
  have hb : b.toNat < 256 := b.toNat_lt
  have hpow : (256 : Nat) ^ k * 256 ≤ 2 ^ 32 := by
    rw [← pow_succ, show (2 : Nat) ^ 32 = 256 ^ 4 by rfl]
    exact Nat.pow_le_pow_right (by omega) (by omega)
  have hplace : 8 * k % 32 = 8 * k := Nat.mod_eq_of_lt (by omega)
  rw [UInt32.toNat_shiftLeft, UInt32.toNat_ofNat_of_lt' (by unfold UInt32.size; omega),
    UInt32.toNat_ofNat_of_lt' (by unfold UInt32.size; omega), hplace,
    Nat.shiftLeft_eq, pow_mul, show (2 : Nat) ^ 8 = 256 by rfl]
  refine Nat.mod_eq_of_lt (lt_of_lt_of_le ?_ hpow)
  rw [mul_comm]
  exact (Nat.mul_lt_mul_left (Nat.pow_pos (by omega))).mpr hb

/-- After some of the data bytes the value is that of these, at their places. -/
theorem toNat_dataBytes {len n : Nat} (hlen : len ≤ 4) (hn : n ≤ len) :
    (dataBytes buf len n).1.toNat = bigEndian (pairs buf n) * 256 ^ (len - n) := by
  induction n with
  | zero => exact (Nat.zero_mul _).symm
  | succ n ih =>
      have hlt : bigEndian (pairs buf (n + 1)) * 256 ^ (len - (n + 1)) < 2 ^ 32 := by
        have hfirst := bigEndian_lt (pairs buf (n + 1))
        rw [pairs, List.length_map, List.length_range, ← pairs] at hfirst
        calc
          _ < 256 ^ (n + 1) * 256 ^ (len - (n + 1)) :=
            (Nat.mul_lt_mul_right (Nat.pow_pos (by omega))).mpr hfirst
          _ = 256 ^ len := by rw [← pow_add, Nat.add_sub_cancel' hn]
          _ ≤ 256 ^ 4 := Nat.pow_le_pow_right (by omega) hlen
          _ = 2 ^ 32 := rfl
      -- One more byte, at the place below the others.
      have hsum : bigEndian (pairs buf n) * 256 ^ (len - n) +
          (hextouint8 buf (24 + n * 2)).b.toNat * 256 ^ (len - n - 1) =
          bigEndian (pairs buf (n + 1)) * 256 ^ (len - (n + 1)) := by
        rw [pairs_succ, bigEndian_append, show len - n = len - (n + 1) + 1 by omega, pow_succ,
          Nat.add_sub_cancel]
        ring
      rw [dataBytes_succ, UInt32.toNat_add, ih (by omega), toNat_shift _ (by omega), hsum]
      exact Nat.mod_eq_of_lt hlt

/-- The reads of the data are those of its pairs. -/
theorem mem_dataBytes {len n i : Nat} :
    i ∈ (dataBytes buf len n).2 ↔ ∃ k < n, i ∈ (hextouint8 buf (24 + k * 2)).reads := by
  induction n with
  | zero =>
      refine iff_of_false List.not_mem_nil ?_
      rintro ⟨k, hk, -⟩
      exact Nat.not_lt_zero k hk
  | succ n ih =>
      rw [dataBytes_succ, List.mem_append, ih]
      constructor
      · rintro (⟨k, hk, hi⟩ | hi)
        · exact ⟨k, Nat.lt_succ_of_lt hk, hi⟩
        · exact ⟨n, Nat.lt_succ_self n, hi⟩
      · rintro ⟨k, hk, hi⟩
        rcases Nat.lt_succ_iff_lt_or_eq.mp hk with hlt | rfl
        · exact Or.inl ⟨k, hlt, hi⟩
        · exact Or.inr hi

/-- Data is read no further than the line exactly if no pair begins behind it. -/
theorem dataBytes_reads_le {len n : Nat} :
    (∀ i ∈ (dataBytes buf len n).2, i ≤ strlen buf) ↔ ∀ k < n, 24 + k * 2 ≤ strlen buf := by
  constructor
  · intro h k hk
    exact h _ ((mem_dataBytes buf).mpr ⟨k, hk, mem_reads buf _⟩)
  · intro h i hi
    rcases (mem_dataBytes buf).mp hi with ⟨k, hk, hmem⟩
    exact reads_le (h k hk) i hmem

/-- The data of a line is decoded if it is there, and else if it comes to zero. -/
theorem dataBytes_decodes {len : Nat} (hlen : len ≤ 4) :
    ((dataBytes buf len len).1.toNat =
        ((hexBytes len ((text buf).drop 24)).map bigEndian).getD 0 ∧
      ∀ i ∈ (dataBytes buf len len).2, i ≤ strlen buf) ↔
      (∀ k < len, Whole buf (24 + k * 2)) ∨
        ∀ k < len, Blank buf (24 + k * 2) ∧ 24 + k * 2 ≤ strlen buf := by
  rw [toNat_dataBytes buf hlen le_rfl, dataBytes_reads_le, Nat.sub_self, pow_zero, mul_one]
  by_cases hall : ∀ k < len, Whole buf (24 + k * 2)
  · rw [hexBytes_of_whole len hall, Option.map_some, Option.getD_some]
    exact iff_of_true
      ⟨rfl, fun k hk => le_trans (Nat.le_add_right _ 2) (hall k hk).2⟩ (Or.inl hall)
  · rw [hexBytes_of_not len hall, Option.map_none, Option.getD_none, bigEndian_eq_zero,
      or_iff_right hall, pairs, List.forall_mem_map]
    simp only [List.mem_range, b_eq_zero_iff]
    exact ⟨fun h k hk => ⟨h.1 k hk, h.2 k hk⟩, fun h =>
      ⟨fun k hk => (h k hk).1, fun k hk => (h k hk).2⟩⟩

end Data

section Line

variable {r : Reply}

/-- What is made of a reply line that is long enough. -/
theorem query_long (hlong : 21 ≤ strlen r.buf) :
    sendQueryGeneral ⟨true, true, some r.buf⟩ =
      if (hextouint8 r.buf 22).ok = true ∧ (hextouint8 r.buf 22).b ≤ 4 then
        let d := dataBytes r.buf (hextouint8 r.buf 22).b.toNat (hextouint8 r.buf 22).b.toNat
        (d.1, (hextouint8 r.buf 22).reads ++ d.2)
      else (0, (hextouint8 r.buf 22).reads) := by
  unfold sendQueryGeneral queryValue
  rw [if_pos (by rfl)]
  exact if_pos ⟨r.gatt, hlong⟩

/-- What a line says whose length is there. -/
theorem expected_of_whole {buf : List UInt8} (h : Whole buf 22) :
    expected (text buf) = if (hextouint8 buf 22).b ≤ 4 then
      ((hexBytes (hextouint8 buf 22).b.toNat ((text buf).drop 24)).map bigEndian).getD 0
      else 0 := by
  have hone : hexBytes 1 ((text buf).drop 22) = some [(hextouint8 buf 22).b] :=
    hexBytes_of_whole 1 fun k hk => by
      rw [Nat.lt_one_iff.mp hk]
      exact h
  unfold expected
  rw [hone]

/-- A line without it says nothing. -/
theorem expected_of_not {buf : List UInt8} (h : ¬ Whole buf 22) : expected (text buf) = 0 := by
  have hnone : hexBytes 1 ((text buf).drop 22) = none :=
    hexBytes_of_not 1 fun hall => h (hall 0 Nat.one_pos)
  unfold expected
  rw [hnone]

/-- When a line is decoded. -/
theorem decodes_iff (r : Reply) : Decodes r ↔ Decodable r.buf := by
  unfold Decodes Decodable
  rcases lt_trichotomy (strlen r.buf) 21 with hshort | hone | hlong
  · -- Nothing is read, and there is nothing.
    have hnot : ¬ Whole r.buf 22 := fun h => by
      have := h.2
      omega
    have hquery : sendQueryGeneral ⟨true, true, some r.buf⟩ = (0, []) := by
      unfold sendQueryGeneral queryValue
      rw [if_pos (by rfl)]
      exact if_neg fun h => absurd h.2 (Nat.not_le.mpr hshort)
    rw [hquery, expected_of_not hnot]
    exact iff_of_true ⟨rfl, fun i hi => absurd hi List.not_mem_nil⟩
      ⟨hshort.ne, fun h => absurd h (Nat.not_lt.mpr hshort.le)⟩
  · -- The first character that is read is behind the zero.
    rw [query_long hone.ge]
    refine iff_of_false (fun h => ?_) fun h => h.1 hone
    have hle : 22 ≤ strlen r.buf := by
      refine h.2 22 ?_
      split
      · exact List.mem_append_left _ (mem_reads r.buf 22)
      · exact mem_reads r.buf 22
    omega
  · rw [query_long hlong.le]
    by_cases hok : (hextouint8 r.buf 22).ok = true
    · have hwhole := whole_of_ok hok hlong
      rw [expected_of_whole hwhole]
      by_cases hfour : (hextouint8 r.buf 22).b ≤ 4
      · rw [if_pos ⟨hok, hfour⟩, if_pos hfour]
        simp only [List.forall_mem_append]
        rw [← dataBytes_decodes r.buf (UInt8.le_iff_toNat_le.mp hfour)]
        constructor
        · rintro ⟨hval, -, hreads⟩
          exact ⟨hlong.ne', fun _ _ _ => ⟨hval, hreads⟩⟩
        · rintro ⟨-, h⟩
          exact ⟨(h hlong hok hfour).1, reads_le hlong, (h hlong hok hfour).2⟩
      · rw [if_neg fun h => hfour h.2, if_neg hfour]
        exact iff_of_true ⟨rfl, reads_le hlong⟩ ⟨hlong.ne', fun _ _ h => absurd h hfour⟩
    · -- Without a length there is no data, for the line as for the function.
      rw [if_neg fun h => hok h.1, expected_of_not fun h => hok h.1]
      exact iff_of_true ⟨rfl, reads_le hlong⟩ ⟨hlong.ne', fun _ h => absurd h hok⟩

/-- A line that says one byte follows, where that has a stray second digit. -/
def stray : Reply := ⟨gattVal ++ List.replicate 14 32 ++ [48, 49, 49, 71], rfl⟩

/-- Such a line is decoded as sixteen, and the motor taken to be running. -/
theorem stray_digit :
    (sendQueryGeneral ⟨true, true, some stray.buf⟩).1 = 16 ∧ expected (text stray.buf) = 0 ∧
      ¬ Decodes stray := by
  have hval : (sendQueryGeneral ⟨true, true, some stray.buf⟩).1 = 16 := by decide
  have hexp : expected (text stray.buf) = 0 := by decide
  refine ⟨hval, hexp, fun h => ?_⟩
  have heq := h.1
  rw [hval, hexp] at heq
  exact absurd heq (by decide)

end Line

end Nmx

end TimelapsePlus
