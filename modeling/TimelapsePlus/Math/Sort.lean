import Mathlib.Algebra.Order.Field.Rat
import Mathlib.Data.Vector.Basic
import Mathlib.Order.WithBot
import TimelapsePlus.Lib.Exchange
import TimelapsePlus.Lib.Loop

/-!
# The Sort Routines

`sort`, `sortUInteger` and `sortInteger` are one exchange sort for three types of
elements. Pass after pass they go over the array and exchange neighbours that are
out of order, until a pass makes no exchange. The index of a pass and the length are
`uint8_t`, and the exchanges of a pass are counted in a `uint16_t`.

The two loops are one here, whose state says how far the pass has come. An access
outside of the array ends it with no array at all. Every exchange takes away an
inversion, so there are as many passes with one as inversions at most, and after the
pass without any no two neighbours are out of order.

A float may be no number. It is neither above nor below any other, so an array with
such elements comes out with no element below the one before it, and that is all
there is to say of it.

## Main definitions

* `Single`: The values of a `float`.
* `Sorting`, `sortBody`: The state of the two loops, and a round of them.
* `sort`, `sortUInteger`, `sortInteger`: The functions of the source.
* `Sweeping`: What a round keeps.

## Theorems

* `sortBody_sweeping`: A round keeps it, and comes nearer to the end.
* `sortArray_spec`: A sort ends, inside of the array, with the array in order.
* `sortArray_eq_mergeSort`: In a linear order it does what any sort does.
* `sorts_nondecreasing`: What the three sort routines do.
-/

namespace TimelapsePlus

namespace Math

open Exchange

/-- The values of a `float`: no number, or a number, be it an infinite one. -/
inductive Single
  | nan
  | num (x : WithBot (WithTop ℚ))
deriving DecidableEq

namespace Single

/-- `<`, which is false of what is no number. -/
def Below : Single → Single → Prop
  | num x, num y => x < y
  | _, _ => False

/-- `<=`. -/
def AtMost : Single → Single → Prop
  | num x, num y => x ≤ y
  | _, _ => False

instance : LT Single := ⟨Below⟩

instance : LE Single := ⟨AtMost⟩

instance : DecidableLT Single
  | num x, num y => inferInstanceAs (Decidable (x < y))
  | nan, _ => .isFalse id
  | num _, nan => .isFalse id

instance : Std.Asymm (α := Single) (· < ·) where
  asymm
    | num x, num y => fun (h : x < y) => show ¬ y < x from lt_asymm h
    | nan, _ => fun h => h.elim
    | num _, nan => fun h => h.elim

end Single

variable {α : Type} [LT α] [DecidableLT α]

/-- The state of the two loops: the array, and the index and the exchanges of the pass. -/
structure Sorting (α : Type) where
  array : List α
  i : UInt8
  numSwaps : UInt16

/-- A round: neighbours are compared, or a pass is over. -/
def sortBody (length : UInt8) (s : Sorting α) : Except (Option (List α)) (Sorting α) :=
  if s.i < length then
    match s.array[s.i.toNat - 1]?, s.array[s.i.toNat - 1 + 1]? with
    | some x, some y =>
        if y < x then
          .ok { array := exchange s.array (s.i.toNat - 1) x y
                i := s.i + 1
                numSwaps := s.numSwaps + 1 }
        else .ok { s with i := s.i + 1 }
    | _, _ => .error none
  else if 0 < s.numSwaps then .ok { s with i := 1, numSwaps := 0 }
  else .error (some s.array)

/-- An array at the start of its first pass. -/
def Sorting.start (array : List α) : Sorting α := ⟨array, 1, 0⟩

/-- As many rounds as an array of `n` elements needs at most. -/
def rounds (n : Nat) : Nat := n * n * (n + 1) + n + 1

/-- The array that is left, if the rounds suffice and no access was outside of it. -/
def sortArray (array : List α) (length : UInt8) : Option (List α) :=
  (Loop.run (sortBody length) (rounds length.toNat) (.start array)).join

/-- `sort`. -/
def sort (array : List Single) (length : UInt8) : Option (List Single) := sortArray array length

/-- `sortUInteger`. -/
def sortUInteger (array : List UInt16) (length : UInt8) : Option (List UInt16) :=
  sortArray array length

/-- `sortInteger`. -/
def sortInteger (array : List Int16) (length : UInt8) : Option (List Int16) :=
  sortArray array length

/-- What a round keeps: the elements, the index inside of the array or just behind it, no
    more exchanges than comparisons, and as long as there was none, all neighbours that were
    compared in order. -/
structure Sweeping (array : List α) (length : UInt8) (s : Sorting α) : Prop where
  perm : s.array.Perm array
  low : 1 ≤ s.i.toNat
  count : s.numSwaps.toNat < s.i.toNat
  calm : s.numSwaps = 0 → ∀ j x y, j + 1 < s.i.toNat → s.array[j]? = some x →
    s.array[j + 1]? = some y → ¬ y < x

/-- The inversions, with one for a pass that is still to come, and what is left of this
    pass. -/
def Sorting.left (length : UInt8) (s : Sorting α) : Nat :=
  (inversions s.array + min s.numSwaps.toNat 1) * (length.toNat + 1) +
    (length.toNat - s.i.toNat)

/-- An index below a length can be raised. -/
theorem toNat_succ {i length : UInt8} (h : i < length) : (i + 1).toNat = i.toNat + 1 := by
  have hlt := length.toNat_lt
  rw [UInt8.lt_iff_toNat_lt] at h
  rw [UInt8.toNat_add, UInt8.toNat_one]
  omega

section Round

variable {array : List α} {length : UInt8} {s s' : Sorting α}

omit [DecidableLT α] in
/-- In the midst of a pass both neighbours are in the array. -/
theorem Sweeping.inside (hlen : array.length = length.toNat) (h : Sweeping array length s)
    (hi : s.i < length) : ∃ x y, s.array[s.i.toNat - 1]? = some x ∧
      s.array[s.i.toNat - 1 + 1]? = some y := by
  rw [UInt8.lt_iff_toNat_lt, ← hlen, ← h.perm.length_eq] at hi
  have hlow := h.low
  exact ⟨_, _, List.getElem?_eq_getElem (by omega), List.getElem?_eq_getElem (by omega)⟩

/-- A round that goes on keeps all of this, and comes nearer to the end. -/
theorem sortBody_sweeping [Std.Asymm (α := α) (· < ·)] (hlen : array.length = length.toNat)
    (h : Sweeping array length s) (hbody : sortBody length s = .ok s') :
    Sweeping array length s' ∧ s'.left length < s.left length := by
  unfold sortBody at hbody
  have hlow := h.low
  have hcount := h.count
  by_cases hi : s.i < length
  · rcases h.inside hlen hi with ⟨x, y, hx, hy⟩
    have hsucc := toNat_succ hi
    rw [if_pos hi, hx, hy] at hbody
    rw [UInt8.lt_iff_toNat_lt] at hi
    have hbyte := length.toNat_lt
    simp only at hbody
    by_cases hxy : y < x
    · -- The two are exchanged, and there has to be another pass.
      rw [if_pos hxy] at hbody
      cases hbody
      have hswaps : (s.numSwaps + 1).toNat = s.numSwaps.toNat + 1 := by
        rw [UInt16.toNat_add, UInt16.toNat_one]
        omega
      refine ⟨⟨(exchange_perm hx hy).trans h.perm, ?_, ?_, ?_⟩, ?_⟩
      · simp only [hsucc]
        omega
      · simp only [hsucc, hswaps]
        omega
      · intro hzero
        have := congrArg UInt16.toNat hzero
        simp only [hswaps, UInt16.toNat_zero] at this
        omega
      · -- An inversion pays for the pass.
        have hinv := inversions_exchange hx hy hxy
        have hmin : min (s.numSwaps.toNat + 1) 1 = 1 := by omega
        simp only [Sorting.left, hsucc, hswaps, hmin]
        have hle : (inversions (exchange s.array (s.i.toNat - 1) x y) + 1) * (length.toNat + 1) ≤
            (inversions s.array + min s.numSwaps.toNat 1) * (length.toNat + 1) :=
          Nat.mul_le_mul_right _ (by omega)
        omega
    · rw [if_neg hxy] at hbody
      cases hbody
      refine ⟨⟨h.perm, ?_, ?_, ?_⟩, ?_⟩
      · simp only [hsucc]
        omega
      · simp only [hsucc]
        omega
      · intro hzero j u v hj hu hv
        simp only [hsucc] at hj
        by_cases hlast : j + 1 < s.i.toNat
        · exact h.calm hzero j u v hlast hu hv
        · -- These are the two that were just compared.
          have heq : j = s.i.toNat - 1 := by omega
          rw [heq, hx, Option.some.injEq] at hu
          rw [heq, hy, Option.some.injEq] at hv
          rw [← hu, ← hv]
          exact hxy
      · simp only [Sorting.left, hsucc]
        omega
  · rw [if_neg hi] at hbody
    by_cases hswaps : 0 < s.numSwaps
    · rw [if_pos hswaps] at hbody
      cases hbody
      rw [UInt16.lt_iff_toNat_lt, UInt16.toNat_zero] at hswaps
      refine ⟨⟨h.perm, Nat.le_refl 1, Nat.zero_lt_one, ?_⟩, ?_⟩
      · intro _ j u v hj
        simp only [UInt8.toNat_one] at hj
        omega
      · have hmin : min s.numSwaps.toNat 1 = 1 := by omega
        simp only [Sorting.left, hmin, UInt16.toNat_zero, UInt8.toNat_one, Nat.zero_min,
          Nat.add_mul, Nat.zero_mul, Nat.one_mul]
        omega
    · rw [if_neg hswaps] at hbody
      cases hbody

/-- When the loops are left the array is in order. -/
theorem sortBody_done (hlen : array.length = length.toNat) (h : Sweeping array length s)
    {result : Option (List α)} (hbody : sortBody length s = .error result) :
    ∃ r, result = some r ∧ r.Perm array ∧ Nondecreasing r := by
  unfold sortBody at hbody
  by_cases hi : s.i < length
  · rcases h.inside hlen hi with ⟨x, y, hx, hy⟩
    rw [if_pos hi, hx, hy] at hbody
    simp only at hbody
    by_cases hxy : y < x
    · rw [if_pos hxy] at hbody
      cases hbody
    · rw [if_neg hxy] at hbody
      cases hbody
  · rw [if_neg hi] at hbody
    by_cases hswaps : 0 < s.numSwaps
    · rw [if_pos hswaps] at hbody
      cases hbody
    · rw [if_neg hswaps] at hbody
      cases hbody
      refine ⟨s.array, rfl, h.perm, ?_⟩
      have hzero : s.numSwaps = 0 := by
        rw [UInt16.lt_iff_toNat_lt, UInt16.toNat_zero] at hswaps
        exact UInt16.toNat_inj.mp (by rw [UInt16.toNat_zero]; omega)
      -- The pass has gone over all of the array.
      refine List.isChain_iff_getElem.mpr fun j hj => ?_
      have hlength := h.perm.length_eq
      rw [UInt8.lt_iff_toNat_lt] at hi
      exact h.calm hzero j _ _ (by omega) (List.getElem?_eq_getElem _)
        (List.getElem?_eq_getElem hj)

end Round

omit [DecidableLT α] in
/-- An array before its first pass. -/
theorem Sweeping.start (array : List α) (length : UInt8) :
    Sweeping array length (.start array) where
  perm := List.Perm.refl array
  low := Nat.le_refl 1
  count := Nat.zero_lt_one
  calm := by
    intro _ j x y hj
    simp only [Sorting.start, UInt8.toNat_one] at hj
    omega

/-- A sort ends, with all of its accesses inside of the array, and leaves the elements in
    order. -/
theorem sortArray_spec [Std.Asymm (α := α) (· < ·)] {array : List α} {length : UInt8}
    (hlen : array.length = length.toNat) :
    ∃ r, Loop.Ends (sortBody length) (.start array) (some r) ∧
      sortArray array length = some r ∧ r.Perm array ∧ Nondecreasing r := by
  have hleft : (Sorting.start array).left length < rounds length.toNat := by
    have hinv := inversions_le array
    have hmul : inversions array * (length.toNat + 1) ≤
        length.toNat * length.toNat * (length.toNat + 1) :=
      Nat.mul_le_mul_right _ (by rw [← hlen]; exact hinv)
    simp only [Sorting.left, Sorting.start, rounds, UInt16.toNat_zero, Nat.zero_min,
      Nat.add_zero]
    omega
  rcases Loop.run_of_measure (sortBody length) (Sweeping array length) (Sorting.left length)
    (fun s s' h hbody => sortBody_sweeping hlen h hbody) _ _ (Sweeping.start array length) hleft
    with ⟨result, hrun⟩
  rcases Loop.run_inv (sortBody length) (Sweeping array length)
    (fun result => ∃ r, result = some r ∧ r.Perm array ∧ Nondecreasing r)
    (fun s s' h hbody => (sortBody_sweeping hlen h hbody).1)
    (fun s result h hbody => sortBody_done hlen h hbody) _ _ _ (Sweeping.start array length) hrun
    with ⟨r, rfl, hperm, horder⟩
  refine ⟨r, ⟨_, hrun⟩, ?_, hperm, horder⟩
  unfold sortArray
  rw [hrun]
  rfl

/-- In a linear order a sort does what any sort does. -/
theorem sortArray_eq_mergeSort {β : Type} [LE β] [LT β] [DecidableLE β] [DecidableLT β]
    [Std.IsLinearOrder β] [Std.LawfulOrderLT β] {array : List β} {length : UInt8}
    (hlen : array.length = length.toNat) : sortArray array length = some array.mergeSort := by
  rcases sortArray_spec hlen with ⟨r, -, hsort, hperm, horder⟩
  rw [hsort, horder.eq_mergeSort hperm]

/-- Numbers that do not decrease are sorted. -/
theorem Single.pairwise {r : List Single} (h : Nondecreasing r) (hnum : ∀ x ∈ r, x ≠ .nan) :
    r.Pairwise (· ≤ ·) := by
  induction r with
  | nil => exact List.Pairwise.nil
  | cons x r ih =>
      have hrest := ih h.tail fun y hy => hnum y (List.mem_cons_of_mem x hy)
      refine List.pairwise_cons.mpr ⟨fun y hy => ?_, hrest⟩
      cases r with
      | nil => exact absurd hy List.not_mem_nil
      | cons z r =>
          -- The next number is not below, and all others are not below the next.
          have hxz : x ≤ z := by
            have hnext : ¬ z < x := h.rel
            cases x with
            | nan => exact absurd rfl (hnum .nan List.mem_cons_self)
            | num a =>
                cases z with
                | nan => exact absurd rfl (hnum .nan (List.mem_cons_of_mem _ List.mem_cons_self))
                | num b => exact le_of_not_gt (α := WithBot (WithTop ℚ)) hnext
          rcases List.mem_cons.mp hy with rfl | hy
          · exact hxz
          · have hzy := (List.pairwise_cons.mp hrest).1 y hy
            cases x with
            | nan => exact hxz.elim
            | num a =>
                cases z with
                | nan => exact hxz.elim
                | num b =>
                    cases y with
                    | nan => exact hzy.elim
                    | num c => exact le_trans (α := WithBot (WithTop ℚ)) hxz hzy

/-- Each of the sort routines ends on any array of any length, with all of its accesses
    inside of the array, and leaves the elements of the array in an order in which none is
    below the one before it. Without a float that is no number they are sorted. -/
theorem sorts_nondecreasing (length : UInt8) :
    (∀ array : List.Vector Single length.toNat, ∃ r,
      Loop.Ends (sortBody length) (.start array.toList) (some r) ∧
        sort array.toList length = some r ∧ r.Perm array.toList ∧ Nondecreasing r ∧
        ((∀ x ∈ array.toList, x ≠ .nan) → r.Pairwise (· ≤ ·))) ∧
    (∀ array : List.Vector UInt16 length.toNat, ∃ r,
      Loop.Ends (sortBody length) (.start array.toList) (some r) ∧
        sortUInteger array.toList length = some r ∧ r.Perm array.toList ∧
        r.Pairwise (· ≤ ·)) ∧
    ∀ array : List.Vector Int16 length.toNat, ∃ r,
      Loop.Ends (sortBody length) (.start array.toList) (some r) ∧
        sortInteger array.toList length = some r ∧ r.Perm array.toList ∧
        r.Pairwise (· ≤ ·) := by
  refine ⟨fun array => ?_, fun array => ?_, fun array => ?_⟩
  · rcases sortArray_spec array.toList_length with ⟨r, hends, hsort, hperm, horder⟩
    refine ⟨r, hends, hsort, hperm, horder, fun hnum => ?_⟩
    exact Single.pairwise horder fun x hx => hnum x (hperm.mem_iff.mp hx)
  · rcases sortArray_spec array.toList_length with ⟨r, hends, hsort, hperm, horder⟩
    exact ⟨r, hends, hsort, hperm, horder.pairwise⟩
  · rcases sortArray_spec array.toList_length with ⟨r, hends, hsort, hperm, horder⟩
    exact ⟨r, hends, hsort, hperm, horder.pairwise⟩

end Math

end TimelapsePlus
