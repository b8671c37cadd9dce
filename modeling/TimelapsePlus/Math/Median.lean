import Mathlib.Algebra.BigOperators.Ring.Finset
import TimelapsePlus.Lib.Trimmed
import TimelapsePlus.Math.Sort

/-!
# The Medians

`arrayMedian` sorts a copy of an array and takes the element in the middle, or the
mean of two. Its indices are one too high: of an odd number of elements it takes
the one after the middle, and of an even number the second of the two in the middle
and the one after it. Of one or two elements these are not in the array.

The three functions `arrayMedian50` sort a copy as well and take the mean of what is
left without a quarter of the elements at either end. The variants for integers do
this with floats, whose 24 bits are enough for the sum, and drop the fraction.

The arithmetic of `arrayMedian` and of the first `arrayMedian50` is exact where the
code has `float`. In the variants for integers every operation is rounded, in any
way that keeps the order and leaves integers of 24 bits alone.

## Main definitions

* `arrayMedian`: The function of the source.
* `median`: The median of an array.
* `Tied`: The elements around the middle are equal, as far as the function sees.
* `middle`, `median50`: The loop, and the function, of the three variants.
* `arrayMedian50`, `arrayMedian50UInt`, `arrayMedian50Int`: The functions of the source.

## Theorems

* `median_mem`: No outlier is the median.
* `arrayMedian_eq`: What the function returns.
* `arrayMedian_iff`: When that is the median.
* `spike_passes`: A spike in one of three readings is returned.
* `middle_eq`: What the loop comes to.
* `median50_mem`: The mean is between the bounds of the elements but for a quarter.
* `arrayMedian50_robust`: Each of the variants is.
* `arrayMedian50UInt_two`: Of five elements two decide what the result is.
-/

namespace TimelapsePlus

namespace Math

open Exchange Trimmed

/-- `arrayMedian`. There is no result when an element outside of the array is read. -/
def arrayMedian (array : List ℚ) (length : UInt8) : Option ℚ := do
  let tmpArray ← sortArray array length
  if length.toNat % 2 = 1 then tmpArray[length.toNat / 2 + 1]?
  else do
    let x ← tmpArray[length.toNat / 2]?
    let y ← tmpArray[length.toNat / 2 + 1]?
    some ((x + y) / 2)

/-- The elements in order, by their index. -/
def ranked (array : List ℚ) (i : Nat) : ℚ := array.mergeSort.getD i 0

/-- The median: the element in the middle, or the mean of the two. -/
def median (array : List ℚ) : ℚ :=
  if array.length % 2 = 1 then ranked array (array.length / 2)
  else (ranked array (array.length / 2 - 1) + ranked array (array.length / 2)) / 2

/-- There are three elements or more, and those equal whose confusion the function would
    show: the middle one and the next, or the one before the middle and the one after it. -/
def Tied (array : List ℚ) : Prop :=
  3 ≤ array.length ∧
    if array.length % 2 = 1 then
      ranked array (array.length / 2) = ranked array (array.length / 2 + 1)
    else ranked array (array.length / 2 - 1) = ranked array (array.length / 2 + 1)

section Median

variable {array : List ℚ}

theorem mergeSort_pairwise (array : List ℚ) : array.mergeSort.Pairwise (· ≤ ·) :=
  List.pairwise_mergeSort' (· ≤ ·) array

/-- An element of the sorted array, if there are enough. -/
theorem getElem?_mergeSort {i : Nat} (h : i < array.length) :
    array.mergeSort[i]? = some (ranked array i) := by
  have hlt : i < array.mergeSort.length := by rwa [List.length_mergeSort]
  unfold ranked
  rw [List.getD_eq_getElem?_getD, List.getElem?_eq_getElem hlt, Option.getD_some]

/-- An element with as many on either side of it as there are outliers is none. -/
theorem ranked_mem {lo hi : ℚ} {k i : Nat} (hout : outside lo hi array ≤ k) (hlow : k ≤ i)
    (hhigh : i + k < array.length) : lo ≤ ranked array i ∧ ranked array i ≤ hi := by
  have hlen : array.mergeSort.length = array.length := List.length_mergeSort array
  have hperm : outside lo hi array.mergeSort = outside lo hi array :=
    (List.mergeSort_perm array _).countP_eq _
  have hmem := getElem_mem (mergeSort_pairwise array) (hperm.trans_le hout) hlow
    (by rwa [hlen])
  unfold ranked
  rw [List.getD_eq_getElem?_getD, List.getElem?_eq_getElem (by omega), Option.getD_some]
  exact hmem

/-- Fewer outliers than half of the elements leave the median alone. -/
theorem median_mem {lo hi : ℚ} (hout : 2 * outside lo hi array < array.length) :
    lo ≤ median array ∧ median array ≤ hi := by
  unfold median
  split
  · exact ranked_mem (Nat.le_refl _) (by omega) (by omega)
  · have hleft := ranked_mem (i := array.length / 2 - 1) (Nat.le_refl (outside lo hi array))
      (by omega) (by omega)
    have hright := ranked_mem (i := array.length / 2) (Nat.le_refl (outside lo hi array))
      (by omega) (by omega)
    constructor
    · linarith [hleft.1, hright.1]
    · linarith [hleft.2, hright.2]

/-- The function reads the elements after those in the middle. -/
theorem arrayMedian_eq {length : UInt8} (hlen : array.length = length.toNat) :
    arrayMedian array length =
      if length.toNat < 3 then none
      else if length.toNat % 2 = 1 then some (ranked array (length.toNat / 2 + 1))
      else some ((ranked array (length.toNat / 2) + ranked array (length.toNat / 2 + 1)) / 2) := by
  have hsorted : array.mergeSort.length = length.toNat :=
    (List.length_mergeSort array).trans hlen
  unfold arrayMedian
  rw [sortArray_eq_mergeSort hlen]
  simp only [Option.bind_eq_bind, Option.bind_some]
  by_cases hshort : length.toNat < 3
  · -- The last index is past the end.
    have hout : array.mergeSort[length.toNat / 2 + 1]? = none :=
      List.getElem?_eq_none (by omega)
    rw [if_pos hshort, hout]
    simp only [Option.bind_none, Option.bind_fun_none, ite_self]
  · rw [if_neg hshort, getElem?_mergeSort (i := length.toNat / 2 + 1) (by omega),
      getElem?_mergeSort (i := length.toNat / 2) (by omega), Option.bind_some, Option.bind_some]

end Median

/-- The function returns the median, reading the array only, and no single spike with it,
    exactly when the elements around the middle are tied. -/
theorem arrayMedian_iff (length : UInt8) (array : List.Vector ℚ length.toNat) :
    (∃ m, arrayMedian array.toList length = some m ∧ m = median array.toList ∧
      ∀ lo hi, outside lo hi array.toList ≤ 1 → lo ≤ m ∧ m ≤ hi) ↔ Tied array.toList := by
  have hlen := array.toList_length
  rw [arrayMedian_eq hlen]
  unfold Tied
  rw [hlen]
  constructor
  · rintro ⟨m, hm, heq, -⟩
    unfold median at heq
    rw [hlen] at heq
    by_cases hshort : length.toNat < 3
    · rw [if_pos hshort] at hm
      cases hm
    · rw [if_neg hshort] at hm
      refine ⟨by omega, ?_⟩
      by_cases hodd : length.toNat % 2 = 1
      · rw [if_pos hodd, Option.some.injEq] at hm
        rw [if_pos hodd] at heq ⊢
        exact heq.symm.trans hm.symm
      · rw [if_neg hodd, Option.some.injEq] at hm
        rw [if_neg hodd] at heq ⊢
        linarith
  · rintro ⟨hlong, htied⟩
    have hmedian : (if length.toNat % 2 = 1 then
        some (ranked array.toList (length.toNat / 2 + 1))
        else some ((ranked array.toList (length.toNat / 2) +
          ranked array.toList (length.toNat / 2 + 1)) / 2)) = some (median array.toList) := by
      unfold median
      rw [hlen]
      by_cases hodd : length.toNat % 2 = 1
      · rw [if_pos hodd] at htied
        rw [if_pos hodd, if_pos hodd, htied]
      · rw [if_neg hodd] at htied
        rw [if_neg hodd, if_neg hodd, ← htied, add_comm]
    refine ⟨median array.toList, ?_, rfl, fun lo hi hout => median_mem ?_⟩
    · rw [if_neg (by omega), hmedian]
    · rw [hlen]
      omega

/-- Two readings are ten and one is a hundred. The median is ten, and a hundred is
    returned. -/
theorem spike_passes : ∃ (length : UInt8) (array : List.Vector ℚ length.toNat),
    arrayMedian array.toList length = some 100 ∧
      ¬ ∃ m, arrayMedian array.toList length = some m ∧ m = median array.toList ∧
        ∀ lo hi, outside lo hi array.toList ≤ 1 → lo ≤ m ∧ m ≤ hi := by
  have hreturned : arrayMedian [10, 100, 10] 3 = some 100 := rfl
  refine ⟨3, ⟨[10, 100, 10], rfl⟩, hreturned, ?_⟩
  rintro ⟨m, hm, -, hspike⟩
  have hm100 : m = 100 := Option.some.inj (hm.symm.trans hreturned)
  -- All but the spike are ten, and what is returned is not.
  have hle := (hspike 10 10 (Nat.le_refl 1)).2
  rw [hm100] at hle
  norm_num at hle

/-- The loop of the three variants: the sum and the count of the elements but for a quarter
    at either end. -/
def middle {α : Type} (R : Rounding 24) (toFloat : α → ℚ) (tmpArray : List α) (length : UInt8) :
    Option (ℚ × ℚ) :=
  (List.range' (length.toNat / 4) (length.toNat - 2 * (length.toNat / 4))).foldlM
    (fun s i => do
      let x ← tmpArray[i]?
      some (R.round (s.1 + toFloat x), R.round (s.2 + 1)))
    (0, 0)

/-- The three variants, for a type of elements and a rounding. There is no result when the
    count is zero, or an element outside of the array is read. -/
def median50 {α : Type} [LT α] [DecidableLT α] (R : Rounding 24) (toFloat : α → ℚ)
    (array : List α) (length : UInt8) : Option ℚ := do
  let tmpArray ← sortArray array length
  let (m, count) ← middle R toFloat tmpArray length
  if count = 0 then none else some (R.round (m / count))

/-- `arrayMedian50`. -/
def arrayMedian50 (array : List ℚ) (length : UInt8) : Option ℚ :=
  median50 (.exact 24) id array length

/-- `arrayMedian50UInt`. -/
def arrayMedian50UInt (R : Rounding 24) (array : List UInt16) (length : UInt8) : Option UInt16 :=
  (median50 R (fun x => (x.toNat : ℚ)) array length).map fun m => UInt16.ofNat (trunc m).toNat

/-- `arrayMedian50Int`. -/
def arrayMedian50Int (R : Rounding 24) (array : List Int16) (length : UInt8) : Option Int16 :=
  (median50 R (fun x => (x.toInt : ℚ)) array length).map fun m => Int16.ofInt (trunc m)

/-- A function of an array of so many elements returns the same for every order of these, and
    a number between any two bounds that all of them but for a quarter keep. -/
def Robust {α : Type} [LE α] [LT α] [DecidableLT α] (f : List α → Option α) (length : UInt8) :
    Prop :=
  ∀ array : List.Vector α length.toNat, ∃ m, f array.toList = some m ∧
    (∀ array' : List.Vector α length.toNat, array'.toList.Perm array.toList →
      f array'.toList = some m) ∧
    ∀ lo hi, outside lo hi array.toList ≤ length.toNat / 4 → lo ≤ m ∧ m ≤ hi

section Variants

variable {α : Type} {R : Rounding 24} {toFloat : α → ℚ}

/-- No sum of so few elements is rounded. -/
def SumsExactly (R : Rounding 24) (toFloat : α → ℚ) : Prop :=
  ∀ l : List α, l.length < 256 → R.round (l.map toFloat).sum = (l.map toFloat).sum

/-- The loop comes to the exact sum and count of the elements. -/
theorem middle_eq (hexact : SumsExactly R toFloat) {tmpArray : List α} {length : UInt8}
    (hlen : tmpArray.length = length.toNat) :
    middle R toFloat tmpArray length =
      let l := (tmpArray.drop (length.toNat / 4)).take (length.toNat - 2 * (length.toNat / 4))
      some ((l.map toFloat).sum, (l.length : ℚ)) := by
  have hbyte := length.toNat_lt
  -- By induction on how many elements the loop has gone over.
  have hrun : ∀ k, k ≤ length.toNat - 2 * (length.toNat / 4) →
      (List.range' (length.toNat / 4) k).foldlM
        (fun s i => do
          let x ← tmpArray[i]?
          some (R.round (s.1 + toFloat x), R.round (s.2 + 1)))
        ((0, 0) : ℚ × ℚ) =
      some ((((tmpArray.drop (length.toNat / 4)).take k).map toFloat).sum, (k : ℚ)) := by
    intro k
    induction k with
    | zero =>
        intro _
        simp only [List.range'_zero, List.foldlM_nil, List.take_zero, List.map_nil, List.sum_nil,
          Nat.cast_zero]
        rfl
    | succ k ih =>
        intro hk
        have hlt : length.toNat / 4 + k < tmpArray.length := by omega
        have htake : (tmpArray.drop (length.toNat / 4)).take (k + 1) =
            (tmpArray.drop (length.toNat / 4)).take k ++ [tmpArray[length.toNat / 4 + k]] := by
          rw [List.take_succ_eq_append_getElem (by rw [List.length_drop]; omega),
            List.getElem_drop]
        have hround := hexact ((tmpArray.drop (length.toNat / 4)).take (k + 1)) (by
          rw [List.length_take, List.length_drop]
          omega)
        have hcount : R.round (k + 1) = k + 1 := by
          have hint := R.int (k + 1) (by rw [abs_of_nonneg (by omega)]; omega)
          exact_mod_cast hint
        rw [List.range'_1_concat, List.foldlM_append, ih (by omega)]
        simp only [List.foldlM_cons, List.foldlM_nil, Option.bind_eq_bind, Option.bind_some,
          List.getElem?_eq_getElem hlt, Option.pure_def, Option.some.injEq, Prod.mk.injEq]
        rw [htake, List.map_append, List.sum_append, List.map_singleton, List.sum_singleton]
          at hround ⊢
        exact ⟨hround, by rw [hcount]; push_cast; rfl⟩
  unfold middle
  rw [hrun _ (Nat.le_refl _)]
  have hcount : ((tmpArray.drop (length.toNat / 4)).take
      (length.toNat - 2 * (length.toNat / 4))).length = length.toNat - 2 * (length.toNat / 4) := by
    rw [List.length_take, List.length_drop]
    omega
  simp only [hcount]

variable [LE α] [LT α] [DecidableLE α] [DecidableLT α] [Std.IsLinearOrder α]
  [Std.LawfulOrderLT α]

/-- What the three variants come to: the mean of the middle of the sorted array. -/
theorem median50_eq (hexact : SumsExactly R toFloat) {array : List α} {length : UInt8}
    (hlen : array.length = length.toNat) (hpos : 0 < length.toNat) :
    median50 R toFloat array length =
      let l := (array.mergeSort.drop (length.toNat / 4)).take
        (length.toNat - 2 * (length.toNat / 4))
      some (R.round ((l.map toFloat).sum / l.length)) := by
  have hsorted : array.mergeSort.length = length.toNat := (List.length_mergeSort array).trans hlen
  have hcount : ((array.mergeSort.drop (length.toNat / 4)).take
      (length.toNat - 2 * (length.toNat / 4))).length ≠ 0 := by
    rw [List.length_take, List.length_drop]
    omega
  unfold median50
  rw [sortArray_eq_mergeSort hlen]
  simp only [Option.bind_eq_bind, Option.bind_some, middle_eq hexact hsorted]
  rw [if_neg (by exact_mod_cast hcount)]

/-- The result does not depend on the order of the elements. -/
theorem median50_perm (hexact : SumsExactly R toFloat) {array array' : List α} {length : UInt8}
    (hlen : array.length = length.toNat) (hpos : 0 < length.toNat) (hperm : array'.Perm array) :
    median50 R toFloat array' length = median50 R toFloat array length := by
  have hsame : array'.mergeSort = array.mergeSort := by
    rcases sortArray_spec hlen with ⟨r, -, -, hr, horder⟩
    rw [← horder.eq_mergeSort (hr.trans hperm.symm), ← horder.eq_mergeSort hr]
  rw [median50_eq hexact hlen hpos, median50_eq hexact (hperm.length_eq.trans hlen) hpos, hsame]

/-- The result is between the bounds that all but a quarter of the elements keep. -/
theorem median50_mem (hexact : SumsExactly R toFloat) (hmono : ∀ x y, x ≤ y → toFloat x ≤ toFloat y)
    {array : List α} {length : UInt8} (hlen : array.length = length.toNat)
    (hpos : 0 < length.toNat) {lo hi : α} (hlo : R.round (toFloat lo) = toFloat lo)
    (hhi : R.round (toFloat hi) = toFloat hi) (hout : outside lo hi array ≤ length.toNat / 4)
    {m : ℚ} (hm : median50 R toFloat array length = some m) : toFloat lo ≤ m ∧ m ≤ toFloat hi := by
  have hsorted : array.mergeSort.length = length.toNat := (List.length_mergeSort array).trans hlen
  have hpairwise : array.mergeSort.Pairwise (· ≤ ·) := by
    rcases sortArray_spec hlen with ⟨r, -, -, hr, horder⟩
    rw [← horder.eq_mergeSort hr]
    exact horder.pairwise
  have hperm : outside lo hi array.mergeSort = outside lo hi array :=
    (List.mergeSort_perm array _).countP_eq _
  rw [median50_eq hexact hlen hpos] at hm
  set l := (array.mergeSort.drop (length.toNat / 4)).take
    (length.toNat - 2 * (length.toNat / 4)) with hl
  have hmem : ∀ x ∈ l, lo ≤ x ∧ x ≤ hi := fun x hx =>
    mem_trimmed hpairwise (hperm.trans_le hout) (by rw [hsorted]; exact hx)
  have hne : l.map toFloat ≠ [] := by
    refine List.ne_nil_of_length_pos ?_
    rw [List.length_map, hl, List.length_take, List.length_drop]
    omega
  have hbound : ∀ q ∈ l.map toFloat, toFloat lo ≤ q ∧ q ≤ toFloat hi := by
    intro q hq
    rcases List.mem_map.mp hq with ⟨x, hx, rfl⟩
    exact ⟨hmono _ _ (hmem x hx).1, hmono _ _ (hmem x hx).2⟩
  -- The mean is between the bounds, and rounding leaves these where they are.
  have hlow := R.mono (le_mean hne fun q hq => (hbound q hq).1)
  have hhigh := R.mono (mean_le hne fun q hq => (hbound q hq).2)
  rw [hlo, List.length_map] at hlow
  rw [hhi, List.length_map] at hhigh
  cases hm
  exact ⟨hlow, hhigh⟩

end Variants

/-- Without rounding every sum is exact. -/
theorem sumsExactly_exact : SumsExactly (.exact 24) (id : ℚ → ℚ) := fun _ _ => rfl

/-- The sums of so few integers of 16 bits are exact. -/
theorem sumsExactly_int (R : Rounding 24) {α : Type} {toInt : α → ℤ}
    (hbound : ∀ x, |toInt x| < 65536) : SumsExactly R fun x => (toInt x : ℚ) := by
  intro l hl
  have hsum : |(l.map toInt).sum| ≤ l.length * 65536 := by
    clear hl
    induction l with
    | nil => exact le_of_eq (by simp only [List.map_nil, List.sum_nil, abs_zero, List.length_nil,
        Nat.cast_zero, zero_mul])
    | cons x l ih =>
        have hx := hbound x
        have hadd := abs_add_le (toInt x) (l.map toInt).sum
        simp only [List.map_cons, List.sum_cons, List.length_cons, Nat.cast_add, Nat.cast_one]
        linarith
  have hcast : (l.map fun x => (toInt x : ℚ)).sum = ((l.map toInt).sum : ℤ) := by
    rw [Int.cast_list_sum, List.map_map]
    rfl
  rw [hcast]
  refine R.int _ (hsum.trans ?_)
  norm_num
  omega

/-- A variant for integers of 16 bits is robust: the mean is, and its fraction is dropped. -/
theorem integer_robust {α : Type} [LE α] [LT α] [DecidableLE α] [DecidableLT α]
    [Std.IsLinearOrder α] [Std.LawfulOrderLT α] (R : Rounding 24) (toInt : α → ℤ) (ofInt : ℤ → α)
    (hle : ∀ x y, x ≤ y ↔ toInt x ≤ toInt y) (hbound : ∀ x, |toInt x| < 65536)
    (hofInt : ∀ z x y, toInt x ≤ z → z ≤ toInt y → toInt (ofInt z) = z) {length : UInt8}
    (hpos : 0 < length.toNat) :
    Robust (fun array =>
      (median50 R (fun x => (toInt x : ℚ)) array length).map fun m => ofInt (trunc m)) length := by
  intro array
  have hsums := sumsExactly_int R hbound
  have hm := median50_eq hsums array.toList_length hpos
  have hround : ∀ x, R.round (toInt x) = toInt x := by
    intro x
    refine R.int (toInt x) ((hbound x).le.trans ?_)
    norm_num
  refine ⟨_, congrArg _ hm, fun array' hperm => ?_, fun lo hi hout => ?_⟩
  · exact congrArg _ ((median50_perm hsums array.toList_length hpos hperm).trans hm)
  · have hmem := median50_mem hsums (fun x y h => Int.cast_le.mpr ((hle x y).mp h))
      array.toList_length hpos (hround lo) (hround hi) hout hm
    -- The bounds are integers, so they are also bounds without the fraction.
    have hlow := le_trunc hmem.1
    have hhigh := trunc_le hmem.2
    have hstored := hofInt _ lo hi hlow hhigh
    rw [hle, hle, hstored]
    exact ⟨hlow, hhigh⟩

/-- Each of the three variants returns the same for every order of the elements, and a
    number between any two bounds that all elements but for a quarter keep. None of them
    divides by zero. -/
theorem arrayMedian50_robust (R : Rounding 24) (length : UInt8) (hpos : 0 < length.toNat) :
    Robust (arrayMedian50 · length) length ∧ Robust (arrayMedian50UInt R · length) length ∧
      Robust (arrayMedian50Int R · length) length := by
  refine ⟨fun array => ?_, ?_, ?_⟩
  · have hm := median50_eq sumsExactly_exact array.toList_length hpos
    refine ⟨_, hm, fun array' hperm => ?_, fun lo hi hout => ?_⟩
    · exact (median50_perm sumsExactly_exact array.toList_length hpos hperm).trans hm
    · exact median50_mem sumsExactly_exact (fun _ _ h => h) array.toList_length hpos rfl rfl
        hout hm
  · refine integer_robust R (fun x : UInt16 => x.toNat) (fun z => UInt16.ofNat z.toNat)
      (fun x y => ?_) (fun x => ?_) (fun z x y hx hy => ?_) hpos
    · rw [UInt16.le_iff_toNat_le]
      omega
    · have hlt := x.toNat_lt
      rw [abs_of_nonneg (by omega)]
      omega
    · have hlt := y.toNat_lt
      rw [UInt16.toNat_ofNat']
      omega
  · refine integer_robust R Int16.toInt Int16.ofInt (fun x y => ?_)
      (fun x => ?_) (fun z x y hx hy => ?_) hpos
    · exact Int16.le_iff_toInt_le
    · have hlt := x.toInt_lt
      have hle := x.le_toInt
      rw [abs_lt]
      omega
    · have hlt := y.toInt_lt
      have hle := x.le_toInt
      exact Int16.toInt_ofInt_of_le (by omega) (by omega)

/-- Five offsets of which one is far off. -/
theorem arrayMedian50_robust_five : Robust (arrayMedian50Int (.exact 24) · 5) 5 :=
  (arrayMedian50_robust (.exact 24) 5 (by decide)).2.2

/-- The result for five elements: the mean of the three in the middle. -/
theorem arrayMedian50UInt_five (R : Rounding 24) {array : List UInt16} {lo x y z hi : UInt16}
    (hsorted : [lo, x, y, z, hi].Pairwise (· ≤ ·)) (hperm : [lo, x, y, z, hi].Perm array) :
    arrayMedian50UInt R array 5 =
      some (UInt16.ofNat
        (trunc (R.round (((x.toNat + y.toNat + z.toNat : ℤ) : ℚ) / 3))).toNat) := by
  have horder : Nondecreasing [lo, x, y, z, hi] :=
    (hsorted.imp fun hle => Std.not_lt.mpr hle).isChain
  have hsums : SumsExactly R fun x : UInt16 => ((x.toNat : ℤ) : ℚ) := by
    refine sumsExactly_int R fun x => ?_
    have hlt := x.toNat_lt
    rw [abs_of_nonneg (by omega)]
    omega
  have hlen : array.length = (5 : UInt8).toNat := hperm.length_eq.symm.trans rfl
  have hmiddle := median50_eq hsums hlen (by decide)
  rw [← horder.eq_mergeSort hperm] at hmiddle
  have hsum : (((x.toNat : ℤ) : ℚ) + (((y.toNat : ℤ) : ℚ) + (((z.toNat : ℤ) : ℚ) + 0))) /
      ((3 : ℕ) : ℚ) = ((x.toNat + y.toNat + z.toNat : ℤ) : ℚ) / 3 := by
    push_cast
    ring
  rw [← hsum]
  exact congrArg _ hmiddle

/-- The mean of integers that is rounded and loses its fraction is between the integers that
    the mean is between. -/
theorem trunc_round_mem (R : Rounding 24) (s lo hi : ℤ) (hlow : 3 * lo ≤ s) (hhigh : s ≤ 3 * hi)
    (hlo : |lo| ≤ 2 ^ 24) (hhi : |hi| ≤ 2 ^ 24) :
    lo ≤ trunc (R.round ((s : ℚ) / 3)) ∧ trunc (R.round ((s : ℚ) / 3)) ≤ hi := by
  have hlow' : ((3 * lo : ℤ) : ℚ) ≤ s := Int.cast_le.mpr hlow
  have hhigh' : (s : ℚ) ≤ ((3 * hi : ℤ) : ℚ) := Int.cast_le.mpr hhigh
  push_cast at hlow' hhigh'
  constructor
  · refine le_trunc ?_
    rw [← R.int lo hlo]
    exact R.mono (by linarith)
  · refine trunc_le ?_
    rw [← R.int hi hhi]
    exact R.mono (by linarith)

/-- Two of five elements are more than a quarter: the result is another one when they are at
    the other end of the range. -/
theorem arrayMedian50UInt_two (R : Rounding 24) (a b c : UInt16) :
    ∃ m m', arrayMedian50UInt R [a, b, c, 0, 0] 5 = some m ∧
      arrayMedian50UInt R [a, b, c, 65535, 65535] 5 = some m' ∧ m ≠ m' := by
  have hlen : [a, b, c].length = (3 : UInt8).toNat := rfl
  rcases sortArray_spec hlen with ⟨r, -, -, hperm, horder⟩
  have hpairwise := horder.pairwise
  match r, hperm.length_eq with
  | [x, y, z], _ =>
    have hmin : ∀ v : UInt16, 0 ≤ v := fun v => by
      rw [UInt16.le_iff_toNat_le]
      exact Nat.zero_le _
    have hmax : ∀ v : UInt16, v ≤ 65535 := fun v => by
      rw [UInt16.le_iff_toNat_le]
      exact Nat.le_of_lt_succ v.toNat_lt
    have hlow : [0, 0, x, y, z].Pairwise (· ≤ ·) :=
      (hpairwise.cons fun v _ => hmin v).cons fun v _ => hmin v
    have hhigh : ([x, y, z] ++ [65535, 65535]).Pairwise (· ≤ ·) := by
      refine List.pairwise_append.mpr ⟨hpairwise, ?_, fun v _ w hw => ?_⟩
      · exact List.pairwise_pair.mpr (hmax _)
      · rw [List.eq_of_mem_replicate (n := 2) hw]
        exact hmax v
    have hfront : ([0, 0] ++ [x, y, z]).Perm ([x, y, z] ++ [0, 0]) := List.perm_append_comm
    have hzeros : [0, 0, x, y, z].Perm [a, b, c, 0, 0] := hfront.trans (hperm.append_right _)
    have hones : [x, y, z, 65535, 65535].Perm [a, b, c, 65535, 65535] := hperm.append_right _
    refine ⟨_, _, arrayMedian50UInt_five R hlow hzeros, arrayMedian50UInt_five R hhigh hones,
      fun heq => ?_⟩
    have hxz : x ≤ z := (List.pairwise_cons.mp hpairwise).1 z (by simp)
    rw [UInt16.le_iff_toNat_le] at hxz
    have hx := x.toNat_lt
    have hy := y.toNat_lt
    have hz := z.toNat_lt
    have hzero : (0 : UInt16).toNat = 0 := rfl
    have hone : (65535 : UInt16).toNat = 65535 := rfl
    -- There is an integer between the two means.
    have hleft := trunc_round_mem R ((0 : UInt16).toNat + x.toNat + y.toNat) 0
      ((x.toNat + y.toNat + 2) / 3) (by omega) (by omega) (by norm_num)
      (by rw [abs_of_nonneg (by omega)]; omega)
    have hright := trunc_round_mem R (y.toNat + z.toNat + (65535 : UInt16).toNat)
      ((y.toNat + z.toNat + 65535) / 3) 65535 (by omega) (by omega)
      (by rw [abs_of_nonneg (by omega)]; omega) (by norm_num)
    have hsame := congrArg UInt16.toNat heq
    rw [UInt16.toNat_ofNat', UInt16.toNat_ofNat'] at hsame
    omega

end Math

end TimelapsePlus
