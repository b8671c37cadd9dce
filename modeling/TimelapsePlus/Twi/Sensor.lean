import Mathlib.Data.Rat.Floor
import Mathlib.Tactic.Linarith
import Mathlib.Tactic.NormNum
import TimelapsePlus.Twi.Transfers

/-!
# Reading the Light Sensor

A raw reading takes two transfers: the number of the sensor's register is written, and two
bytes are read. Either may fail, or be given up for lack of time, and `readRaw` does not
look. When the bus is idle at the start of each, the reading is what the sensor has sent,
or it is zero.

`readLux` goes through the four ranges of the sensor, from the most sensitive one on, and
stays at the first whose reading is not near its end. In the most sensitive one it adds up
ten more readings and divides by the number of those that are not zero. So a reading that
has been lost there does no harm.

How good the result is, is said for a sensor that counts light without a fault: a range
has a quarter of the counts of the one before it, rounded down, and no more than sixteen
bits. Then the result is off by less than one count of its range, and more light never
gives a lower result, even where the range changes: the limit, 45000, is a multiple of
four.

## Main definitions

* `readRaw`: Two transfers.
* `autoRange`, `readLux`: The search for a range, and the result.
* `count`: What the sensor counts.

## Theorems

* `readRaw_reads`: A reading is what the sensor has sent, or zero.
* `readLux_measured`: The result is that of one range, whatever readings are lost.
* `readLux_accurate`, `readLux_mono`: It is near the light, and it grows with it.
-/

namespace TimelapsePlus

namespace Twi

/-- `I2C_ADDR_READ`. -/
def i2cAddrRead : UInt8 := 0x89

/-- `I2C_ADDR_WRITE`. -/
def i2cAddrWrite : UInt8 := 0x88

namespace System

variable {s t : System}

/-- The interrupts while a function waits, each with the status and the byte. -/
def await (s : System) (answers : List (UInt8 × UInt8)) : Option System :=
  steps step s (answers.map fun a => .answer a.1 a.2)

/-- `Light::readRaw`, up to its second transfer: the number of the register is written. -/
def point (s : System) (first second : List (UInt8 × UInt8)) : Option System :=
  match s.await first with
  | none => none
  | some t => (t.called (t.master.startReadWrite [i2cAddrWrite, 0x02] 2)
      [i2cAddrWrite, 0x02]).await second

/-- The rest of it: two bytes are read. -/
def fetch (s : System) (third : List (UInt8 × UInt8)) : Option (System × UInt16) :=
  match (s.called (s.master.startReadWrite [i2cAddrRead, 0, 0] 3)
    [i2cAddrRead, 0, 0]).await third with
  | none => none
  | some t =>
    let buf := t.master.readDataFromBuffer [i2cAddrRead, 0, 0] 3
    some (t, (buf.getD 1 0).toUInt16 + (buf.getD 2 0).toUInt16 <<< 8)

/-- `Light::readRaw`, with the interrupts of its three waits. -/
def readRaw (s : System) (first second third : List (UInt8 × UInt8)) :
    Option (System × UInt16) :=
  match s.point first second with
  | none => none
  | some t => t.fetch third

/-- While a function waits, only the hardware steps. -/
theorem await_hears {answers : List (UInt8 × UInt8)} (h : s.await answers = some t) :
    Run step Hears s t := by
  unfold await at h
  induction answers generalizing s with
  | nil =>
      rw [List.map_nil, steps_nil, Option.some.injEq] at h
      rw [h]
      exact .refl
  | cons a answers ih =>
      rw [List.map_cons] at h
      rcases exists_of_steps_cons h with ⟨u, hone, hu⟩
      exact .head (.answer a.1 a.2) trivial hone (ih hu)

/-- The message of a call on an idle bus. -/
theorem called_asked (hidle : s.master.busy = false) (m : Master) (asked : List UInt8) :
    (s.called m asked).asked = asked := by
  unfold called
  rw [if_neg (by rw [hidle]; exact Bool.false_ne_true)]

theorem call_sound (h : s.Sound) (msg : List UInt8) (msgSize : UInt8)
    (hsize : msgSize.toNat ≤ bufferSize) :
    (s.called (s.master.startReadWrite msg msgSize)
      ((List.range msgSize.toNat).map fun i => msg.getD i 0)).Sound :=
  step_sound h (l := .startReadWrite msg msgSize) hsize rfl

/-- The two bytes of a reading. -/
theorem word_toNat (low high : UInt8) :
    (low.toUInt16 + high.toUInt16 <<< 8).toNat = low.toNat + 256 * high.toNat := by
  have hlow := low.toNat_lt
  have hhigh := high.toNat_lt
  have height : (8 : UInt16).toNat % 16 = 8 := rfl
  rw [UInt16.toNat_add, UInt16.toNat_shiftLeft, UInt8.toNat_toUInt16, UInt8.toNat_toUInt16, height,
    Nat.shiftLeft_eq]
  omega

/-- If the bus is idle when its two transfers begin, a raw reading is made of the two bytes
    that the sensor has sent in the second one, or it is zero, because that one has failed
    or takes too long. If the first one has succeeded, the number of the register has been
    written before. -/
theorem readRaw_reads (hrun : Run step Fits fresh s) {first second third : List (UInt8 × UInt8)}
    {t₁ t₂ t : System} {r : UInt16} (hfirst : s.await first = some t₁)
    (hidle₁ : t₁.master.busy = false) (hpoint : s.point first second = some t₂)
    (hidle₂ : t₂.master.busy = false) (hread : s.readRaw first second third = some (t, r)) :
    (t₂.master.lastTransOK = true →
      t₂.log = [.start, .address i2cAddrWrite true, .data 0x02 true, .stop]) ∧
    ((t.master.busy = false ∧ t.master.lastTransOK = true ∧ ∃ low high,
      t.log = [.start, .address i2cAddrRead true, .received low true, .received high false, .stop] ∧
        r.toNat = low.toNat + 256 * high.toNat) ∨
      (t.master.busy = true ∨ t.master.lastTransOK = false) ∧ r = 0) := by
  have hsound₁ := (hears_kept (await_hears hfirst) (run_sound hrun)).1
  -- The first transfer.
  unfold point at hpoint
  rw [hfirst] at hpoint
  simp only at hpoint
  have hbegun₁ := call_sound hsound₁ [i2cAddrWrite, 0x02] 2 (by decide)
  rcases hears_kept (await_hears hpoint) hbegun₁ with ⟨hsound₂, hasked₂⟩
  rw [called_asked hidle₁] at hasked₂
  -- The second.
  have hpoint' : s.point first second = some t₂ := by
    unfold point
    rw [hfirst]
    exact hpoint
  unfold readRaw at hread
  rw [hpoint'] at hread
  simp only [fetch] at hread
  have hbegun₂ := call_sound hsound₂ [i2cAddrRead, 0, 0] 3 (by decide)
  cases hthird : (t₂.called (t₂.master.startReadWrite [i2cAddrRead, 0, 0] 3)
      [i2cAddrRead, 0, 0]).await third with
  | none =>
      rw [hthird] at hread
      exact absurd hread.symm (Option.some_ne_none _)
  | some u =>
      rw [hthird] at hread
      simp only [Option.some.injEq, Prod.mk.injEq] at hread
      rcases hread with ⟨rfl, hr⟩
      rcases hears_kept (await_hears hthird) hbegun₂ with ⟨hsound, hasked⟩
      rw [called_asked hidle₂] at hasked
      refine ⟨fun hok => ?_, ?_⟩
      · have hend := hsound₂.ended hidle₂
        rw [hok, if_pos rfl] at hend
        unfold Complete at hend
        rw [hasked₂] at hend
        exact hend
      · by_cases hgood : u.master.busy = false ∧ u.master.lastTransOK = true
        · refine Or.inl ⟨hgood.1, hgood.2, ?_⟩
          have hend := hsound.ended hgood.1
          rw [hgood.2, if_pos rfl] at hend
          unfold Complete at hend
          rw [hasked] at hend
          rcases hend with ⟨bs, high, hlog, hlen, hstored⟩
          -- Two bytes have been read, and they stand behind the address.
          have hone : ∃ low, bs = [low] := List.length_eq_one_iff.mp hlen
          rcases hone with ⟨low, rfl⟩
          refine ⟨low, high, hlog, ?_⟩
          have hlow : u.master.buf 1 = low := hstored 0 low rfl
          have hhigh : u.master.buf 2 = high := hstored 1 high rfl
          have hbuf : u.master.readDataFromBuffer [i2cAddrRead, 0, 0] 3 =
              [u.master.buf 0, low, high] := by
            unfold Master.readDataFromBuffer
            rw [hgood.1, hgood.2, ← hlow, ← hhigh]
            rfl
          rw [← hr, hbuf]
          exact word_toNat low high
        · refine Or.inr ⟨?_, ?_⟩
          · rw [not_and, Bool.not_eq_true] at hgood
            cases hbusy : u.master.busy with
            | true => exact Or.inl rfl
            | false => exact Or.inr (hgood hbusy)
          · have hbuf : u.master.readDataFromBuffer [i2cAddrRead, 0, 0] 3 =
                [i2cAddrRead, 0, 0] := by
              unfold Master.readDataFromBuffer
              refine if_neg ?_
              rw [Bool.and_eq_true, Bool.not_eq_true']
              exact hgood
            rw [← hr, hbuf]
            rfl

/-- The number of the register is written, and seven and nine are read. -/
theorem readRaw_reads_once : ∃ t r, fresh.readRaw [] [(0x08, 0), (0x18, 0), (0x28, 0)]
    [(0x08, 0), (0x40, 0), (0x50, 7), (0x58, 9)] = some (t, r) ∧ r = 2311 ∧
      ∃ low high, t.log = [.start, .address i2cAddrRead true, .received low true,
        .received high false, .stop] ∧ r.toNat = low.toNat + 256 * high.toNat := by
  let writing : List (UInt8 × UInt8) := [(0x08, 0), (0x18, 0), (0x28, 0)]
  let reading : List (UInt8 × UInt8) := [(0x08, 0), (0x40, 0), (0x50, 7), (0x58, 9)]
  have hwritten : (fresh.point [] writing).map (fun t => t.master.busy) = some false := by
    decide +kernel
  have hread : (fresh.readRaw [] writing reading).map (fun t =>
      (t.1.master.busy, t.1.master.lastTransOK, t.2)) = some (false, true, 2311) := by
    decide +kernel
  rcases Option.map_eq_some_iff.mp hwritten with ⟨u, hu, hidle⟩
  rcases Option.map_eq_some_iff.mp hread with ⟨⟨t, r⟩, ht, hdone⟩
  simp only [Prod.mk.injEq] at hdone
  rcases (readRaw_reads .refl rfl rfl hu hidle ht).2 with ⟨-, -, hbytes⟩ | ⟨hno, -⟩
  · exact ⟨t, r, ht, hdone.2.2, hbytes⟩
  · rw [hdone.1, hdone.2.1] at hno
    exact absurd hno (by decide)

end System

/-! ### The range and the result -/

/-- The counts for one lux, in each range. -/
def scale : Nat → ℚ
  | 0 => 524288 / 1000
  | 1 => 131072 / 1000
  | 2 => 32768 / 1000
  | _ => 8192 / 1000

/-- A reading from here on is near the end of its range. -/
def rangeLimit : UInt16 := 45000

/-- The loop over the ranges, from one on: the range it ends with, and its reading. -/
def rangeFrom (raw : Nat → Nat → UInt16) : Nat → Nat → UInt16 → Nat × UInt16
  | 0, range, reading => (range, reading)
  | n + 1, range, _ =>
    if raw range 0 < rangeLimit then (range, raw range 0)
    else rangeFrom raw n (range + 1) (raw range 0)

/-- `for(range = 0; range < 4; range++)`. -/
def autoRange (raw : Nat → Nat → UInt16) : Nat × UInt16 := rangeFrom raw 4 0 0

/-- `READINGS_COUNT`. -/
def readingsCount : Nat := 10

/-- The readings that follow the first one in the most sensitive range, divided by the number
    of those that are not zero. -/
def average (raw : Nat → Nat → UInt16) : UInt16 :=
  let readings := (List.range readingsCount).map fun i => raw 0 (i + 1)
  let count := readings.countP (0 < ·)
  UInt16.ofNat ((readings.map UInt16.toNat).sum / if count = 0 then 1 else count)

/-- `Light::readLux`, with the readings of each range in their order. -/
def readLux (initialized paused : Bool) (raw : Nat → Nat → UInt16) : ℚ :=
  if !initialized || paused then 0
  else
    let reading := if (autoRange raw).1 = 0 then average raw else (autoRange raw).2
    reading.toNat / scale (autoRange raw).1

/-! ### A sensor without a fault -/

/-- What the sensor counts at some light, in a range. -/
def count (lux : ℚ) (range : Nat) : Nat := min 65535 ⌊lux * scale range⌋₊

/-- The readings are what the sensor counts, but those that are averaged may be lost, as long
    as one is there. -/
structure Sees (lux : ℚ) (raw : Nat → Nat → UInt16) : Prop where
  ranging : ∀ range, (raw range 0).toNat = count lux range
  averaged : ∀ i < readingsCount, (raw 0 (i + 1)).toNat = count lux 0 ∨ raw 0 (i + 1) = 0
  there : ∃ i < readingsCount, (raw 0 (i + 1)).toNat = count lux 0

/-- The result of the first range whose count is not near its end, or of the last one. -/
def measuredFrom (lux : ℚ) : Nat → Nat → ℚ
  | 0, range => count lux range / scale range
  | n + 1, range =>
    if count lux range < rangeLimit.toNat then count lux range / scale range
    else measuredFrom lux n (range + 1)

/-- The result at some light. -/
def measured (lux : ℚ) : ℚ := measuredFrom lux 3 0

variable {lux lux' : ℚ} {raw : Nat → Nat → UInt16}

/-- A sensor of which nothing is lost. -/
theorem sees_all (lux : ℚ) : Sees lux fun range _ => UInt16.ofNat (count lux range) := by
  have hcount : ∀ range, (UInt16.ofNat (count lux range)).toNat = count lux range := fun range =>
    UInt16.toNat_ofNat_of_lt' (Nat.lt_succ_of_le (min_le_left _ _))
  exact ⟨hcount, fun _ _ => Or.inl (hcount 0), 0, by decide, hcount 0⟩

theorem scale_pos (range : Nat) : 0 < scale range := by
  match range with
  | 0 | 1 | 2 => norm_num [scale]
  | n + 3 =>
      change (0 : ℚ) < 8192 / 1000
      norm_num

theorem scale_succ {range : Nat} (h : range < 3) : scale range = 4 * scale (range + 1) := by
  match range with
  | 0 | 1 | 2 => norm_num [scale]
  | n + 3 => omega

theorem count_mono (h : lux ≤ lux') (range : Nat) : count lux range ≤ count lux' range :=
  min_le_min_left _ (Nat.floor_le_floor (mul_le_mul_of_nonneg_right h (scale_pos range).le))

/-- A count is no more than sixteen bits, and no more than the light. -/
theorem count_le (hlux : 0 ≤ lux) (range : Nat) : (count lux range : ℚ) ≤ lux * scale range :=
  (Nat.cast_le.mpr (min_le_right _ _)).trans (Nat.floor_le (mul_nonneg hlux (scale_pos range).le))

/-- Below its end it lacks less than one. -/
theorem lt_count (range : Nat) (h : lux * scale range < 65536) :
    lux * scale range < count lux range + 1 := by
  have hfloor := Nat.lt_floor_add_one (lux * scale range)
  by_cases hend : ⌊lux * scale range⌋₊ ≤ 65535
  · unfold count
    rw [min_eq_right hend]
    exact hfloor
  · unfold count
    rw [min_eq_left (by omega)]
    push_cast
    linarith

/-- Near the end of a range the next one has enough. -/
theorem count_next (hlux : 0 ≤ lux) {range : Nat} (hrange : range < 3)
    (h : rangeLimit.toNat ≤ count lux range) :
    (rangeLimit.toNat : ℚ) / scale range ≤ count lux (range + 1) / scale (range + 1) := by
  have hlimit : rangeLimit.toNat = 45000 := rfl
  have hpos := scale_pos (range + 1)
  have hlight : (45000 : ℚ) ≤ lux * scale range := by
    refine le_trans ?_ (count_le hlux range)
    rw [hlimit] at h
    exact_mod_cast h
  -- A quarter of the limit is a whole number.
  have hfloor : 11250 ≤ ⌊lux * scale (range + 1)⌋₊ := by
    refine Nat.le_floor ?_
    rw [scale_succ hrange] at hlight
    push_cast
    linarith
  have hcount : (11250 : ℚ) ≤ count lux (range + 1) := by
    have hmin : 11250 ≤ count lux (range + 1) := le_min (by norm_num) hfloor
    exact_mod_cast hmin
  rw [hlimit, scale_succ hrange, div_le_div_iff₀ (by linarith) hpos]
  push_cast
  nlinarith

/-- So what is measured in a later range is no less than the limit. -/
theorem limit_le (hlux : 0 ≤ lux) (n range : Nat) (hrange : range + n < 3)
    (h : rangeLimit.toNat ≤ count lux range) :
    (rangeLimit.toNat : ℚ) / scale range ≤ measuredFrom lux n (range + 1) := by
  induction n generalizing range with
  | zero => exact count_next hlux (by omega) h
  | succ n ih =>
      rw [measuredFrom]
      split
      · exact count_next hlux (by omega) h
      · next hnear =>
          refine le_trans ?_ (ih (range + 1) (by omega) (Nat.le_of_not_lt hnear))
          have hpos := scale_pos (range + 1)
          rw [scale_succ (by omega : range < 3)]
          exact div_le_div_of_nonneg_left (Nat.cast_nonneg _) hpos (by linarith)

/-- More light never gives less, from any range on. -/
theorem measuredFrom_mono (hlux : 0 ≤ lux) (h : lux ≤ lux') (n range : Nat)
    (hrange : range + n ≤ 3) : measuredFrom lux n range ≤ measuredFrom lux' n range := by
  have hcount : ∀ r, (count lux r : ℚ) / scale r ≤ count lux' r / scale r := fun r =>
    div_le_div_of_nonneg_right (Nat.cast_le.mpr (count_mono h r)) (scale_pos r).le
  induction n generalizing range with
  | zero => exact hcount range
  | succ n ih =>
      rw [measuredFrom, measuredFrom]
      by_cases hnear : count lux range < rangeLimit.toNat
      · rw [if_pos hnear]
        by_cases hnear' : count lux' range < rangeLimit.toNat
        · rw [if_pos hnear']
          exact hcount range
        · -- The brighter light is measured in a later range.
          rw [if_neg hnear']
          refine le_trans ?_ (limit_le (hlux.trans h) n range (by omega) (Nat.le_of_not_lt hnear'))
          exact div_le_div_of_nonneg_right (Nat.cast_le.mpr (Nat.le_of_lt hnear))
            (scale_pos range).le
      · have hnear' : ¬ count lux' range < rangeLimit.toNat := fun hlt =>
          hnear (Nat.lt_of_le_of_lt (count_mono h range) hlt)
        rw [if_neg hnear, if_neg hnear']
        exact ih (range + 1) (by omega)

/-- What is left out of a sum is zero. -/
theorem sum_lost {α : Type} {f : α → Nat} {p : α → Bool} {v : Nat} {xs : List α}
    (h : ∀ x ∈ xs, p x = true ∧ f x = v ∨ p x = false ∧ f x = 0) :
    (xs.map f).sum = xs.countP p * v := by
  induction xs with
  | nil => exact (Nat.zero_mul v).symm
  | cons x xs ih =>
      have hrest := ih fun y hy => h y (List.mem_cons_of_mem x hy)
      rw [List.map_cons, List.sum_cons, hrest]
      rcases h x List.mem_cons_self with ⟨hp, hf⟩ | ⟨hp, hf⟩
      · rw [List.countP_cons_of_pos hp, hf, Nat.succ_mul, Nat.add_comm]
      · rw [List.countP_cons_of_neg (by rw [hp]; exact Bool.false_ne_true), hf, Nat.zero_add]

/-- The average is what the sensor counts, whatever readings are lost. -/
theorem average_count (h : Sees lux raw) : (average raw).toNat = count lux 0 := by
  have hbound : count lux 0 ≤ 65535 := min_le_left _ _
  let readings := (List.range readingsCount).map fun i => raw 0 (i + 1)
  have hlost : ∀ x ∈ readings, decide (0 < x) = true ∧ x.toNat = count lux 0 ∨
      decide (0 < x) = false ∧ x.toNat = 0 := by
    intro x hx
    rcases List.mem_map.mp hx with ⟨i, hi, rfl⟩
    by_cases hzero : raw 0 (i + 1) = 0
    · rw [hzero]
      exact Or.inr ⟨rfl, rfl⟩
    · have hpos : 0 < raw 0 (i + 1) := by
        rw [UInt16.lt_iff_toNat_lt]
        exact Nat.pos_of_ne_zero fun h0 => hzero (UInt16.toNat_inj.mp h0)
      have hseen := (h.averaged i (List.mem_range.mp hi)).resolve_right hzero
      exact Or.inl ⟨decide_eq_true hpos, hseen⟩
  have hsum : (readings.map UInt16.toNat).sum = readings.countP (0 < ·) * count lux 0 :=
    sum_lost hlost
  have hquotient : (readings.map UInt16.toNat).sum /
      (if readings.countP (0 < ·) = 0 then 1 else readings.countP (0 < ·)) = count lux 0 := by
    rw [hsum]
    by_cases hnone : readings.countP (0 < ·) = 0
    · rw [if_pos hnone, hnone, Nat.zero_mul]
      -- One reading is there, and it is zero only when the count is.
      rcases h.there with ⟨i, hi, hseen⟩
      have hmem : raw 0 (i + 1) ∈ readings := List.mem_map_of_mem (List.mem_range.mpr hi)
      have hnot := List.countP_eq_zero.mp hnone _ hmem
      rw [decide_eq_true_eq, UInt16.lt_iff_toNat_lt, hseen] at hnot
      exact (Nat.eq_zero_of_not_pos hnot).symm
    · rw [if_neg hnone]
      exact Nat.mul_div_cancel_left _ (Nat.pos_of_ne_zero hnone)
  unfold average
  exact (congrArg (fun n => (UInt16.ofNat n).toNat) hquotient).trans
    (UInt16.toNat_ofNat_of_lt' (Nat.lt_succ_of_le hbound))

/-- The loop ends with the first range that is not near its end, or behind the last one, and
    its reading is the count there. -/
theorem rangeFrom_measured (h : Sees lux raw) (n range : Nat) (hrange : range + n = 3)
    (reading : UInt16) :
    ((rangeFrom raw (n + 1) range reading).2.toNat : ℚ) /
        scale (rangeFrom raw (n + 1) range reading).1 = measuredFrom lux n range ∧
      ((rangeFrom raw (n + 1) range reading).1 = 0 →
        range = 0 ∧ count lux 0 < rangeLimit.toNat) := by
  have hnear : ∀ r, raw r 0 < rangeLimit ↔ count lux r < rangeLimit.toNat := by
    intro r
    rw [UInt16.lt_iff_toNat_lt, h.ranging]
  induction n generalizing range reading with
  | zero =>
      have hthree : range = 3 := by omega
      rw [hthree, rangeFrom]
      split
      · exact ⟨by rw [h.ranging]; rfl, fun hno => absurd hno (Nat.succ_ne_zero _)⟩
      · exact ⟨by rw [rangeFrom, h.ranging]; rfl, fun hno => absurd hno (Nat.succ_ne_zero _)⟩
  | succ n ih =>
      rw [rangeFrom, measuredFrom]
      by_cases hstay : raw range 0 < rangeLimit
      · have hcount := (hnear range).mp hstay
        rw [if_pos hstay, if_pos hcount, h.ranging]
        refine ⟨rfl, fun hzero => ⟨hzero, ?_⟩⟩
        have hrange0 : range = 0 := hzero
        rw [hrange0] at hcount
        exact hcount
      · rw [if_neg hstay, if_neg fun hlt => hstay ((hnear range).mpr hlt)]
        rcases ih (range + 1) (by omega) (raw range 0) with ⟨hvalue, hno⟩
        exact ⟨hvalue, fun hzero => absurd (hno hzero).1 (Nat.succ_ne_zero _)⟩

/-- The result is the count of one range, whatever readings of the average are lost. -/
theorem readLux_measured (h : Sees lux raw) : readLux true false raw = measured lux := by
  rcases rangeFrom_measured h 3 0 rfl 0 with ⟨hvalue, hzero⟩
  unfold readLux
  rw [if_neg (by decide)]
  by_cases hfirst : (autoRange raw).1 = 0
  · simp only [if_pos hfirst]
    rw [hfirst, average_count h]
    unfold measured
    rw [measuredFrom, if_pos (hzero hfirst).2]
  · simp only [if_neg hfirst]
    exact hvalue

/-- What is measured is no more than the light. -/
theorem measuredFrom_le (hlux : 0 ≤ lux) (n range : Nat) : measuredFrom lux n range ≤ lux := by
  have hone : ∀ r, (count lux r : ℚ) / scale r ≤ lux := fun r =>
    (div_le_iff₀ (scale_pos r)).mpr (count_le hlux r)
  induction n generalizing range with
  | zero => exact hone range
  | succ n ih =>
      rw [measuredFrom]
      split
      · exact hone range
      · exact ih (range + 1)

/-- In a range that is not at its end the result is less than one count off. -/
theorem count_near (range : Nat) (h : lux * scale range < 65536) :
    lux - count lux range / scale range < 1 / scale range := by
  have hpos := scale_pos range
  rw [sub_lt_iff_lt_add, ← add_div, lt_div_iff₀ hpos, add_comm]
  exact lt_count range h

/-- A range that is not near its end is not at its end. -/
theorem lt_end {range : Nat} (h : count lux range < rangeLimit.toNat) :
    lux * scale range < 65536 := by
  have hlimit : rangeLimit.toNat = 45000 := rfl
  have hfloor := Nat.lt_floor_add_one (lux * scale range)
  have hless : ⌊lux * scale range⌋₊ < 45000 := by
    unfold count at h
    omega
  have hcast : (⌊lux * scale range⌋₊ : ℚ) < 45000 := by exact_mod_cast hless
  linarith

/-- Behind a range that is near its end, one count is no more than one part in 11250. -/
theorem part_of {range : Nat} (hlux : 0 ≤ lux) (hrange : range < 3)
    (h : rangeLimit.toNat ≤ count lux range) : 1 / scale (range + 1) ≤ lux / 11250 := by
  have hlimit : rangeLimit.toNat = 45000 := rfl
  have hpos := scale_pos (range + 1)
  have hlight : (45000 : ℚ) ≤ lux * scale range := by
    refine le_trans ?_ (count_le hlux range)
    rw [hlimit] at h
    exact_mod_cast h
  rw [scale_succ hrange] at hlight
  rw [div_le_div_iff₀ hpos (by norm_num)]
  linarith

/-- So is the error of the result. -/
theorem measuredFrom_near (hlux : 0 ≤ lux) (hend : lux * scale 3 < 65536) (n range : Nat)
    (hrange : range + 1 + n = 3) (hbefore : rangeLimit.toNat ≤ count lux range) :
    lux - measuredFrom lux n (range + 1) ≤ lux / 11250 := by
  induction n generalizing range with
  | zero =>
      have htwo : range = 2 := by omega
      rw [htwo] at hbefore ⊢
      exact ((count_near 3 hend).le).trans (part_of hlux (by norm_num) hbefore)
  | succ n ih =>
      rw [measuredFrom]
      split
      · next hstay =>
          exact ((count_near (range + 1) (lt_end hstay)).le).trans
            (part_of hlux (by omega) hbefore)
      · next hgo => exact ih (range + 1) (by omega) (Nat.le_of_not_lt hgo)

/-- With a sensor that counts without a fault, up to the end of its last range, the result is
    no more than the light. In the most sensitive range it is less than one count off, and in
    the others no more than one part in 11250. It does not matter which readings of the
    average are lost, as long as one is there. -/
theorem readLux_accurate (hlux : 0 ≤ lux) (hend : lux * scale 3 < 65536) (h : Sees lux raw) :
    readLux true false raw ≤ lux ∧
      (count lux 0 < rangeLimit.toNat → lux - readLux true false raw < 1 / scale 0) ∧
      (rangeLimit.toNat ≤ count lux 0 → lux - readLux true false raw ≤ lux / 11250) := by
  rw [readLux_measured h]
  unfold measured
  refine ⟨measuredFrom_le hlux 3 0, fun hstay => ?_, fun hgo => ?_⟩
  · rw [measuredFrom, if_pos hstay]
    exact count_near 0 (lt_end hstay)
  · rw [measuredFrom, if_neg (Nat.not_lt_of_le hgo)]
    exact measuredFrom_near hlux hend 2 0 rfl hgo

/-- A hundred lux are too much for the most sensitive range. -/
theorem readLux_accurate_hundred :
    readLux true false (fun range _ => UInt16.ofNat (count 100 range)) ≤ 100 ∧
      100 - readLux true false (fun range _ => UInt16.ofNat (count 100 range)) ≤ 100 / 11250 := by
  have hend : (100 : ℚ) * scale 3 < 65536 := by norm_num [scale]
  have hgo : rangeLimit.toNat ≤ count 100 0 := by
    have hlimit : rangeLimit.toNat = 45000 := rfl
    rw [hlimit]
    exact le_min (by norm_num) (Nat.le_floor (by norm_num [scale]))
  rcases readLux_accurate (by norm_num) hend (sees_all 100) with ⟨hle, -, hnear⟩
  exact ⟨hle, hnear hgo⟩

/-- More light never gives a lower result, even where the range changes. -/
theorem readLux_mono (hlux : 0 ≤ lux) (hle : lux ≤ lux') {raw' : Nat → Nat → UInt16}
    (h : Sees lux raw) (h' : Sees lux' raw') :
    readLux true false raw ≤ readLux true false raw' := by
  rw [readLux_measured h, readLux_measured h']
  exact measuredFrom_mono hlux hle 3 0 (Nat.le_refl 3)

/-- The most sensitive range will do for eighty lux, and not for a hundred. -/
theorem readLux_mono_hundred :
    readLux true false (fun range _ => UInt16.ofNat (count 80 range)) ≤
      readLux true false (fun range _ => UInt16.ofNat (count 100 range)) :=
  readLux_mono (by norm_num) (by norm_num) (sees_all 80) (sees_all 100)

end Twi

end TimelapsePlus
