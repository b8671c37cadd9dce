import TimelapsePlus.Lib.Nearest
import TimelapsePlus.Shutter.Exposure

/-!
# From a Length to a Shutter Speed

`bulbToShutterEv` chooses the entry of the shutter table for a length in
milliseconds. The table lists its lengths in tenths of a millisecond, shortest
first, between an entry for an error and one for bulb. The scan stops at the
first entry that is not shorter than the target, and compares it with another to
see which is the nearer; the entry chosen the time before counts as half as far.

The other entry is the next one, which is longer still, and not the one before. So
the nearest is found only where the entry the scan stops at is it. The differences
are stored in 16 bits, which from 15 seconds on makes some next entries look close.
Bulb, the last entry, has the largest number for a code, so it ends the scan for every
length above 30 seconds, and the entry after it is read, which there is not.

## Main definitions

* `bulbToShutterEv`: The value for a length, with the one kept for the next time.
* `NearestEntry`: An entry is the nearest to a length.
* `PicksNearest`: Its value is returned.
* `Accurate`: The lengths for which it is.
* `entry`: The table by its index.
* `Overtaken`: The next entry is chosen.

## Theorems

* `entry_room_below`, `entry_room_above`, `entry_beyond`: How the lengths of the table
  lie.
* `bulbToShutterEv_eq`, `bulbToShutterEv_eq_none`: What is returned.
* `overtaken_20s`, `overtaken_25s`, `overtaken_30s`, `not_overtaken`: When the next entry
  is chosen.
* `nearestEntry_iff`, `not_nearestEntry`, `nearestEntry_of_long`: Which entry is the
  nearest.
* `picksNearest_iff_of_le`, `picksNearest_iff_of_long`: The short lengths, and those
  longer than every entry.
-/

namespace TimelapsePlus

namespace Shutter

open Word Ptp

/-- `sizeof(PTP_Shutter_List)`: 57 entries of seven characters, three codes of four
    bytes and a value. -/
def sizeofShutterList : Nat := 57 * 20

/-- A difference, halved for the entry that was chosen the time before. -/
def hysteresis (prevEv ev delta : Nat) : Nat :=
  if prevEv ≠ 0 ∧ prevEv = ev then delta / 2 else delta

/-- The choice at the entry the scan stops at, between it and the next. It has no
    value if that one is not in the table. -/
def chooseEv (prevEv target i : Nat) : Option Nat := do
  let d1 ← ptpShutterList[i]?
  let delta1 := hysteresis prevEv d1.ev (u16 (sub32 d1.nikon target))
  -- The bound is in bytes, so it holds at every entry.
  if i < sizeofShutterList - 1 then
    let d2 ← ptpShutterList[i + 1]?
    let delta2 := hysteresis prevEv d2.ev (u16 (sub32 d2.nikon target))
    if delta2 ≤ delta1 then some d2.ev else some d1.ev
  else some d1.ev

/-- `bulbToShutterEv`: the value for a length, with the value kept for the next
    time. There is none if an entry outside the table is read. -/
def bulbToShutterEv (prevEv bulbTime : Nat) : Option (Nat × Nat) :=
  if bulbTime = 0 then some (0, prevEv)
  else do
    let target := u32 (bulbTime * 10)
    let ev ← match ptpShutterList.findIdx? fun d => decide (target ≤ d.nikon) with
      | some i => chooseEv prevEv target i
      | none => some 0
    let limited := min ev maxExtendedRampShutter.toNat
    some (limited, limited)

/-- The entries that stand for a length. -/
def timedEntries : List PropertyDescription := ptpShutterList.filter fun d => d.ev < bulbEvCode

/-- The length of the longest of them, in tenths of a millisecond. -/
def longestTime : Nat := 300000

/-- An entry is the nearest to a length, the one of the value `prevEv` counting as half
    as far. A length longer than every entry counts as the longest. -/
def NearestEntry (prevEv bulbTime : Nat) (d : PropertyDescription) : Prop :=
  Nearest.IsNearest (fun d : PropertyDescription => (d.nikon : ℤ)) (fun d => d.ev = prevEv)
    {d | d ∈ timedEntries} ((min (bulbTime * 10) longestTime : ℕ) : ℤ) d

/-- The value of a nearest entry is returned, limited to the shortest exposure of an
    extended ramp, and the table is not left. -/
def PicksNearest (prevEv bulbTime : Nat) : Prop :=
  ∃ ev kept d, bulbToShutterEv prevEv bulbTime = some (ev, kept) ∧
    NearestEntry prevEv bulbTime d ∧ ev = min d.ev maxExtendedRampShutter.toNat

/-- The entry the scan stops at is no farther off than the one before it. -/
def UpperNearer (prevEv bulbTime : Nat) : Prop :=
  ∃ i a b, ptpShutterList[i]? = some a ∧ ptpShutterList[i + 1]? = some b ∧
    a.nikon < bulbTime * 10 ∧ bulbTime * 10 ≤ b.nikon ∧
    Nearest.weight (fun d : PropertyDescription => (d.nikon : ℤ)) (fun d => d.ev = prevEv)
        ((bulbTime * 10 : ℕ) : ℤ) b ≤
      Nearest.weight (fun d : PropertyDescription => (d.nikon : ℤ)) (fun d => d.ev = prevEv)
        ((bulbTime * 10 : ℕ) : ℤ) a

/-- The lengths the choice is right for. Up to thirty seconds they are those for which
    the entry the scan stops at is the nearer one, without two stretches where the
    difference to the next entry does not fit 16 bits. Longer ones are chosen for at all
    only after a product that has wrapped, and come out right where that is among the
    last entries. -/
def Accurate (prevEv bulbTime : Nat) : Prop :=
  (bulbTime ≤ 30000 ∧ UpperNearer prevEv bulbTime ∧
    (15000 < bulbTime ∧ bulbTime ≤ 18446 → prevEv = 30 ∧ bulbTime ≤ 16892) ∧
    (20000 < bulbTime ∧ bulbTime ≤ 23446 → prevEv = 29 ∧ bulbTime ≤ 21892)) ∨
  (4294967296 ≤ bulbTime * 10 ∧
    (200000 < u32 (bulbTime * 10) ∧ u32 (bulbTime * 10) ≤ 234464 ∧
        (prevEv = 29 → 218928 ≤ u32 (bulbTime * 10)) ∨
      262144 ≤ u32 (bulbTime * 10) ∧ u32 (bulbTime * 10) ≤ 300000 ∧
        (prevEv = 253 → 272323 ≤ u32 (bulbTime * 10))))

/-! ### The table -/

/-- The entry at an index of the table. -/
def entry (i : Nat) : PropertyDescription := ptpShutterList.getD i ⟨0, 0, 0, 0⟩

theorem entry_eq {i : Nat} (h : i < 57) : ptpShutterList[i]? = some (entry i) := by
  have hlen : i < ptpShutterList.length := h
  rw [entry, List.getD_eq_getElem?_getD, List.getElem?_eq_getElem hlen, Option.getD_some]

theorem nikon_400th : (entry 14).nikon = 25 := rfl

theorem nikon_15s : (entry 52).nikon = 150000 := rfl

theorem nikon_20s : (entry 53).nikon = 200000 := rfl

theorem nikon_25s : (entry 54).nikon = 250000 := rfl

theorem nikon_30s : (entry 55).nikon = 300000 := rfl

theorem nikon_bulb : (entry 56).nikon = 4294967295 := rfl

theorem ev_30s : (entry 55).ev = 28 := rfl

/-- The lengths of the table grow, and the values count down, but for bulb at the end. -/
theorem entry_row : ∀ i < 56, (entry i).nikon ≤ (entry (i + 1)).nikon ∧
    (entry (i + 1)).ev = if i + 1 = 56 then bulbEvCode else 82 - i := by
  decide +kernel

theorem entry_step : ∀ i < 56, (entry i).nikon ≤ (entry (i + 1)).nikon :=
  fun i hi => (entry_row i hi).1

theorem entry_le {i j : Nat} (h : j ≤ i) (hi : i < 57) : (entry j).nikon ≤ (entry i).nikon := by
  induction i, h using Nat.le_induction with
  | base => exact le_rfl
  | succ i _ ih => exact (ih (by omega)).trans (entry_step i (by omega))

theorem entry_ev : ∀ i < 57, (entry i).ev =
    if i = 0 then 255 else if i = 56 then bulbEvCode else 83 - i := by
  intro i hi
  cases i with
  | zero => rfl
  | succ i =>
      rw [(entry_row i (by omega)).2, if_neg (Nat.succ_ne_zero i), Nat.add_sub_add_right 82 1 i]

theorem entry_ev_inj {i j : Nat} (hi : i < 57) (hj : j < 57)
    (h : (entry i).ev = (entry j).ev) : i = j := by
  rw [entry_ev i hi, entry_ev j hj, bulbEvCode] at h
  split_ifs at h <;> omega

/-- Past the first 14 the values are below the limit, but for bulb. -/
theorem entry_limit {i : Nat} (hi : i < 57) : (entry i).ev < 69 ↔ 14 < i ∧ i < 56 := by
  rw [entry_ev i hi, bulbEvCode]
  split_ifs <;> omega

/-- How the lengths of three neighbours compare. Two are close to each other compared with
    how far below them the one before is, with two exceptions; and compared with how far
    above the one after is. All three span less than 16 bits, but for the last. -/
theorem entry_gaps : ∀ i < 54,
    (8 ≤ i ∧ i ≠ 28 ∧ i ≠ 51 →
      (entry (i + 2)).nikon + 2 * (entry i).nikon ≤ 3 * (entry (i + 1)).nikon) ∧
    (9 ≤ i → 3 * (entry (i + 1)).nikon ≤ 2 * (entry (i + 2)).nikon + (entry i).nikon) ∧
    (10 ≤ i →
      3 * (entry (i + 1)).nikon + 2 < 2 * (entry (i + 2)).nikon + (entry i).nikon) ∧
    (i < 51 → (entry (i + 2)).nikon < (entry i).nikon + 65536) := by
  decide +kernel

theorem entry_room_below {i j : Nat} (hi : i < 55) (hj : j < i)
    (h : 9 ≤ i ∧ i ≠ 29 ∧ i ≠ 52) :
    (entry (i + 1)).nikon + 2 * (entry j).nikon ≤ 3 * (entry i).nikon := by
  rcases Nat.exists_eq_add_of_le' (show 1 ≤ i by omega) with ⟨k, rfl⟩
  have hroom : (entry (k + 1 + 1)).nikon + 2 * (entry k).nikon ≤ 3 * (entry (k + 1)).nikon :=
    (entry_gaps k (by omega)).1 (by omega)
  have hle := entry_le (show j ≤ k by omega) (by omega)
  omega

theorem entry_room_above {i j : Nat} (hj : j < 56) (h : 9 ≤ i ∧ i + 1 < j) :
    3 * (entry (i + 1)).nikon ≤ 2 * (entry j).nikon + (entry i).nikon := by
  have hroom := (entry_gaps i (by omega)).2.1 h.1
  have hle := entry_le (show i + 2 ≤ j by omega) (by omega)
  omega

theorem entry_beyond {i : Nat} (hi : i < 54) (h : 10 ≤ i) :
    3 * (entry (i + 1)).nikon + 2 < 2 * (entry (i + 2)).nikon + (entry i).nikon :=
  (entry_gaps i hi).2.2.1 h

/-- The entries that stand for a length are those between the first and the last. -/
theorem mem_timedEntries {d : PropertyDescription} :
    d ∈ timedEntries ↔ ∃ j, 1 ≤ j ∧ j ≤ 55 ∧ entry j = d := by
  have htimed : ∀ j < 57, (entry j).ev < bulbEvCode ↔ 1 ≤ j ∧ j ≤ 55 := by
    intro j hj
    rw [entry_ev j hj, bulbEvCode]
    split_ifs <;> omega
  rw [timedEntries, List.mem_filter, List.mem_iff_getElem?, decide_eq_true_eq]
  constructor
  · rintro ⟨⟨j, hget⟩, hev⟩
    have hj : j < 57 := (List.getElem?_eq_some_iff.mp hget).1
    rw [entry_eq hj, Option.some.injEq] at hget
    rw [← hget, htimed j hj] at hev
    exact ⟨j, hev.1, hev.2, hget⟩
  · rintro ⟨j, hone, hle, rfl⟩
    exact ⟨⟨j, entry_eq (by omega)⟩, (htimed j (by omega)).mpr ⟨hone, hle⟩⟩

theorem longestTime_isGreatest :
    longestTime ∈ timedEntries.map PropertyDescription.nikon ∧
      ∀ d ∈ timedEntries, d.nikon ≤ longestTime := by
  have hlast : (entry 55).nikon = longestTime := nikon_30s
  constructor
  · exact List.mem_map.mpr ⟨entry 55, mem_timedEntries.mpr ⟨55, by omega, le_rfl, rfl⟩, hlast⟩
  · intro d hd
    rcases mem_timedEntries.mp hd with ⟨j, -, hle, rfl⟩
    exact hlast ▸ entry_le hle (by omega)

/-! ### The scan -/

section Scan

variable {prevEv target i : Nat}

/-- The scan stops after the last entry that is shorter. -/
theorem findIdx?_of_between (hi : i < 56) (hlow : (entry i).nikon < target)
    (hhigh : target ≤ (entry (i + 1)).nikon) :
    ptpShutterList.findIdx? (fun d => decide (target ≤ d.nikon)) = some (i + 1) := by
  have hlen : ptpShutterList.length = 57 := rfl
  have hget : ∀ j (hj : j < ptpShutterList.length), ptpShutterList[j] = entry j := by
    intro j hj
    rw [← Option.some.injEq, ← List.getElem?_eq_getElem hj, entry_eq (by omega)]
  rw [List.findIdx?_eq_some_iff_getElem]
  refine ⟨by omega, ?_, fun j hj => ?_⟩
  · rw [hget]
    exact decide_eq_true hhigh
  · rw [hget, decide_eq_true_eq]
    have hmono := entry_le (Nat.le_of_lt_succ hj) (by omega)
    omega

/-- Every target is between two neighbours, or not above the first entry. -/
theorem exists_between (hpos : 0 < target) (hmax : target ≤ 4294967295) :
    ∃ i < 56, (entry i).nikon < target ∧ target ≤ (entry (i + 1)).nikon := by
  have hlast := nikon_bulb
  have hfirst : (entry 0).nikon = 0 := rfl
  -- The index after the last entry that is shorter.
  have hex : ∃ i, target ≤ (entry i).nikon := ⟨56, by omega⟩
  have hfind := Nat.find_spec hex
  have hle : Nat.find hex ≤ 56 := Nat.find_min' hex (by omega)
  have hne : Nat.find hex ≠ 0 := by
    intro hzero
    rw [hzero] at hfind
    omega
  refine ⟨Nat.find hex - 1, by omega, Nat.lt_of_not_le (Nat.find_min hex (by omega)), ?_⟩
  rw [Nat.sub_add_cancel (by omega)]
  exact hfind

/-- The next entry is chosen, its difference of 16 bits being no larger. -/
def Overtaken (prevEv target i : Nat) : Prop :=
  hysteresis prevEv (entry (i + 1)).ev (((entry (i + 1)).nikon - target) % 65536) ≤
    hysteresis prevEv (entry i).ev (((entry i).nikon - target) % 65536)

instance (prevEv target i : Nat) : Decidable (Overtaken prevEv target i) :=
  inferInstanceAs (Decidable (_ ≤ _))

theorem chooseEv_eq (hi : i < 56) (h : target ≤ (entry i).nikon) :
    chooseEv prevEv target i =
      some (if Overtaken prevEv target i then (entry (i + 1)).ev else (entry i).ev) := by
  have hmax : (entry (i + 1)).nikon ≤ 4294967295 := by
    have hlast := nikon_bulb
    exact hlast ▸ entry_le (Nat.succ_le_of_lt hi) (by omega)
  have hnext := entry_step i (by omega)
  have hbound : i < sizeofShutterList - 1 := by
    unfold sizeofShutterList
    omega
  unfold chooseEv Overtaken
  rw [entry_eq (by omega), entry_eq (by omega)]
  simp only [Option.bind_eq_bind, Option.bind_some, if_pos hbound, u16]
  rw [sub32_of_le (by omega) h, sub32_of_le (by omega) (by omega)]
  exact (apply_ite some _ _ _).symm

/-- Past the last length the entry after the table is read. -/
theorem chooseEv_last : chooseEv prevEv target 56 = none := by
  unfold chooseEv
  rw [entry_eq (by omega), Option.bind_eq_bind, Option.bind_some, if_pos (by decide),
    show ptpShutterList[56 + 1]? = none from rfl]
  rfl

/-- Between 15 and 20 seconds the difference to 25 seconds wraps. -/
theorem overtaken_20s (hlow : 150000 < target) (hhigh : target ≤ 200000) :
    Overtaken prevEv target 53 ↔ target ≤ 184464 ∧ (prevEv = 30 → 168928 ≤ target) := by
  have hb : entry 53 = ⟨0x15, 200000, 0xC80000 ||| 10, 30⟩ := rfl
  have hc : entry 54 = ⟨0x13, 250000, 0xFA0000 ||| 10, 29⟩ := rfl
  simp only [Overtaken, hysteresis, hb, hc]
  split <;> split <;> omega

/-- Between 20 and 25 seconds that to 30 seconds does. -/
theorem overtaken_25s (hlow : 200000 < target) (hhigh : target ≤ 250000) :
    Overtaken prevEv target 54 ↔ target ≤ 234464 ∧ (prevEv = 29 → 218928 ≤ target) := by
  have hb : entry 54 = ⟨0x13, 250000, 0xFA0000 ||| 10, 29⟩ := rfl
  have hc : entry 55 = ⟨0x10, 300000, 0x12C0000 ||| 10, 28⟩ := rfl
  simp only [Overtaken, hysteresis, hb, hc]
  split <;> split <;> omega

/-- Between 25 and 30 seconds that to bulb does, whose code is the largest number. -/
theorem overtaken_30s (hlow : 250000 < target) (hhigh : target ≤ 300000) :
    Overtaken prevEv target 55 ↔
      ¬ (262144 ≤ target ∧ (prevEv = 253 → 272323 ≤ target)) := by
  have hb : entry 55 = ⟨0x10, 300000, 0x12C0000 ||| 10, 28⟩ := rfl
  have hc : entry 56 = ⟨0x0c, 0xffffffff, 0, bulbEvCode⟩ := rfl
  simp only [Overtaken, hysteresis, hb, hc, bulbEvCode]
  split <;> split <;> omega

end Scan

section Choice

variable {prevEv target i : Nat}

/-- The weight of the entry at an index. -/
def weightAt (prevEv target i : Nat) : ℤ :=
  Nearest.weight (fun d : PropertyDescription => (d.nikon : ℤ)) (fun d => d.ev = prevEv)
    target (entry i)

theorem weightAt_above (h : target ≤ (entry i).nikon) : weightAt prevEv target i =
    if (entry i).ev = prevEv then (entry i).nikon - (target : ℤ)
    else 2 * ((entry i).nikon - (target : ℤ)) := by
  unfold weightAt Nearest.weight
  dsimp only
  rw [abs_of_nonneg (sub_nonneg.mpr (by exact_mod_cast h))]

theorem weightAt_below (h : (entry i).nikon ≤ target) : weightAt prevEv target i =
    if (entry i).ev = prevEv then (target : ℤ) - (entry i).nikon
    else 2 * ((target : ℤ) - (entry i).nikon) := by
  unfold weightAt Nearest.weight
  dsimp only
  rw [abs_of_nonpos (sub_nonpos.mpr (by exact_mod_cast h)), neg_sub]

/-- An entry that is nearer than the one before is favoured or past the middle. -/
theorem past_middle (hlow : (entry i).nikon < target) (hhigh : target ≤ (entry (i + 1)).nikon)
    (hnear : weightAt prevEv target (i + 1) ≤ weightAt prevEv target i) :
    (entry i).nikon + (entry (i + 1)).nikon ≤ 2 * target ∨ (entry (i + 1)).ev = prevEv ∧
      2 * (entry i).nikon + (entry (i + 1)).nikon ≤ 3 * target := by
  rw [weightAt_above hhigh, weightAt_below (by omega)] at hnear
  by_cases hfav : (entry (i + 1)).ev = prevEv
  · refine Or.inr ⟨hfav, ?_⟩
    rw [if_pos hfav] at hnear
    split at hnear
    · omega
    · omega
  · rw [if_neg hfav] at hnear
    left
    split at hnear
    · omega
    · omega

/-- Up to 15 seconds the differences fit, and an entry that is nearer than the one
    before is not overtaken. -/
theorem not_overtaken (hi : 10 ≤ i ∧ i < 52) (hlow : (entry i).nikon < target)
    (hhigh : target ≤ (entry (i + 1)).nikon)
    (hnear : weightAt prevEv target (i + 1) ≤ weightAt prevEv target i) :
    ¬ Overtaken prevEv target (i + 1) := by
  have hroom := entry_beyond (i := i) (by omega) hi.1
  have hne : (entry (i + 2)).ev ≠ (entry (i + 1)).ev := fun h =>
    absurd (entry_ev_inj (by omega) (by omega) h) (by omega)
  have hmid := past_middle hlow hhigh hnear
  intro hover
  unfold Overtaken hysteresis at hover
  rw [show i + 1 + 1 = i + 2 from rfl] at hover
  rcases Nat.lt_or_eq_of_le (Nat.le_of_lt_succ hi.2) with hlt | rfl
  · -- The difference to the next entry is larger even when it is halved.
    have hspan := (entry_gaps i (by omega)).2.2.2 hlt
    rw [Nat.mod_eq_of_lt (by omega), Nat.mod_eq_of_lt (by omega)] at hover
    split at hover
    · split at hover
      · omega
      · omega
    · split at hover
      · omega
      · omega
  · -- At 15 seconds only a target that is nearer to 13 seconds makes it wrap.
    have ha : entry 51 = ⟨0x1b, 130000, 0x820000 ||| 10, 32⟩ := rfl
    have hb : entry 52 = ⟨0x18, 150000, 0x960000 ||| 10, 31⟩ := rfl
    have hc : entry 53 = ⟨0x15, 200000, 0xC80000 ||| 10, 30⟩ := rfl
    simp only [ha, hb, hc, Nat.reduceAdd] at hlow hhigh hmid hover
    split at hover
    · split at hover
      · omega
      · omega
    · split at hover
      · omega
      · omega

/-- Where neighbours are too close to each other a target in tenths of a millisecond
    that stands for whole ones is still nearer to the upper than to an entry past them. -/
theorem weightAt_le_of_near {j : Nat} (hi : i = 29 ∨ i = 52) (hj : j < i)
    (hlow : (entry i).nikon < target) (hhigh : target ≤ (entry (i + 1)).nikon)
    (hten : 10 ∣ target)
    (hwrap : 150000 < target ∧ target ≤ 184464 → prevEv = 30)
    (hnear : weightAt prevEv target (i + 1) ≤ weightAt prevEv target i) :
    weightAt prevEv target (i + 1) ≤ |((entry j).nikon : ℤ) - target| := by
  have hmid := past_middle hlow hhigh hnear
  have hle := entry_le (Nat.le_sub_one_of_lt hj) (by omega)
  have hpred := entry_le (show i - 1 ≤ i by omega) (by omega)
  rw [weightAt_above hhigh, abs_of_nonpos (by omega), neg_sub]
  rcases hi with rfl | rfl
  · have hz : entry 28 = ⟨0x58, 666, 0x010000 ||| 15, 55⟩ := rfl
    have ha : entry 29 = ⟨0x55, 769, 0x010000 ||| 13, 54⟩ := rfl
    have hb : entry 30 = ⟨0x53, 1000, 0x010000 ||| 10, 53⟩ := rfl
    simp only [hz, ha, hb, Nat.reduceAdd, Nat.reduceSub] at hlow hhigh hmid hle ⊢
    split
    · omega
    · omega
  · have hz : entry 51 = ⟨0x1b, 130000, 0x820000 ||| 10, 32⟩ := rfl
    have ha : entry 52 = ⟨0x18, 150000, 0x960000 ||| 10, 31⟩ := rfl
    have hb : entry 53 = ⟨0x15, 200000, 0xC80000 ||| 10, 30⟩ := rfl
    simp only [hz, ha, hb, Nat.reduceAdd, Nat.reduceSub] at hlow hhigh hmid hle ⊢
    split
    · omega
    · omega

end Choice

/-! ### What is returned -/

section Returned

variable {prevEv bulbTime i : Nat}

/-- The entry chosen where the scan stops. -/
def chosen (prevEv target i : Nat) : Nat := if Overtaken prevEv target i then i + 1 else i

theorem bulbToShutterEv_eq (prevEv : Nat) {target : Nat} (hpos : 0 < bulbTime)
    (htarget : u32 (bulbTime * 10) = target) (hi : i < 55) (hlow : (entry i).nikon < target)
    (hhigh : target ≤ (entry (i + 1)).nikon) :
    bulbToShutterEv prevEv bulbTime =
      some (min (entry (chosen prevEv target (i + 1))).ev 69,
        min (entry (chosen prevEv target (i + 1))).ev 69) := by
  unfold bulbToShutterEv
  rw [if_neg (by omega)]
  simp only [htarget, findIdx?_of_between (by omega) hlow hhigh, chooseEv_eq (by omega) hhigh,
    Option.bind_eq_bind, Option.bind_some, maxExtendedRampShutter, chosen]
  split
  · rfl
  · rfl

/-- A target longer than every length is looked up past the table. -/
theorem bulbToShutterEv_eq_none (hpos : 0 < bulbTime) (hlong : 300000 < u32 (bulbTime * 10)) :
    bulbToShutterEv prevEv bulbTime = none := by
  have hmax : u32 (bulbTime * 10) < 4294967296 := u32_lt _
  have hlast : (entry (55 + 1)).nikon = 4294967295 := nikon_bulb
  have hbefore := nikon_30s
  have hfind := @findIdx?_of_between (u32 (bulbTime * 10)) 55 (by omega) (by omega) (by omega)
  unfold bulbToShutterEv
  rw [if_neg (by omega)]
  simp only [hfind, Nat.reduceAdd, chooseEv_last, Option.bind_eq_bind, Option.bind_none]

/-- The entry whose limited value is that of the one chosen is that entry, as long as
    the value is not limited. -/
theorem eq_of_limited {j k : Nat} (hj : j < 57) (hk : 14 < k ∧ k < 56)
    (h : min (entry k).ev 69 = min (entry j).ev 69) : j = k := by
  have hlt := (entry_limit (by omega)).mpr hk
  exact entry_ev_inj hj (by omega) (by omega)

end Returned

/-! ### Up to thirty seconds -/

section Short

variable {prevEv bulbTime i : Nat}

/-- Only a length longer than every entry is not taken as it is. -/
theorem nearestEntry_of_le {d : PropertyDescription} (hle : bulbTime * 10 ≤ 300000) :
    NearestEntry prevEv bulbTime d ↔
      Nearest.IsNearest (fun d : PropertyDescription => (d.nikon : ℤ)) (fun d => d.ev = prevEv)
        {d | d ∈ timedEntries} ((bulbTime * 10 : ℕ) : ℤ) d := by
  unfold NearestEntry longestTime
  rw [Nat.min_eq_left hle]

/-- The entry the scan stops at is the nearest when it is nearer than the one before. -/
theorem nearestEntry_iff (hi : 9 ≤ i ∧ i < 55) (hlow : (entry i).nikon < bulbTime * 10)
    (hhigh : bulbTime * 10 ≤ (entry (i + 1)).nikon)
    (hwrap : 150000 < bulbTime * 10 ∧ bulbTime * 10 ≤ 184464 → prevEv = 30) :
    NearestEntry prevEv bulbTime (entry (i + 1)) ↔
      weightAt prevEv (bulbTime * 10) (i + 1) ≤ weightAt prevEv (bulbTime * 10) i := by
  have h55 := nikon_30s
  have hle := entry_le (show i + 1 ≤ 55 by omega) (by omega)
  rw [nearestEntry_of_le (by omega)]
  refine Nearest.upper_isNearest_iff (mem_timedEntries.mpr ⟨i, by omega, by omega, rfl⟩)
    (mem_timedEntries.mpr ⟨i + 1, by omega, by omega, rfl⟩) ?_
  intro hnear e he hea heb
  rcases mem_timedEntries.mp he with ⟨j, hone, hle, rfl⟩
  have hji : j ≠ i := fun h => hea (h ▸ rfl)
  have hjb : j ≠ i + 1 := fun h => heb (h ▸ rfl)
  have hlow' : ((entry i).nikon : ℤ) ≤ ((bulbTime * 10 : ℕ) : ℤ) := by exact_mod_cast hlow.le
  have hhigh' : ((bulbTime * 10 : ℕ) : ℤ) ≤ ((entry (i + 1)).nikon : ℤ) := by
    exact_mod_cast hhigh
  rcases Nat.lt_or_gt_of_ne hji with hlt | hgt
  · by_cases hexc : i = 29 ∨ i = 52
    · exact weightAt_le_of_near hexc hlt hlow hhigh ⟨bulbTime, Nat.mul_comm _ _⟩ hwrap hnear
    · have hroom := entry_room_below hi.2 hlt (by omega)
      have hmono := entry_le hlt.le (by omega)
      exact Nearest.weight_le_abs_of_room hlow' hhigh' hnear (Or.inl ⟨by omega,
        by omega⟩)
  · have hroom := entry_room_above (i := i) (j := j) (by omega) (by omega)
    have hmono := entry_le (show i + 1 ≤ j by omega) (by omega)
    exact Nearest.weight_le_abs_of_room hlow' hhigh' hnear (Or.inr ⟨by omega,
      by omega⟩)

/-- The one after it never is. -/
theorem not_nearestEntry (hi : 10 ≤ i ∧ i < 54) (hlow : (entry i).nikon < bulbTime * 10)
    (hhigh : bulbTime * 10 ≤ (entry (i + 1)).nikon) :
    ¬ NearestEntry prevEv bulbTime (entry (i + 2)) := by
  have hroom := entry_beyond hi.2 hi.1
  have hmono := entry_step (i + 1) (by omega)
  have h55 := nikon_30s
  have hle := entry_le (show i + 1 ≤ 55 by omega) (by omega)
  rw [nearestEntry_of_le (by omega)]
  refine Nearest.not_isNearest_beyond (a := entry i) (b := entry (i + 1))
    (mem_timedEntries.mpr ⟨i, by omega, by omega, rfl⟩)
    (mem_timedEntries.mpr ⟨i + 1, by omega, by omega, rfl⟩) ?_ ?_ ?_ ?_
  · exact_mod_cast hlow.le
  · exact_mod_cast hhigh
  · exact_mod_cast hmono
  · omega

/-- Only one pair of neighbours has a target between them. -/
theorem between_unique {j target : Nat} (hi : i < 56) (hj : j < 56)
    (hlow : (entry i).nikon < target) (hhigh : target ≤ (entry (i + 1)).nikon)
    (hlow' : (entry j).nikon < target) (hhigh' : target ≤ (entry (j + 1)).nikon) : i = j := by
  rcases Nat.lt_trichotomy i j with hlt | heq | hgt
  · have hmono := entry_le (show i + 1 ≤ j by omega) (by omega)
    omega
  · exact heq
  · have hmono := entry_le (show j + 1 ≤ i by omega) (by omega)
    omega

theorem upperNearer_iff (hi : i < 56) (hlow : (entry i).nikon < bulbTime * 10)
    (hhigh : bulbTime * 10 ≤ (entry (i + 1)).nikon) :
    UpperNearer prevEv bulbTime ↔
      weightAt prevEv (bulbTime * 10) (i + 1) ≤ weightAt prevEv (bulbTime * 10) i := by
  constructor
  · rintro ⟨j, a, b, ha, hb, haj, hbj, hnear⟩
    have hj : j + 1 < 57 := (List.getElem?_eq_some_iff.mp hb).1
    rw [entry_eq (by omega), Option.some.injEq] at ha hb
    subst ha hb
    have hji : j = i := between_unique (by omega) hi haj hbj hlow hhigh
    exact hji ▸ hnear
  · exact fun hnear => ⟨i, _, _, entry_eq (by omega), entry_eq (by omega), hlow, hhigh, hnear⟩

/-- An entry with the value returned is not the nearest when the scan has gone on to the
    next one. -/
theorem not_nearest_of_overtaken {k : Nat} (hi : 14 ≤ i ∧ i < 55) (hk : k < 56)
    (hlow : (entry i).nikon < bulbTime * 10) (hhigh : bulbTime * 10 ≤ (entry (i + 1)).nikon)
    (hev : min (entry (i + 2)).ev 69 = min (entry k).ev 69) :
    ¬ NearestEntry prevEv bulbTime (entry k) := by
  rcases Nat.lt_or_eq_of_le (Nat.le_of_lt_succ hi.2) with hlt | rfl
  · rw [eq_of_limited (by omega) ⟨by omega, by omega⟩ hev]
    exact not_nearestEntry ⟨by omega, hlt⟩ hlow hhigh
  · -- Bulb has a value above the limit, as the shortest lengths have.
    intro hnear
    have h54 := nikon_25s
    have h55 : (entry (54 + 1)).nikon = 300000 := nikon_30s
    rw [nearestEntry_of_le (by omega)] at hnear
    have h56 : (entry (54 + 2)).ev = 253 := rfl
    have hshort : k ≤ 14 := by
      have hlimit := entry_limit (i := k) (by omega)
      omega
    have hmono := entry_le hshort (by omega)
    have h14 := nikon_400th
    have hle : weightAt prevEv (bulbTime * 10) k ≤ weightAt prevEv (bulbTime * 10) 54 :=
      hnear.2 _ (mem_timedEntries.mpr ⟨54, by omega, by omega, rfl⟩)
    rw [weightAt_below (by omega), weightAt_below (by omega)] at hle
    split at hle
    · split at hle
      · omega
      · omega
    · split at hle
      · omega
      · omega

/-- The first two targets are lengths of the table. -/
theorem picksNearest_of_le (prevEv : Nat) (hpos : 0 < bulbTime) (hle : bulbTime ≤ 2) :
    PicksNearest prevEv bulbTime ∧ UpperNearer prevEv bulbTime := by
  have hfits : u32 (bulbTime * 10) = bulbTime * 10 := u32_of_lt (by omega)
  have hexact : ∃ i, 9 ≤ i ∧ i < 13 ∧ (entry i).nikon < bulbTime * 10 ∧
      bulbTime * 10 = (entry (i + 1)).nikon ∧
      (entry (i + 1)).nikon + 1 < (entry (i + 2)).nikon ∧
      (entry (i + 2)).nikon < (entry (i + 1)).nikon + 65536 := by
    rcases (show bulbTime = 1 ∨ bulbTime = 2 by omega) with rfl | rfl
    · exact ⟨9, by decide⟩
    · exact ⟨12, by decide⟩
  rcases hexact with ⟨i, hge, hlt, hlow, heq, hgap, hspan⟩
  have hnear : weightAt prevEv (bulbTime * 10) (i + 1) ≤ weightAt prevEv (bulbTime * 10) i := by
    rw [weightAt_above heq.le, weightAt_below hlow.le]
    split
    · split
      · omega
      · omega
    · split
      · omega
      · omega
  have hstay : ¬ Overtaken prevEv (bulbTime * 10) (i + 1) := by
    unfold Overtaken hysteresis
    rw [← heq, Nat.sub_self, show i + 1 + 1 = i + 2 from rfl]
    split
    · split
      · omega
      · omega
    · split
      · omega
      · omega
  have hres := bulbToShutterEv_eq prevEv hpos hfits (by omega) hlow heq.le
  rw [chosen, if_neg hstay] at hres
  refine ⟨⟨_, _, _, hres, (nearestEntry_iff (by omega) hlow heq.le ?_).mpr hnear, rfl⟩,
    (upperNearer_iff (by omega) hlow heq.le).mpr hnear⟩
  omega

/-- The scan does not go on from the nearer entry, without the two stretches where the
    difference to the next one does not fit. -/
theorem stays_of_near (hi : 14 ≤ i ∧ i < 55) (hlow : (entry i).nikon < bulbTime * 10)
    (hhigh : bulbTime * 10 ≤ (entry (i + 1)).nikon)
    (hnear : weightAt prevEv (bulbTime * 10) (i + 1) ≤ weightAt prevEv (bulbTime * 10) i)
    (h20 : 15000 < bulbTime ∧ bulbTime ≤ 18446 → prevEv = 30 ∧ bulbTime ≤ 16892)
    (h25 : 20000 < bulbTime ∧ bulbTime ≤ 23446 → prevEv = 29 ∧ bulbTime ≤ 21892) :
    ¬ Overtaken prevEv (bulbTime * 10) (i + 1) := by
  have h52 := nikon_15s
  have h53 := nikon_20s
  have h54 := nikon_25s
  have h55 := nikon_30s
  rcases Nat.lt_or_ge i 52 with h | h
  · exact not_overtaken ⟨by omega, h⟩ hlow hhigh hnear
  · have hmid := past_middle hlow hhigh hnear
    rcases (show i = 52 ∨ i = 53 ∨ i = 54 by omega) with rfl | rfl | rfl <;>
      simp only [Nat.reduceAdd] at hhigh hmid ⊢
    · rw [overtaken_20s (by omega) (by omega)]
      omega
    · rw [overtaken_25s (by omega) (by omega)]
      omega
    · have hev := ev_30s
      rw [overtaken_30s (by omega) (by omega)]
      omega

theorem picksNearest_iff_of_le (hpos : 2 < bulbTime) (hle : bulbTime ≤ 30000) :
    PicksNearest prevEv bulbTime ↔ UpperNearer prevEv bulbTime ∧
      (15000 < bulbTime ∧ bulbTime ≤ 18446 → prevEv = 30 ∧ bulbTime ≤ 16892) ∧
      (20000 < bulbTime ∧ bulbTime ≤ 23446 → prevEv = 29 ∧ bulbTime ≤ 21892) := by
  have hfits : u32 (bulbTime * 10) = bulbTime * 10 := u32_of_lt (by omega)
  have h14 := nikon_400th
  have h52 := nikon_15s
  have h53 := nikon_20s
  have h54 := nikon_25s
  have h55 := nikon_30s
  rcases @exists_between (bulbTime * 10) (by omega) (by omega) with ⟨i, hi, hlow, hhigh⟩
  -- The scan stops after the entries whose values are limited, and before bulb.
  have hge : 14 ≤ i := by
    by_contra hlt
    have hmono := entry_le (show i + 1 ≤ 14 by omega) (by omega)
    omega
  have hlt : i < 55 := by
    by_contra hge
    rw [show i = 55 by omega] at hlow
    omega
  have hres := bulbToShutterEv_eq prevEv (by omega) hfits hlt hlow hhigh
  rw [upperNearer_iff hi hlow hhigh]
  constructor
  · rintro ⟨ev, kept, d, hsome, hnear, hev⟩
    rw [nearestEntry_of_le (by omega)] at hnear
    rcases mem_timedEntries.mp hnear.1 with ⟨k, hone, hle', rfl⟩
    rw [hres, Option.some.injEq, Prod.mk.injEq] at hsome
    rw [← hsome.1, chosen] at hev
    by_cases hover : Overtaken prevEv (bulbTime * 10) (i + 1)
    · rw [if_pos hover] at hev
      exact absurd ((nearestEntry_of_le (by omega)).mpr hnear)
        (not_nearest_of_overtaken ⟨hge, hlt⟩ (by omega) hlow hhigh hev)
    · rw [if_neg hover] at hev
      have hk := eq_of_limited (by omega) ⟨by omega, by omega⟩ hev
      subst hk
      refine ⟨hnear.2 _ (mem_timedEntries.mpr ⟨i, by omega, by omega, rfl⟩), fun hs => ?_,
        fun hs => ?_⟩
      · have hi52 : i = 52 := between_unique (by omega) (by omega) hlow hhigh (by omega)
          (show bulbTime * 10 ≤ (entry 53).nikon by omega)
        subst hi52
        rw [overtaken_20s (by omega) (by omega)] at hover
        omega
      · have hi53 : i = 53 := between_unique (by omega) (by omega) hlow hhigh (by omega)
          (show bulbTime * 10 ≤ (entry 54).nikon by omega)
        subst hi53
        rw [overtaken_25s (by omega) (by omega)] at hover
        omega
  · rintro ⟨hnear, h20, h25⟩
    rw [chosen, if_neg (stays_of_near ⟨hge, hlt⟩ hlow hhigh hnear h20 h25)] at hres
    exact ⟨_, _, _, hres, (nearestEntry_iff ⟨by omega, hlt⟩ hlow hhigh (by omega)).mpr hnear, rfl⟩

end Short

/-! ### Longer -/

section Long

variable {prevEv bulbTime : Nat}

/-- The nearest entry to a length longer than all is the longest. -/
theorem nearestEntry_of_long {k : Nat} (hk : 1 ≤ k ∧ k ≤ 55) (hlong : 30000 < bulbTime) :
    NearestEntry prevEv bulbTime (entry k) ↔ k = 55 := by
  have h55 := nikon_30s
  have h54 := nikon_25s
  have hzero : weightAt prevEv 300000 55 = 0 := by
    rw [weightAt_below (by omega), h55]
    split
    · omega
    · omega
  have hpos : ∀ j, 0 ≤ weightAt prevEv 300000 j := fun j =>
    (abs_nonneg _).trans Nearest.abs_le_weight
  unfold NearestEntry longestTime
  rw [Nat.min_eq_right (by omega)]
  constructor
  · intro hnear
    by_contra hne
    have hle : weightAt prevEv 300000 k ≤ weightAt prevEv 300000 55 :=
      hnear.2 _ (mem_timedEntries.mpr ⟨55, by omega, by omega, rfl⟩)
    have hmono := entry_le (show k ≤ 54 by omega) (by omega)
    rw [hzero, weightAt_below (by omega)] at hle
    split at hle
    · omega
    · omega
  · rintro rfl
    refine ⟨mem_timedEntries.mpr ⟨55, by omega, by omega, rfl⟩, fun e he => ?_⟩
    rcases mem_timedEntries.mp he with ⟨j, _, _, rfl⟩
    exact hzero.le.trans (hpos j)

/-- So the choice is right when it comes to the value of the longest. -/
theorem picksNearest_iff_returns (hlong : 30000 < bulbTime) :
    PicksNearest prevEv bulbTime ↔ ∃ kept, bulbToShutterEv prevEv bulbTime = some (28, kept) := by
  have hev := ev_30s
  constructor
  · rintro ⟨ev, kept, d, hres, hnear, heq⟩
    rcases mem_timedEntries.mp hnear.1 with ⟨k, hone, hle, rfl⟩
    have hk := (nearestEntry_of_long ⟨hone, hle⟩ hlong).mp hnear
    rw [hk, hev] at heq
    rw [heq] at hres
    exact ⟨kept, hres⟩
  · rintro ⟨kept, hres⟩
    refine ⟨28, kept, entry 55, hres, (nearestEntry_of_long (by omega) hlong).mpr rfl, ?_⟩
    rw [hev]
    rfl

/-- The error entry is not shorter than nothing, and the next one is as short. -/
theorem bulbToShutterEv_zero (prevEv : Nat) (hpos : 0 < bulbTime)
    (hzero : u32 (bulbTime * 10) = 0) :
    ∃ ev, bulbToShutterEv prevEv bulbTime = some (min ev 69, min ev 69) ∧
      (ev = 255 ∨ ev = 82) := by
  have hfind : ptpShutterList.findIdx? (fun d => decide (0 ≤ d.nikon)) = some 0 := rfl
  unfold bulbToShutterEv
  rw [if_neg (by omega)]
  simp only [hzero, hfind, chooseEv_eq (show 0 < 56 by omega) (Nat.zero_le (entry 0).nikon),
    Option.bind_eq_bind, Option.bind_some]
  refine ⟨_, rfl, ?_⟩
  split
  · exact Or.inr rfl
  · exact Or.inl rfl

/-- The value of the longest is returned when the scan chooses it. -/
theorem returns_longest_iff {target i : Nat} (hpos : 0 < bulbTime)
    (htarget : u32 (bulbTime * 10) = target) (hi : i < 55) (hlow : (entry i).nikon < target)
    (hhigh : target ≤ (entry (i + 1)).nikon) :
    (∃ kept, bulbToShutterEv prevEv bulbTime = some (28, kept)) ↔
      chosen prevEv target (i + 1) = 55 := by
  have hev := ev_30s
  rw [bulbToShutterEv_eq prevEv hpos htarget hi hlow hhigh]
  constructor
  · rintro ⟨_, h⟩
    rw [Option.some.injEq, Prod.mk.injEq] at h
    refine eq_of_limited ?_ (show 14 < 55 ∧ 55 < 56 by omega) (by omega)
    unfold chosen
    split
    · omega
    · omega
  · intro h
    rw [h, hev]
    exact ⟨28, rfl⟩

theorem picksNearest_iff_of_long (hlong : 30000 < bulbTime) (hfits : bulbTime < 4294967296) :
    PicksNearest prevEv bulbTime ↔ 4294967296 ≤ bulbTime * 10 ∧
      (200000 < u32 (bulbTime * 10) ∧ u32 (bulbTime * 10) ≤ 234464 ∧
          (prevEv = 29 → 218928 ≤ u32 (bulbTime * 10)) ∨
        262144 ≤ u32 (bulbTime * 10) ∧ u32 (bulbTime * 10) ≤ 300000 ∧
          (prevEv = 253 → 272323 ≤ u32 (bulbTime * 10))) := by
  have hwrap : 4294967296 ≤ bulbTime * 10 ∨ u32 (bulbTime * 10) = bulbTime * 10 := by
    rcases Nat.lt_or_ge (bulbTime * 10) 4294967296 with h | h
    · exact Or.inr (u32_of_lt h)
    · exact Or.inl h
  rw [picksNearest_iff_returns hlong]
  generalize htarget : u32 (bulbTime * 10) = target at *
  rcases Nat.lt_or_ge 300000 target with hout | hin
  · rw [bulbToShutterEv_eq_none (by omega) (by omega)]
    constructor
    · rintro ⟨_, h⟩
      exact absurd h (by simp only [reduceCtorEq, not_false_eq_true])
    · omega
  · rcases Nat.eq_zero_or_pos target with hzero | hpos
    · rcases bulbToShutterEv_zero prevEv (by omega) (htarget.trans hzero) with ⟨ev, hres, hev⟩
      rw [hres]
      constructor
      · rintro ⟨_, h⟩
        rw [Option.some.injEq, Prod.mk.injEq] at h
        omega
      · omega
    · have h53 := nikon_20s
      have h54 := nikon_25s
      have h55 := nikon_30s
      rcases exists_between hpos (by omega) with ⟨i, hi, hlow, hhigh⟩
      have hlt : i < 55 := by
        by_contra hge
        rw [show i = 55 by omega] at hlow
        omega
      rw [returns_longest_iff (by omega) htarget hlt hlow hhigh, chosen]
      rcases Nat.lt_or_ge i 53 with hbelow | hge
      · have hmono := entry_le (show i + 1 ≤ 53 by omega) (by omega)
        constructor
        · intro h
          split at h
          · omega
          · omega
        · omega
      · rcases (show i = 53 ∨ i = 54 by omega) with rfl | rfl
        · simp only [Nat.reduceAdd] at hhigh ⊢
          rw [ite_eq_left_iff, overtaken_25s (by omega) (by omega)]
          omega
        · simp only [Nat.reduceAdd] at hhigh ⊢
          rw [ite_eq_right_iff, overtaken_30s (by omega) (by omega)]
          omega

end Long

/-- `bulbToShutterEv` picks the nearest shutter speed for some lengths and no others. -/
theorem bulbToShutterEv_nearest_iff (prevEv bulbTime : Nat) (hpos : 0 < bulbTime)
    (hfits : bulbTime < 4294967296) :
    PicksNearest prevEv bulbTime ↔ Accurate prevEv bulbTime := by
  unfold Accurate
  rcases Nat.lt_or_ge 30000 bulbTime with hlong | hshort
  · rw [picksNearest_iff_of_long hlong hfits]
    omega
  · rcases Nat.lt_or_ge 2 bulbTime with htwo | hle
    · rw [picksNearest_iff_of_le htwo hshort]
      constructor
      · exact fun h => Or.inl ⟨hshort, h⟩
      · rintro (⟨_, h⟩ | ⟨h, _⟩)
        · exact h
        · omega
    · have hboth := picksNearest_of_le prevEv hpos hle
      exact ⟨fun _ => Or.inl ⟨hshort, hboth.2, by omega, by omega⟩, fun _ => hboth.1⟩

/-- Half a second, with nothing chosen before. -/
theorem bulbToShutterEv_nearest_half :
    0 < 500 ∧ 500 < 4294967296 ∧ (PicksNearest 0 500 ↔ Accurate 0 500) :=
  ⟨by omega, by omega, bulbToShutterEv_nearest_iff 0 500 (by omega) (by omega)⟩

/-- For 17 milliseconds 1/50 is chosen, and 1/60 is nearer. -/
theorem bulbToShutterEv_not_nearest :
    ¬ ∀ prevEv bulbTime : Nat, 0 < bulbTime → bulbTime < 4294967296 →
      PicksNearest prevEv bulbTime := by
  intro hall
  rcases hall 0 17 (by omega) (by omega) with ⟨ev, kept, d, hres, hnear, hev⟩
  have h50 : bulbToShutterEv 0 17 = some (60, 60) := rfl
  rw [h50, Option.some.injEq, Prod.mk.injEq] at hres
  rcases mem_timedEntries.mp hnear.1 with ⟨k, hone, hle, rfl⟩
  have hk : k = 23 := by
    refine eq_of_limited (k := 23) (by omega) (by omega) ?_
    exact hres.1.trans hev
  have hle : weightAt 0 170 k ≤ weightAt 0 170 22 :=
    hnear.2 _ (mem_timedEntries.mpr ⟨22, by omega, by omega, rfl⟩)
  rw [hk] at hle
  exact absurd hle (by decide)

end Shutter

end TimelapsePlus
